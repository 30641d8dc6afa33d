import Mathlib.Algebra.Group.Nat.Defs
import ChatClient.Text.Utf8

/-! Decoding gives back exactly what was encoded. The decoder runs through the bytes of a
character with the part of its code that it has seen; a character begun and the bytes that
complete it are therefore related to the whole code first, and the codes to the bytes that spell
them. -/
namespace ChatClient.TextEncoding
open Text.Utf8

/-- The bytes that a character begun still needs, and the character that they make of it. -/
inductive Completes : Begun → List UInt8 → Char → Prop where
  | last {code seen low high : Nat} (b : UInt8) (above : low ≤ b.toNat) (below : b.toNat ≤ high) :
      Completes ⟨code, seen, 1, low, high⟩ [b] (Char.ofNat (code * 64 + b.toNat % 64))
  | more {code seen due low high : Nat} {rest : List UInt8} {c : Char} (b : UInt8)
      (above : low ≤ b.toNat) (below : b.toNat ≤ high)
      (completes : Completes ⟨code * 64 + b.toNat % 64, seen + 1, due + 1, 0x80, 0xBF⟩ rest c) :
      Completes ⟨code, seen, due + 2, low, high⟩ (b :: rest) c

/-- The last bytes of a character, six bits of its code in each. -/
def continuation : Nat → Nat → List UInt8
  | 0, _ => []
  | due + 1, code => UInt8.ofNat (0x80 + code / 64 ^ due % 64) :: continuation due code

/-- Whether a character begun can still become the one with this code. -/
structure Allows (begun : Begun) (code : Nat) : Prop where
  above : begun.code * 64 + begun.low ≤ code / 64 ^ (begun.due - 1) + 0x80
  below : code / 64 ^ (begun.due - 1) + 0x80 ≤ begun.code * 64 + begun.high

private theorem continuation_byte {b : UInt8} (above : 0x80 ≤ b.toNat) (below : b.toNat ≤ 0xBF) :
    UInt8.ofNat (0x80 + b.toNat % 64) = b := by
  apply UInt8.toNat_inj.mp
  rw [UInt8.toNat_ofNat']
  omega

/-- The bytes that complete a character are the last of those that spell it. -/
theorem completes_continuation {begun : Begun} {tail : List UInt8} {c : Char}
    (completes : Completes begun tail c) (above : 0x80 ≤ begun.low) (below : begun.high ≤ 0xBF) :
    ∃ code, c = .ofNat code ∧ tail = continuation begun.due code ∧ Allows begun code := by
  induction completes with
  | @last code seen low high b lowest highest =>
    simp only at above below
    refine ⟨_, rfl, ?_, ?_, ?_⟩
    · have same : (code * 64 + b.toNat % 64) % 64 = b.toNat % 64 := by omega
      simp only [continuation, Nat.pow_zero, Nat.div_one, same]
      rw [continuation_byte (by omega) (by omega)]
    · simp only [Nat.sub_self, Nat.pow_zero, Nat.div_one]
      omega
    · simp only [Nat.sub_self, Nat.pow_zero, Nat.div_one]
      omega
  | @more code seen due low high rest c b lowest highest completes ih =>
    simp only at above below
    obtain ⟨whole, rfl, rfl, least, most⟩ := ih (Nat.le_refl _) (Nat.le_refl _)
    simp only [Nat.add_sub_cancel] at least most
    have shifted : whole / 64 ^ (due + 1) = code * 64 + b.toNat % 64 := by
      rw [Nat.pow_succ, ← Nat.div_div_eq_div_mul]
      omega
    refine ⟨whole, rfl, ?_, ?_, ?_⟩
    · have same : (code * 64 + b.toNat % 64) % 64 = b.toNat % 64 := by omega
      simp only [continuation, shifted, same]
      rw [continuation_byte (by omega) (by omega)]
    · simp only [Nat.reduceSubDiff, shifted]
      omega
    · simp only [Nat.reduceSubDiff, shifted]
      omega

/-- The last bytes of any character that one begun can still become complete it. -/
theorem continuation_completes {start seen due low high code : Nat}
    (allows : Allows ⟨start, seen, due + 1, low, high⟩ code) (above : 0x80 ≤ low)
    (below : high ≤ 0xBF) :
    Completes ⟨start, seen, due + 1, low, high⟩ (continuation (due + 1) code) (.ofNat code) := by
  obtain ⟨least, most⟩ := allows
  simp only [Nat.add_sub_cancel] at least most
  have byte : (UInt8.ofNat (0x80 + code / 64 ^ due % 64)).toNat = 0x80 + code / 64 ^ due % 64 := by
    rw [UInt8.toNat_ofNat']
    omega
  have taken : start * 64 + (0x80 + code / 64 ^ due % 64) % 64 = code / 64 ^ due := by omega
  induction due generalizing start seen low high with
  | zero =>
    have made := @Completes.last start seen low high (UInt8.ofNat (0x80 + code / 64 ^ 0 % 64))
      (by omega) (by omega)
    rw [byte, taken] at made
    simpa only [continuation, Nat.pow_zero, Nat.div_one] using made
  | succ due ih =>
    refine .more _ (by omega) (by omega) ?_
    rw [byte, taken]
    have shifted : code / 64 ^ due / 64 = code / 64 ^ (due + 1) := by
      rw [Nat.pow_succ, ← Nat.div_div_eq_div_mul]
    have next : (UInt8.ofNat (0x80 + code / 64 ^ due % 64)).toNat =
        0x80 + code / 64 ^ due % 64 := by
      rw [UInt8.toNat_ofNat']
      omega
    exact ih (Nat.le_refl _) (Nat.le_refl _) (by omega) (by omega) next (by omega)

/-- The bytes of a character with this code, the first one apart. -/
theorem encode_char_spec {code : Nat} (valid : code.isValidChar) :
    encodeChar (.ofNat code) =
      if code < 0x80 then [UInt8.ofNat code]
      else if code < 0x800 then UInt8.ofNat (0xC0 + code / 64) :: continuation 1 code
      else if code < 0x10000 then UInt8.ofNat (0xE0 + code / 4096) :: continuation 2 code
      else UInt8.ofNat (0xF0 + code / 262144) :: continuation 3 code := by
  have same : (Char.ofNat code).toNat = code := by
    rw [Char.ofNat, dif_pos valid]
    rfl
  simp [encodeChar, same, continuation]

/-- The first bytes of longer characters, each with what it asks for. -/
inductive Leads (b : UInt8) : Begun → Prop where
  | two (above : 0xC2 ≤ b.toNat) (below : b.toNat < 0xE0) :
      Leads b ⟨b.toNat % 32, 1, 1, 0x80, 0xBF⟩
  | three (above : 0xE1 ≤ b.toNat) (below : b.toNat < 0xF0) (other : b.toNat ≠ 0xED) :
      Leads b ⟨b.toNat % 16, 1, 2, 0x80, 0xBF⟩
  | shortestThree (byte : b.toNat = 0xE0) : Leads b ⟨0, 1, 2, 0xA0, 0xBF⟩
  | unpaired (byte : b.toNat = 0xED) : Leads b ⟨13, 1, 2, 0x80, 0x9F⟩
  | four (above : 0xF1 ≤ b.toNat) (below : b.toNat < 0xF4) :
      Leads b ⟨b.toNat % 8, 1, 3, 0x80, 0xBF⟩
  | shortestFour (byte : b.toNat = 0xF0) : Leads b ⟨0, 1, 3, 0x90, 0xBF⟩
  | highest (byte : b.toNat = 0xF4) : Leads b ⟨4, 1, 3, 0x80, 0x8F⟩

theorem begin_begun_iff {b : UInt8} {begun : Begun} : begin? b = .inr begun ↔ Leads b begun := by
  constructor
  · intro begins
    unfold begin? at begins
    simp only at begins
    repeat' split at begins
    all_goals cases begins
    · exact .two (by omega) (by omega)
    · exact .shortestThree (by assumption)
    · exact .unpaired (by assumption)
    · exact .three (by omega) (by omega) (by assumption)
    · exact .shortestFour (by assumption)
    · exact .four (by omega) (by omega)
    · exact .highest (by assumption)
  · intro leads
    unfold begin?
    cases leads with
    | two above below =>
      simp only
      rw [if_neg (by omega), if_neg (by omega), if_pos (by omega)]
    | three above below other =>
      simp only
      rw [if_neg (by omega), if_neg (by omega), if_neg (by omega), if_neg (by omega),
        if_neg other, if_pos below]
    | shortestThree byte => simp [byte]
    | unpaired byte => simp [byte]
    | four above below =>
      simp only
      rw [if_neg (by omega), if_neg (by omega), if_neg (by omega), if_neg (by omega),
        if_neg (by omega), if_neg (by omega), if_neg (by omega), if_pos below]
    | shortestFour byte => simp [byte]
    | highest byte => simp [byte]

/-- Every byte that begins a character asks for at least one more, in the range of those that go
on. -/
theorem begun_within {b : UInt8} {begun : Begun} (leads : Leads b begun) :
    0x80 ≤ begun.low ∧ begun.high ≤ 0xBF ∧ 0 < begun.due := by
  cases leads <;> simp

/-- A character begun and completed is spelled by all the bytes that it took. -/
theorem encoding_of_begun {b : UInt8} {begun : Begun} {tail : List UInt8} {c : Char}
    (leads : Leads b begun) (completes : Completes begun tail c) : encodeChar c = b :: tail := by
  obtain ⟨above, below, -⟩ := begun_within leads
  obtain ⟨code, rfl, rfl, least, most⟩ := completes_continuation completes above below
  have lead : ∀ n, n = b.toNat → UInt8.ofNat n = b := by
    rintro n rfl
    exact UInt8.ofNat_toNat
  have valid : code < 0xD800 ∨ 0xDFFF < code ∧ code < 0x110000 := by
    cases leads
    all_goals
      simp only [Nat.reduceSub, Nat.reducePow, Nat.div_one] at least most
      omega
  rw [encode_char_spec valid]
  cases leads
  all_goals
    simp only [Nat.reduceSub, Nat.reducePow, Nat.div_one] at least most
    rw [if_neg (by omega)]
  case two => rw [if_pos (by omega), lead _ (by omega)]
  all_goals rw [if_neg (by omega)]
  case three | shortestThree | unpaired => rw [if_pos (by omega), lead _ (by omega)]
  case four | shortestFour | highest => rw [if_neg (by omega), lead _ (by omega)]

/-- The first byte of a longer character begins it as what the other bytes complete. -/
private theorem lead_begins {b : UInt8} {due code : Nat} (valid : code < 0xD800 ∨ 0xDFFF < code)
    (spelled : due = 1 ∧ b.toNat = 0xC0 + code / 64 ∧ 0x80 ≤ code ∧ code < 0x800 ∨
      due = 2 ∧ b.toNat = 0xE0 + code / 4096 ∧ 0x800 ≤ code ∧ code < 0x10000 ∨
      due = 3 ∧ b.toNat = 0xF0 + code / 262144 ∧ 0x10000 ≤ code ∧ code < 0x110000) :
    ∃ begun, Leads b begun ∧ Completes begun (continuation due code) (.ofNat code) := by
  have completes : ∀ {start seen due low high : Nat}, 0x80 ≤ low → high ≤ 0xBF →
      start * 64 + low ≤ code / 64 ^ due + 0x80 → code / 64 ^ due + 0x80 ≤ start * 64 + high →
      Completes ⟨start, seen, due + 1, low, high⟩ (continuation (due + 1) code) (.ofNat code) := by
    intro start seen due low high above below least most
    exact continuation_completes ⟨least, most⟩ above below
  rcases spelled with ⟨rfl, byte, low, high⟩ | ⟨rfl, byte, low, high⟩ | ⟨rfl, byte, low, high⟩
  · exact ⟨_, .two (by omega) (by omega),
      completes (by omega) (by omega) (by omega) (by omega)⟩
  · by_cases first : b.toNat = 0xE0
    · exact ⟨_, .shortestThree first, completes (by omega) (by omega) (by omega) (by omega)⟩
    by_cases surrogates : b.toNat = 0xED
    · exact ⟨_, .unpaired surrogates, completes (by omega) (by omega) (by omega) (by omega)⟩
    · exact ⟨_, .three (by omega) (by omega) surrogates,
        completes (by omega) (by omega) (by omega) (by omega)⟩
  · by_cases first : b.toNat = 0xF0
    · exact ⟨_, .shortestFour first, completes (by omega) (by omega) (by omega) (by omega)⟩
    by_cases last : b.toNat = 0xF4
    · exact ⟨_, .highest last, completes (by omega) (by omega) (by omega) (by omega)⟩
    · exact ⟨_, .four (by omega) (by omega),
        completes (by omega) (by omega) (by omega) (by omega)⟩

/-- How the bytes of a character are taken: one that is a character, or a first one that begins it
and others that complete it. -/
theorem char_begins (c : Char) :
    ∃ b tail, encodeChar c = b :: tail ∧
      (begin? b = .inl (.char c) ∧ tail = [] ∨
        ∃ begun, Leads b begun ∧ Completes begun tail c) := by
  have valid : c.toNat.isValidChar := c.valid
  have bounds : c.toNat < 0xD800 ∨ 0xDFFF < c.toNat ∧ c.toNat < 0x110000 := valid
  rw [← Char.ofNat_toNat c, encode_char_spec valid]
  generalize c.toNat = code at valid bounds
  have byte : ∀ n < 256, (UInt8.ofNat n).toNat = n := by
    intro n small
    rw [UInt8.toNat_ofNat']
    omega
  have single : code < 0xD800 ∨ 0xDFFF < code := by omega
  by_cases one : code < 0x80
  · refine ⟨UInt8.ofNat code, [], by rw [if_pos one], .inl ⟨?_, rfl⟩⟩
    simp only [begin?, byte code (by omega), if_pos one]
  by_cases two : code < 0x800
  · refine ⟨_, _, by rw [if_neg one, if_pos two], .inr (lead_begins single ?_)⟩
    exact .inl ⟨rfl, byte _ (by omega), by omega, two⟩
  by_cases three : code < 0x10000
  · refine ⟨_, _, by rw [if_neg one, if_neg two, if_pos three], .inr (lead_begins single ?_)⟩
    exact .inr (.inl ⟨rfl, byte _ (by omega), by omega, three⟩)
  · refine ⟨_, _, by rw [if_neg one, if_neg two, if_neg three], .inr (lead_begins single ?_)⟩
    exact .inr (.inr ⟨rfl, byte _ (by omega), by omega, by omega⟩)

section Pieces
variable {b : UInt8} {begun : Begun} {tail : List UInt8} {c : Char}

theorem pieces_of_completed (completes : Completes begun tail c) (rest : List UInt8) :
    piecesFrom (some begun) (tail ++ rest) = .char c :: piecesFrom none rest := by
  induction completes with
  | last b above below => simp [piecesFrom, above, below]
  | more b above below completes ih => simpa [piecesFrom, above, below] using ih

theorem pieces_encode_char (c : Char) (rest : List UInt8) :
    pieces (encodeChar c ++ rest) = .char c :: pieces rest := by
  obtain ⟨b, tail, spelled, ⟨whole, rfl⟩ | ⟨begun, leads, completes⟩⟩ := char_begins c
  · simp [spelled, pieces, piecesFrom, whole]
  · rw [spelled, List.cons_append]
    simp only [pieces, piecesFrom, begin_begun_iff.mpr leads]
    exact pieces_of_completed completes rest

theorem pieces_encode (chars : List Char) :
    pieces (chars.flatMap encodeChar) = chars.map .char := by
  induction chars with
  | nil => rfl
  | cons c rest ih => rw [List.flatMap_cons, pieces_encode_char, ih, List.map_cons]

theorem join_strict_chars (chars : List Char) (index : Nat) :
    joinStrict index (chars.map .char) = .ok chars := by
  induction chars generalizing index with
  | nil => rfl
  | cons c rest ih => rw [List.map_cons, joinStrict, ih, Except.map]

private theorem begin_whole {piece : Piece} (begins : begin? b = .inl piece) :
    (∃ c, piece = .char c ∧ encodeChar c = [b]) ∨ piece = .invalid 1 := by
  unfold begin? at begins
  simp only at begins
  repeat' split at begins
  all_goals cases begins
  · rename_i small
    refine .inl ⟨_, rfl, ?_⟩
    rw [encode_char_spec (by unfold Nat.isValidChar; omega), if_pos small, UInt8.ofNat_toNat]
  · exact .inr rfl
  · exact .inr rfl

/-- The bytes complete the character begun, and then spell the other characters. -/
def FollowedBy (begun : Begun) (bytes : List UInt8) (chars : List Char) : Prop :=
  ∃ tail c later, Completes begun tail c ∧ chars = c :: later ∧
    bytes = tail ++ later.flatMap encodeChar

private theorem join_strict_char {index : Nat} {later : List Piece} {chars : List Char}
    (joined : joinStrict index (.char c :: later) = .ok chars) :
    ∃ more, chars = c :: more ∧ joinStrict (index + c.utf8Size) later = .ok more := by
  rw [joinStrict] at joined
  cases rest : joinStrict (index + c.utf8Size) later with
  | error fault => simp [rest, Except.map] at joined
  | ok more =>
    simp only [rest, Except.map, Except.ok.injEq] at joined
    exact ⟨more, joined.symm, rfl⟩

/-- Bytes that are characters throughout are the bytes of these characters. The induction stops
inside of characters as well, where the bytes ahead complete the one begun first. -/
theorem bytes_of_chars (bytes : List UInt8) (chars : List Char) (index : Nat) :
    (joinStrict index (piecesFrom none bytes) = .ok chars → bytes = chars.flatMap encodeChar) ∧
      ∀ begun, 0 < begun.due → joinStrict index (piecesFrom (some begun) bytes) = .ok chars →
        FollowedBy begun bytes chars := by
  induction bytes generalizing chars index with
  | nil =>
    constructor
    · intro joined
      cases joined
      rfl
    · intro begun owed joined
      simp [piecesFrom, joinStrict] at joined
  | cons b rest ih =>
    constructor
    · intro joined
      simp only [piecesFrom] at joined
      cases begins : begin? b with
      | inl piece =>
        simp only [begins] at joined
        rcases begin_whole begins with ⟨c, rfl, spelled⟩ | rfl
        · obtain ⟨more, rfl, later⟩ := join_strict_char joined
          rw [List.flatMap_cons, spelled, ← (ih _ _).1 later]
          rfl
        · simp [joinStrict] at joined
      | inr begun =>
        have leads := begin_begun_iff.mp begins
        simp only [begins] at joined
        obtain ⟨tail, c, later, completes, rfl, rfl⟩ :=
          (ih _ _).2 begun (begun_within leads).2.2 joined
        rw [List.flatMap_cons, encoding_of_begun leads completes]
        rfl
    · intro begun owed joined
      simp only [piecesFrom] at joined
      obtain ⟨code, seen, due, low, high⟩ := begun
      split at joined
      · rename_i within
        split at joined
        · rename_i last
          simp only at last
          subst last
          obtain ⟨more, rfl, later⟩ := join_strict_char joined
          exact ⟨[b], _, more, .last b within.1 within.2, rfl, by rw [← (ih _ _).1 later]; rfl⟩
        · rename_i further
          simp only at owed further
          obtain ⟨less, rfl⟩ : ∃ less, due = less + 2 := ⟨due - 2, by omega⟩
          obtain ⟨tail, c, later, completes, rfl, rfl⟩ := (ih _ _).2 _ (by simp) joined
          exact ⟨b :: tail, c, later, .more b within.1 within.2 completes, rfl, rfl⟩
      · simp [joinStrict] at joined

end Pieces

/-- Decoding gives a text for its own bytes and for no others. -/
theorem decode_ok_iff (bytes : List UInt8) (text : String) :
    decode bytes = .ok text ↔ encode text = bytes := by
  constructor
  · intro decoded
    unfold decode at decoded
    cases joined : joinStrict 0 (pieces bytes) with
    | error fault => simp [joined, Except.map] at decoded
    | ok chars =>
      simp only [joined, Except.map, Except.ok.injEq] at decoded
      rw [← decoded, encode, String.toList_ofList]
      exact ((bytes_of_chars bytes chars 0).1 joined).symm
  · rintro rfl
    rw [decode, encode, pieces_encode, join_strict_chars, Except.map, String.ofList_toList]

private theorem encode_char_stored (c : Char) : encodeChar c = String.utf8EncodeChar c := by
  have bounds : c.toNat < 0xD800 ∨ 0xDFFF < c.toNat ∧ c.toNat < 0x110000 := c.valid
  have same : c.val.toNat = c.toNat := rfl
  unfold encodeChar String.utf8EncodeChar
  simp only [same]
  repeat' split
  all_goals first
    | omega
    | rfl
    | simp [← UInt8.toNat_inj]
      omega

/-- The bytes of a text are those that it is stored as. -/
theorem encode_eq_stored (text : String) : encode text = text.toUTF8.data.toList := by
  have bytes : text.toByteArray = (encode text).toByteArray :=
    calc
      text.toByteArray = (String.ofList text.toList).toByteArray := by rw [String.ofList_toList]
      _ = text.toList.utf8Encode := String.toByteArray_ofList
      _ = (encode text).toByteArray := by rw [encode, funext encode_char_stored, List.utf8Encode]
  rw [String.toUTF8_eq_toByteArray, bytes, List.toList_data_toByteArray]

theorem encode_append (text more : String) : encode (text ++ more) = encode text ++ encode more := by
  simp [encode]

/-- Different texts have different bytes. -/
theorem encode_inj {text other : String} : encode text = encode other ↔ text = other := by
  rw [← decode_ok_iff, (decode_ok_iff _ _).mpr rfl, Except.ok.injEq, eq_comm]

section Cuts

/-- A byte below 0x80 is a character by itself. -/
theorem encode_char_ascii {c : Char} {b : UInt8} (member : b ∈ encodeChar c)
    (ascii : b.toNat < 0x80) : encodeChar c = [b] := by
  by_cases small : c.toNat < 0x80
  · have single : encodeChar c = [UInt8.ofNat c.toNat] := if_pos small
    rw [single] at member ⊢
    rw [List.mem_singleton.mp member]
  · have above : ∀ other ∈ encodeChar c, 0x80 ≤ other.toNat := by
      have bound : c.toNat < 0xD800 ∨ 0xDFFF < c.toNat ∧ c.toNat < 0x110000 := c.valid
      unfold encodeChar
      simp only [small, ↓reduceIte]
      repeat' split
      all_goals
        simp only [List.forall_mem_cons, List.not_mem_nil, false_implies, implies_true, and_true,
          UInt8.toNat_ofNat']
        omega
    exact absurd (above b member) (by omega)

/-- A character below 0x80 is found among the bytes of a text only where it stands in the text. -/
theorem mem_of_encode {text : String} {c : Char} {b : UInt8} (spelled : encodeChar c = [b])
    (ascii : b.toNat < 0x80) (member : b ∈ encode text) : c ∈ text.toList := by
  obtain ⟨other, inside, member⟩ := List.mem_flatMap.mp member
  have same : encode (.ofList [other]) = encode (.ofList [c]) := by
    simp [encode, encode_char_ascii member ascii, spelled]
  have same : other = c := by simpa using encode_inj.mp same
  exact same ▸ inside

/-- Where characters are cut at a byte below 0x80 both parts are characters. -/
theorem chars_of_cut {chars : List Char} {front rest : List UInt8} {b : UInt8}
    (ascii : b.toNat < 0x80) (whole : chars.flatMap encodeChar = front ++ b :: rest) :
    ∃ before after : List Char,
      before.flatMap encodeChar = front ∧ after.flatMap encodeChar = rest := by
  induction chars generalizing front with
  | nil => simp at whole
  | cons c chars ih =>
    rw [List.flatMap_cons, List.append_eq_append_iff] at whole
    rcases whole with ⟨later, split, more⟩ | ⟨tail, split, more⟩
    · obtain ⟨before, after, left, right⟩ := ih more
      exact ⟨c :: before, after, by rw [List.flatMap_cons, left, split], right⟩
    · cases tail with
      | nil =>
        obtain ⟨before, after, left, right⟩ := @ih [] more.symm
        exact ⟨c :: before, after, by simp [left, split], right⟩
      | cons first tail =>
        obtain ⟨rfl, same⟩ := List.cons.inj more
        have alone := encode_char_ascii (c := c) (by rw [split]; simp) ascii
        have none : front = [] ∧ tail = [] := by
          have lengths := congrArg List.length (split.symm.trans alone)
          simp only [List.length_append, List.length_cons, List.length_nil] at lengths
          exact ⟨List.length_eq_zero_iff.mp (by omega), List.length_eq_zero_iff.mp (by omega)⟩
        exact ⟨[], chars, by simp [none.1], by simp [same, none.2]⟩

/-- Where a text is cut at a byte below 0x80 both parts are texts. -/
theorem texts_of_cut {text : String} {front rest : List UInt8} {b : UInt8}
    (ascii : b.toNat < 0x80) (whole : encode text = front ++ b :: rest) :
    ∃ before after : String, encode before = front ∧ encode after = rest := by
  obtain ⟨before, after, left, right⟩ := chars_of_cut ascii whole
  exact ⟨String.ofList before, String.ofList after, by simpa [encode] using left,
    by simpa [encode] using right⟩

/-- What stands between the bytes below 0x80 that a text is cut at are texts throughout. -/
theorem texts_of_parts {parts : List (List UInt8)} {text : String} {b : UInt8}
    (ascii : b.toNat < 0x80) (whole : encode text = [b].intercalate parts) :
    ∀ part ∈ parts, ∃ between : String, encode between = part := by
  induction parts generalizing text with
  | nil => nofun
  | cons first parts ih =>
    cases parts with
    | nil =>
      intro part member
      rw [List.mem_singleton.mp member]
      exact ⟨text, whole.trans (by simp)⟩
    | cons second parts =>
      have cut : encode text = first ++ b :: [b].intercalate (second :: parts) := by
        rw [whole]
        simp [List.intercalate]
      obtain ⟨before, after, left, right⟩ := texts_of_cut ascii cut
      intro part member
      rcases List.mem_cons.mp member with rfl | later
      · exact ⟨before, left⟩
      · exact ih right part later

end Cuts

end ChatClient.TextEncoding
