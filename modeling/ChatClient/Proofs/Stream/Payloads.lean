import ChatClient.Proofs.Text.Trimming
import ChatClient.Stream.Event

/-! What the lines of a stream carry, told from their texts alone. The mark in front is no part of
it, and white space around it is none either; a line with nothing else carries nothing. Readers are
compared with this, and they find the same: a line that is blank as a whole, which they look for
first, is one that carries nothing anyway. -/
namespace ChatClient.StreamPayloads
open Text Trimming

/-- The characters that count as white space. -/
def whiteSpace : List Char :=
  ['\t', '\n', '\x0b', '\x0c', '\r', ' ', '\u0085', '\u00a0', '\u1680', '\u2000', '\u2001',
    '\u2002', '\u2003', '\u2004', '\u2005', '\u2006', '\u2007', '\u2008', '\u2009', '\u200a',
    '\u2028', '\u2029', '\u202f', '\u205f', '\u3000']

/-- A line without the mark that it may begin with. -/
def unmarked (chars : List Char) : List Char :=
  (chars.dropPrefix? "data: ".toList).getD chars

/-- What stands between the white space at both ends. -/
def inner (chars : List Char) : List Char :=
  (chars.dropWhile (· ∈ whiteSpace)).rdropWhile (· ∈ whiteSpace)

/-- What a line carries, if that is anything at all. -/
def contentOf (line : String) : Option String :=
  let content := inner (unmarked line.toList)
  if content = [] then none else some (String.ofList content)

section Marks
variable {chars : List Char}

theorem unmarked_marked (chars : List Char) : unmarked ("data: ".toList ++ chars) = chars := by
  have found : ("data: ".toList ++ chars).dropPrefix? "data: ".toList = some chars :=
    List.dropPrefix?_eq_some_iff.mpr ⟨_, rfl, beq_self_eq_true _⟩
  rw [unmarked, found, Option.getD_some]

theorem unmarked_bare (bare : ¬"data: ".toList <+: chars) : unmarked chars = chars := by
  have missing : chars.dropPrefix? "data: ".toList = none := by
    rw [Option.eq_none_iff_forall_ne_some]
    intro rest found
    obtain ⟨mark, whole, same⟩ := List.dropPrefix?_eq_some_iff.mp found
    exact bare ⟨rest, by rw [whole, eq_of_beq same]⟩
  rw [unmarked, missing, Option.getD_none]

theorem drop_mark_eq_unmarked (chars : List Char) : dropMark chars = unmarked chars := by
  by_cases marked : "data: ".toList <+: chars
  · obtain ⟨rest, rfl⟩ := marked
    have found : eventMark.toList.isPrefixOf ("data: ".toList ++ rest) = true :=
      List.isPrefixOf_iff_prefix.mpr (List.prefix_append _ _)
    have length : eventMark.length = "data: ".toList.length := rfl
    rw [unmarked_marked, dropMark, if_pos found, length, List.drop_left]
  · rw [unmarked_bare marked, dropMark, if_neg]
    exact fun found => marked (List.isPrefixOf_iff_prefix.mp found)

end Marks

section Blanks

/-- Blank characters are those of the list, and no others. -/
theorem is_blank_iff (c : Char) : isBlank c = true ↔ c ∈ whiteSpace := by
  have codes : whiteSpace.map Char.toNat =
      [9, 10, 11, 12, 13, 0x20, 0x85, 0xA0, 0x1680, 0x2000, 0x2001, 0x2002, 0x2003, 0x2004, 0x2005,
        0x2006, 0x2007, 0x2008, 0x2009, 0x200A, 0x2028, 0x2029, 0x202F, 0x205F, 0x3000] := rfl
  constructor
  · intro blank
    have listed : c.toNat ∈ whiteSpace.map Char.toNat := by
      rw [codes]
      simp only [isBlank, Bool.or_eq_true, Bool.and_eq_true, decide_eq_true_eq, beq_iff_eq] at blank
      simp only [List.mem_cons, List.not_mem_nil, or_false]
      omega
    obtain ⟨d, among, same⟩ := List.mem_map.mp listed
    exact Char.toNat_inj.mp same ▸ among
  · have all : whiteSpace.all isBlank = true := rfl
    exact List.all_eq_true.mp all c

theorem trim_chars_eq_inner (chars : List Char) : trimChars chars = inner chars := by
  have blank : isBlank = fun c => decide (c ∈ whiteSpace) := by
    funext c
    rw [Bool.eq_iff_iff, is_blank_iff, decide_eq_true_eq]
  rw [trimChars_eq, blank, inner]

end Blanks

section Lines
variable {line payload : String}

/-- What white space alone surrounds, behind the mark, is what the line carries. -/
theorem content_of_surrounded (tight : Tight payload.toList)
    (around : Surrounded (unmarked line.toList) payload.toList) :
    contentOf line = if payload = "" then none else some payload := by
  have content : inner (unmarked line.toList) = payload.toList := by
    rw [← trim_chars_eq_inner, trimChars_of_surrounded tight around]
  simp only [contentOf, content, String.toList_eq_nil_iff, String.ofList_toList]

/-- White space alone is nothing to carry, behind the mark or without it. -/
theorem content_of_space (space : ∀ c ∈ unmarked line.toList, isBlank c = true) :
    contentOf line = none := by
  have around : Surrounded (unmarked line.toList) "".toList :=
    ⟨unmarked line.toList, [], space, by simp, by simp⟩
  exact content_of_surrounded ⟨by simp, by simp⟩ around

/-- A blank line carries nothing. It cannot begin with the mark, which is not blank. -/
theorem content_of_blank (blank : isBlankText line = true) : contentOf line = none := by
  have all : ∀ c ∈ line.toList, isBlank c = true := by simpa [isBlankText] using blank
  have bare : ¬"data: ".toList <+: line.toList := fun marked =>
    Bool.false_ne_true (all 'd' (marked.subset List.mem_cons_self))
  apply content_of_space
  rwa [unmarked_bare bare]

/-- What a reader takes for the payload of a line is what the line carries. -/
theorem payload_eq_content : payload? = contentOf := by
  funext line
  unfold payload?
  split
  · rename_i blank
    exact (content_of_blank blank).symm
  · rw [drop_mark_eq_unmarked, trim_chars_eq_inner]
    simp only [contentOf, String.isEmpty_iff, String.ofList_eq_empty_iff]

end Lines

end ChatClient.StreamPayloads
