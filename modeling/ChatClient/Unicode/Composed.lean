import ChatClient.Unicode.Combining

/-! Composed spelling. One text can be spelled with composite characters or with their parts; here
all spellings of a text become one, in which marks stand in a fixed order and everything that can be
composed is. -/

namespace ChatClient.Unicode

/-- A Hangul syllable has a lead, a vowel and perhaps a tail, and its number is computed from
theirs. -/
structure Syllable where
  lead : Nat
  vowel : Nat
  /-- Zero without a tail. -/
  tail : Nat

namespace Syllable

def ofChar? (c : Char) : Option Syllable :=
  if 0xAC00 ≤ c.toNat ∧ c.toNat ≤ 0xD7A3 then
    let index := c.toNat - 0xAC00
    some ⟨index / 588, index % 588 / 28, index % 28⟩
  else none

def toChar (syllable : Syllable) : Char :=
  Char.ofNat (0xAC00 + syllable.lead * 588 + syllable.vowel * 28 + syllable.tail)

def parts (syllable : Syllable) : List Char :=
  let untailed := [Char.ofNat (0x1100 + syllable.lead), Char.ofNat (0x1161 + syllable.vowel)]
  if syllable.tail = 0 then untailed else untailed ++ [Char.ofNat (0x11A7 + syllable.tail)]

/-- The syllable of a lead and a vowel, or of a syllable without a tail and a tail. -/
def compose? (first second : Char) : Option Syllable :=
  if 0x1100 ≤ first.toNat ∧ first.toNat ≤ 0x1112 then
    if 0x1161 ≤ second.toNat ∧ second.toNat ≤ 0x1175 then
      some ⟨first.toNat - 0x1100, second.toNat - 0x1161, 0⟩
    else none
  else
    match ofChar? first with
    | some ⟨lead, vowel, 0⟩ =>
      if 0x11A8 ≤ second.toNat ∧ second.toNat ≤ 0x11C2 then
        some ⟨lead, vowel, second.toNat - 0x11A7⟩
      else none
    | _ => none

end Syllable

/-- A character in its parts. -/
def decomposeChar (c : Char) : List Char :=
  match Syllable.ofChar? c with
  | some syllable => syllable.parts
  | none => (compositeParts.find? c).getD [c]

/-- The composite of a character and the one after it. -/
def compose? (first second : Char) : Option Char :=
  match Syllable.compose? first second with
  | some syllable => some syllable.toChar
  | none => compositeParts.source? (decomposeChar first ++ [second])

/-- Puts a mark behind the marks that attach at lower places. -/
def placeMark (c : Char) : List Char → List Char
  | [] => [c]
  | next :: rest =>
    if 0 < combiningClass next ∧ combiningClass next < combiningClass c then
      next :: placeMark c rest
    else c :: next :: rest

/-- Sorts every run of marks by place, leaving marks of one place in their order. -/
def orderMarks : List Char → List Char
  | [] => []
  | c :: rest => placeMark c (orderMarks rest)

/-- A text that is being composed. -/
structure Composition where
  /-- What is finished, last character first. -/
  done : List Char
  /-- The character that marks are put onto. -/
  base : Option Char
  /-- Marks after the base that could not be put onto it, last one first. -/
  marks : List Char

namespace Composition

/-- The finished text if nothing comes after it, last character first. -/
def close (composition : Composition) : List Char :=
  composition.marks ++ composition.base.toList ++ composition.done

/-- A mark is kept off the base by one at the same place or a higher one before it. -/
def reachesBase (composition : Composition) (c : Char) : Bool :=
  match composition.marks with
  | [] => true
  | last :: _ => combiningClass last < combiningClass c

/-- Goes on without putting a character onto the base. -/
def append (composition : Composition) (c : Char) : Composition :=
  if combiningClass c = 0 then ⟨composition.close, some c, []⟩
  else { composition with marks := c :: composition.marks }

def step (composition : Composition) (c : Char) : Composition :=
  match composition.base with
  | none => composition.append c
  | some base =>
    if composition.reachesBase c then
      match compose? base c with
      | some composite => { composition with base := some composite }
      | none => composition.append c
    else composition.append c

end Composition

/-- The composed spelling of a text. -/
def composed (chars : List Char) : List Char :=
  ((orderMarks (chars.flatMap decomposeChar)).foldl Composition.step ⟨[], none, []⟩).close.reverse

end ChatClient.Unicode
