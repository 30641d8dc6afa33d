import ChatClient.Text.Hex
import ChatClient.Text.Segment

/-! Tables of code points. A table is written as rows of entries with a blank between them, and
numbers in it are hexadecimal. In a set, an entry is one code point or a range `first-last`. -/

namespace ChatClient.Unicode

/-- The entries of a table. -/
def entries (rows : List String) : List (List Char) :=
  rows.flatMap fun row => Text.segments (· = ' ') row.toList

/-- A range of code points, both ends included. -/
structure CodeRange where
  first : Nat
  last : Nat

def CodeRange.ofEntry (entry : List Char) : CodeRange :=
  match Text.segments (· = '-') entry with
  | [first, last] => ⟨Text.hexValue first, Text.hexValue last⟩
  | _ => ⟨Text.hexValue entry, Text.hexValue entry⟩

/-- A set of code points. -/
structure CodeSet where
  ranges : List CodeRange

namespace CodeSet

def ofRows (rows : List String) : CodeSet :=
  ⟨(entries rows).map .ofEntry⟩

def contains (set : CodeSet) (c : Char) : Bool :=
  set.ranges.any fun range => range.first ≤ c.toNat && c.toNat ≤ range.last

end CodeSet

/-- An entry of a table of replacements, in three forms: `first-last:target` sends a range to
consecutive targets, `first/last:target` does so for every second code point on both sides, and
`first:targets` lists the replacements of consecutive code points one by one, with `,` between them
and `+` between the code points of one. -/
inductive Replacement where
  | shifted (first last step target : Nat)
  | listed (first : Nat) (targets : List (List Char))

namespace Replacement

def ofSource (source target : List Char) : Replacement :=
  match Text.segments (· = '-') source, Text.segments (· = '/') source with
  | [first, last], _ =>
    .shifted (Text.hexValue first) (Text.hexValue last) 1 (Text.hexValue target)
  | _, [first, last] =>
    .shifted (Text.hexValue first) (Text.hexValue last) 2 (Text.hexValue target)
  | _, _ =>
    .listed (Text.hexValue source) ((Text.segments (· = ',') target).map fun replacement =>
      (Text.segments (· = '+') replacement).map fun code => Char.ofNat (Text.hexValue code))

def ofEntry (entry : List Char) : Replacement :=
  ofSource (entry.takeWhile (· ≠ ':')) ((entry.dropWhile (· ≠ ':')).drop 1)

/-- What an entry puts in place of a character, if it is about that character. -/
def find? (c : Char) : Replacement → Option (List Char)
  | .shifted first last step target =>
    let distance := c.toNat - first
    if first ≤ c.toNat ∧ c.toNat ≤ last ∧ distance % step = 0 then
      some [Char.ofNat (target + distance)]
    else none
  | .listed first targets => if first ≤ c.toNat then targets[c.toNat - first]? else none

/-- The characters that an entry replaces, each with its replacement. -/
def pairs : Replacement → List (Char × List Char)
  | .shifted first last step target =>
    (List.range ((last - first) / step + 1)).map fun i =>
      (Char.ofNat (first + i * step), [Char.ofNat (target + i * step)])
  | .listed first targets =>
    targets.zipIdx.map fun (replacement, i) => (Char.ofNat (first + i), replacement)

end Replacement

/-- A table of replacements. -/
structure CodeMap where
  replacements : List Replacement

namespace CodeMap

def ofRows (rows : List String) : CodeMap :=
  ⟨(entries rows).map .ofEntry⟩

/-- What a table puts in place of a character. -/
def find? (map : CodeMap) (c : Char) : Option (List Char) :=
  map.replacements.findSome? (·.find? c)

/-- The character that a table replaces by the given text. -/
def source? (map : CodeMap) (replacement : List Char) : Option Char :=
  map.replacements.findSome? fun entry =>
    (entry.pairs.find? fun pair => pair.2 = replacement).map (·.1)

end CodeMap

end ChatClient.Unicode
