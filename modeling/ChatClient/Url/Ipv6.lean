import ChatClient.Text.Hex
import ChatClient.Text.Segment

/-! Hosts given as a number of 128 bits: eight groups of 16 bits with colons between them. -/

namespace ChatClient.Url.Ipv6

def group? (chars : List Char) : Option Nat :=
  if !chars.isEmpty && chars.length ≤ 4 && chars.all Text.isHexDigit then
    some (Text.hexValue chars)
  else none

/-- A decimal byte without zeros in front. -/
def byte? (chars : List Char) : Option Nat :=
  let value := chars.foldl (fun value c => value * 10 + (c.toNat - 48)) 0
  if chars.all Char.isDigit && Nat.toDigits 10 value = chars && value < 256 then some value
  else none

/-- The last two groups may be given as four decimal bytes. -/
def ending? (chars : List Char) : Option (List Nat) :=
  match (Text.segments (· = '.') chars).mapM byte? with
  | some [a, b, c, d] => some [a * 256 + b, c * 256 + d]
  | _ => (group? chars).map ([·])

/-- A run of groups, of which only one that ends the address may have bytes in it. -/
def run? (isLast : Bool) : List (List Char) → Option (List Nat)
  | [] => some []
  | [last] => if isLast then ending? last else (group? last).map ([·])
  | group :: next :: rest =>
    match group? group, run? isLast (next :: rest) with
    | some value, some values => some (value :: values)
    | _, _ => none

/-- The groups of a text, where the empty text has none. -/
def groups? (isLast : Bool) (chars : List Char) : Option (List Nat) :=
  if chars.isEmpty then some [] else run? isLast (Text.segments (· = ':') chars)

/-- What stands before and after the first double colon. -/
def splitGap? : List Char → Option (List Char × List Char)
  | ':' :: ':' :: rest => some ([], rest)
  | c :: rest => (splitGap? rest).map fun (before, after) => (c :: before, after)
  | [] => none

/-- The eight groups that a text denotes. A double colon stands for one group of zero or more. -/
def read? (chars : List Char) : Option (List Nat) :=
  match splitGap? chars with
  | none =>
    match groups? true chars with
    | some groups => if groups.length = 8 then some groups else none
    | none => none
  | some (before, after) =>
    match groups? false before, groups? true after with
    | some left, some right =>
      if left.length + right.length < 8 then
        some (left ++ List.replicate (8 - left.length - right.length) 0 ++ right)
      else none
    | _, _ => none

/-- How many zeros a list of groups starts with. -/
def zeros (groups : List Nat) : Nat :=
  (groups.takeWhile (· = 0)).length

/-- The place and the length of the first longest run of zeros. -/
def longestZeros (start : Nat) : List Nat → Nat × Nat
  | [] => (start, 0)
  | group :: rest =>
    let later := longestZeros (start + 1) rest
    if later.2 ≤ zeros (group :: rest) then (start, zeros (group :: rest)) else later

def renderGroups (groups : List Nat) : List Char :=
  Text.joinSegments ':' (groups.map Text.hexNumeral)

/-- An address with its first longest run of zeros left out, unless that is a single group. -/
def render (groups : List Nat) : List Char :=
  let (start, length) := longestZeros 0 groups
  if length < 2 then renderGroups groups
  else
    renderGroups (groups.take start) ++ [':', ':'] ++ renderGroups (groups.drop (start + length))

end ChatClient.Url.Ipv6
