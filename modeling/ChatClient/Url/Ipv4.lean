import ChatClient.Text.Hex
import ChatClient.Text.Segment

/-! Hosts given as a number of 32 bits, whole or in parts with points between them. -/

namespace ChatClient.Url.Ipv4

/-- A part is decimal, octal after a zero, or hexadecimal after `0x`. -/
def part? (chars : List Char) : Option Nat :=
  let value? (base : Nat) (digits : List Char) : Option Nat :=
    digits.foldlM (fun value c =>
      match Text.hexDigit? c with
      | some digit => if digit < base then some (value * base + digit) else none
      | none => none) 0
  match chars with
  | [] => none
  | '0' :: 'x' :: digits => value? 16 digits
  | '0' :: 'X' :: digits => value? 16 digits
  | '0' :: digit :: digits => value? 8 (digit :: digits)
  | digits => value? 10 digits

/-- The parts of a name. A point at its end is passed over. -/
def parts (name : List Char) : List (List Char) :=
  let parts := Text.segments (· = '.') name
  if parts.length > 1 && parts.getLast? = some [] then parts.dropLast else parts

/-- A name whose last part is a number can only be meant as an address. -/
def isNumeric (name : List Char) : Bool :=
  match (parts name).getLast? with
  | none => false
  | some last => (!last.isEmpty && last.all Char.isDigit) || (part? last).isSome

/-- The number that parts denote: one byte for each but the last, which has all that is left. -/
def combine? : List Nat → Option Nat
  | [] => none
  | [last] => if last < 0x100000000 then some last else none
  | [a, last] => if a < 256 ∧ last < 0x1000000 then some (a * 0x1000000 + last) else none
  | [a, b, last] =>
    if a < 256 ∧ b < 256 ∧ last < 0x10000 then some ((a * 256 + b) * 0x10000 + last) else none
  | [a, b, c, last] =>
    if a < 256 ∧ b < 256 ∧ c < 256 ∧ last < 256 then
      some (((a * 256 + b) * 256 + c) * 256 + last)
    else none
  | _ => none

/-- The address that a name denotes. -/
def read? (name : List Char) : Option Nat :=
  ((parts name).mapM part?).bind combine?

/-- An address as four decimal numbers. -/
def render (address : Nat) : List Char :=
  Text.joinSegments '.' ([0x1000000, 0x10000, 256, 1].map fun place =>
    Nat.toDigits 10 (address / place % 256))

end ChatClient.Url.Ipv4
