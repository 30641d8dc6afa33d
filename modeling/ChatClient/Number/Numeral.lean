import ChatClient.Text.Blank
import ChatClient.Number.Binary

/-! Numerals in plain text: the spellings of booleans, integers and floating point numbers that a
string value may use where a number is wanted. Only ASCII digits count. -/

namespace ChatClient.Numeral

-- Powers are those of the core library, whichever others are in scope.
attribute [local instance (high)] instPowNat

/-- Splits off an optional sign; true means that the number is negative. -/
def splitSign : List Char → Bool × List Char
  | '-' :: rest => (true, rest)
  | '+' :: rest => (false, rest)
  | chars => (false, chars)

def isDigit (c : Char) : Bool :=
  '0' ≤ c && c ≤ '9'

/-- The number that a list of digits denotes. -/
def ofDigits (digits : List Char) : Nat :=
  digits.foldl (fun n c => n * 10 + (c.toNat - 48)) 0

/-- Digits and nothing else, at least one. -/
def natural? (chars : List Char) : Option Nat :=
  if chars.isEmpty || !chars.all isDigit then none else some (ofDigits chars)

/-- An integer with an optional sign. -/
def integer? (chars : List Char) : Option Int :=
  let (negative, digits) := splitSign chars
  (natural? digits).map fun n => if negative then -(n : Int) else n

/-- The number nearest to `digits` times ten to the `exponent`. Far outside the range of the format
the answer is known without raising ten to so high a power. -/
def ofDecimal (negative : Bool) (digits : Nat) (exponent : Int) : Binary64 :=
  let size := exponent + (Nat.toDigits 10 digits).length
  if digits = 0 ∨ size < -400 then Binary.zero .double negative
  else if 400 < size then Binary.infinite .double negative
  else Binary.ofRatio .double negative (digits * 10 ^ exponent.toNat) (10 ^ (-exponent).toNat)

/-- The exponent part of a numeral, empty or a letter with an integer. -/
def exponent? : List Char → Option Int
  | [] => some 0
  | c :: rest => if c = 'e' ∨ c = 'E' then integer? rest else none

/-- Digits with an optional point, digits on at least one side, and an optional exponent. -/
def unsigned? (negative : Bool) (chars : List Char) : Option Binary64 :=
  let whole := chars.takeWhile isDigit
  let afterWhole := chars.dropWhile isDigit
  let (fraction, tail) :=
    match afterWhole with
    | '.' :: rest => (rest.takeWhile isDigit, rest.dropWhile isDigit)
    | _ => ([], afterWhole)
  if whole.isEmpty && fraction.isEmpty then none
  else
    (exponent? tail).map fun exponent =>
      ofDecimal negative (ofDigits (whole ++ fraction)) (exponent - fraction.length)

/-- A floating point number, correctly rounded; infinity and NaN have names in any case. -/
def float? (chars : List Char) : Option Binary64 :=
  let (negative, rest) := splitSign chars
  let name := String.ofList (rest.map Char.toLower)
  if name = "inf" ∨ name = "infinity" then some (Binary.infinite .double negative)
  else if name = "nan" then some { Binary.nan with negative := negative }
  else unsigned? negative rest

/-- The two names of truth values, in lower case only. -/
def bool? (text : String) : Option Bool :=
  if text = "true" then some true
  else if text = "false" then some false
  else none

end ChatClient.Numeral
