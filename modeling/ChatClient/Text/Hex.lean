/-! Hexadecimal digits, in either case. -/

namespace ChatClient.Text

def hexDigit? (c : Char) : Option Nat :=
  if c.isDigit then some (c.toNat - 48)
  else if 'a' ≤ c ∧ c ≤ 'f' then some (c.toNat - 87)
  else if 'A' ≤ c ∧ c ≤ 'F' then some (c.toNat - 55)
  else none

def isHexDigit (c : Char) : Bool :=
  (hexDigit? c).isSome

/-- The number that a row of digits denotes. -/
def hexValue (digits : List Char) : Nat :=
  digits.foldl (fun value c => value * 16 + (hexDigit? c).getD 0) 0

/-- The digit for a number below sixteen, in upper case. -/
def upperHexDigit (n : Nat) : Char :=
  if n < 10 then Char.ofNat (48 + n) else Char.ofNat (55 + n)

/-- A number in lower-case digits without leading zeros. -/
def hexNumeral (n : Nat) : List Char :=
  Nat.toDigits 16 n

theorem hexDigit?_upperHexDigit (n : Nat) (small : n < 16) :
    hexDigit? (upperHexDigit n) = some n := by
  have each : ∀ m < 16, hexDigit? (upperHexDigit m) = some m := by decide
  exact each n small

end ChatClient.Text
