import ChatClient.Number.Binary

/-! The shortest decimal of a binary number: the fewest digits that read back to it, and among those
the nearest. Of two that are equally near, a style says which one it takes. All comparisons are
exact, on natural numbers. -/

namespace ChatClient

-- Powers are those of the core library, whichever others are in scope.
attribute [local instance (high)] instPowNat

/-- A decimal number without a sign: its digits, read as a natural number, times a power of ten. -/
structure Decimal where
  digits : Nat
  exponent : Int
  deriving DecidableEq, Repr

namespace Decimal

/-- How many decimal digits a natural number has; zero has one. -/
def digitCount (n : Nat) : Nat :=
  (Nat.toDigits 10 n).length

/-- Drops trailing zeros from the digits, at most `count` of them. -/
def dropZeros : Nat → Decimal → Decimal
  | 0, d => d
  | count + 1, d =>
    if d.digits ≠ 0 ∧ d.digits % 10 = 0 then dropZeros count ⟨d.digits / 10, d.exponent + 1⟩ else d

/-- The numbers that read back to one binary number, as multiples of a quarter of its unit over a
common denominator. The ends belong to the interval when the significand is even. -/
structure Neighbourhood where
  low : Nat
  middle : Nat
  high : Nat
  denominator : Nat
  closed : Bool

/-- Below a power of two the neighbours lie closer together, so the interval is shorter there. -/
def neighbourhood {f : Format} (x : Binary f) : Neighbourhood :=
  let quarter : Int := x.unit - 2
  let scale := 2 ^ quarter.toNat
  let s := 4 * x.significand
  let edge := x.significand = 2 ^ f.fractionBits ∧ f.lowest < x.unit
  { low := (if edge then s - 1 else s - 2) * scale
    middle := s * scale
    high := (s + 2) * scale
    denominator := 2 ^ (-quarter).toNat
    closed := x.significand % 2 = 0 }

/-- Which of two neighbours on a grid stands for a number halfway between them. -/
inductive Tie where
  /-- The even one. -/
  | toEven
  /-- The one farther from zero. -/
  | away
  deriving DecidableEq, Repr

/-- Whether a number goes down to the grid point below it. It stands at so many of `den` equal parts
of the way to the next one. -/
def Tie.goesDown (tie : Tie) (below parts den : Nat) : Bool :=
  2 * parts < den || (2 * parts == den && tie = .toEven && below % 2 == 0)

/-- The point of the grid of multiples of ten to the `place` that lies in the neighbourhood and is
nearest to its middle. -/
def Neighbourhood.gridPoint? (tie : Tie) (n : Neighbourhood) (place : Int) : Option Decimal :=
  let up := 10 ^ (-place).toNat
  let den := n.denominator * 10 ^ place.toNat
  let inside (q : Nat) : Bool :=
    if n.closed then n.low * up ≤ q * den && q * den ≤ n.high * up
    else n.low * up < q * den && q * den < n.high * up
  let below := n.middle * up / den
  match inside below, inside (below + 1) with
  | true, true =>
    let down := tie.goesDown below (n.middle * up % den) den
    some ⟨if down then below else below + 1, place⟩
  | true, false => some ⟨below, place⟩
  | false, true => some ⟨below + 1, place⟩
  | false, false => none

/-- The exponent of the least power of ten that is above a positive ratio. -/
def ratioDigits (num den : Nat) : Int :=
  let guess : Int := (digitCount num : Int) - digitCount den
  if num * 10 ^ (-guess).toNat < den * 10 ^ guess.toNat then guess else guess + 1

/-- The shortest decimal of a finite number; its sign is left out. Seventeen digits always suffice
for double precision and nine for single. -/
def shortest {f : Format} (tie : Tie) (x : Binary f) : Decimal :=
  if x.isZero then ⟨0, 0⟩
  else
    let n := neighbourhood x
    let size := ratioDigits n.middle n.denominator
    let found := (List.range 17).findSome? fun (i : Nat) => n.gridPoint? tie (size - (i + 1 : Nat))
    dropZeros 20 (found.getD ⟨0, 0⟩)

end Decimal

/-- How a number is written as decimal text. -/
structure DecimalStyle where
  /-- The exponents of the leading digit that are written without an exponent part. -/
  positional : Int → Bool
  /-- What an integer ends in when it is written without an exponent part. -/
  integerEnd : String
  /-- How the last digit is chosen between two that would do equally well. -/
  tie : Decimal.Tie

namespace DecimalStyle

/-- The style of numbers in JSON text: a floating point number never looks like an integer, and
from one hundred-thousandth up to ten to the sixteenth no exponent is used. -/
def json : DecimalStyle where
  positional leading := -5 ≤ leading && leading < 16
  integerEnd := ".0"
  tie := .toEven

/-- The style of numbers inside messages: no exponent is ever used. -/
def prose : DecimalStyle where
  positional _ := true
  integerEnd := ""
  tie := .away

/-- Digits with a point after the first `before` of them, zeros standing in for missing digits. -/
def pointed (style : DecimalStyle) (digits : List Char) (before : Int) : String :=
  if before ≤ 0 then
    "0." ++ String.ofList (List.replicate (-before).toNat '0' ++ digits)
  else if digits.length ≤ before.toNat then
    String.ofList (digits ++ List.replicate (before.toNat - digits.length) '0') ++ style.integerEnd
  else
    String.ofList (digits.take before.toNat) ++ "." ++ String.ofList (digits.drop before.toNat)

/-- The text of a decimal number. -/
def render (style : DecimalStyle) (d : Decimal) : String :=
  let digits := Nat.toDigits 10 d.digits
  let leading : Int := d.exponent + digits.length - 1
  if d.digits = 0 then "0" ++ style.integerEnd
  else if style.positional leading then style.pointed digits (leading + 1)
  else
    let tail := digits.drop 1
    String.ofList (digits.take 1) ++ (if tail.isEmpty then "" else "." ++ String.ofList tail) ++
      (if leading < 0 then "e-" else "e+") ++ toString leading.natAbs

end DecimalStyle

/-- The shortest text of a finite number in a style. -/
def Binary.render {f : Format} (style : DecimalStyle) (x : Binary f) : String :=
  (if x.negative then "-" else "") ++ style.render (Decimal.shortest style.tie x)

end ChatClient
