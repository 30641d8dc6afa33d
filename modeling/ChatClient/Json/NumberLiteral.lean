import ChatClient.Json.Cursor

/-! Number literals. The grammar is the same whether a number is wanted or only passed over; only
the value of a wanted one is computed, and only then can it be out of range. -/

namespace ChatClient.Json

-- Powers are those of the core library, whichever others are in scope.
attribute [local instance (high)] instPowNat

def isDigit (b : UInt8) : Bool :=
  0x30 ≤ b && b ≤ 0x39

def digitValue (b : UInt8) : Nat :=
  b.toNat - 0x30

/-- A literal, its digits as they stand in the text. Without an exponent part `exponent` is none;
its flag is true for a negative exponent. -/
structure NumberLiteral where
  negative : Bool
  whole : List UInt8
  fraction : List UInt8
  exponent : Option (Bool × List UInt8)

/-- The place where a digit is missing. -/
structure MissingDigit where
  offset : Nat
  atEnd : Bool

/-- The fault of a missing digit when the number is wanted. -/
def MissingDigit.wanted (m : MissingDigit) : Fault :=
  .placed (if m.atEnd then .endOfValue else .invalidNumber) m.offset

/-- The fault of a missing digit when the number is passed over. -/
def MissingDigit.passed (m : MissingDigit) : Fault :=
  .placed .invalidNumber m.offset

namespace NumberLiteral

/-- Splits off the digits at a place. -/
def takeDigits (c : Cursor) : List UInt8 × Cursor :=
  let digits := c.rest.takeWhile isDigit
  (digits, ⟨c.offset + digits.length, c.rest.drop digits.length⟩)

/-- The sign of an exponent; true means that it is negative. -/
def takeSign (c : Cursor) : Bool × Cursor :=
  match c.rest with
  | b :: rest =>
    if b = 0x2B then (false, ⟨c.offset + 1, rest⟩)
    else if b = 0x2D then (true, ⟨c.offset + 1, rest⟩)
    else (false, c)
  | [] => (false, c)

/-- The exponent part, if there is one. A byte that should have been its first digit is taken. -/
def takeExponent (c : Cursor) : Except MissingDigit (Option (Bool × List UInt8) × Cursor) :=
  match c.rest with
  | b :: rest =>
    if b = 0x65 ∨ b = 0x45 then
      let (negative, afterSign) := takeSign ⟨c.offset + 1, rest⟩
      let (digits, stop) := takeDigits afterSign
      if digits.isEmpty then .error ⟨afterSign.ahead, afterSign.rest.isEmpty⟩
      else .ok (some (negative, digits), stop)
    else .ok (none, c)
  | [] => .ok (none, c)

/-- The fraction, if there is one. -/
def takeFraction (c : Cursor) : Except MissingDigit (List UInt8 × Cursor) :=
  match c.rest with
  | b :: rest =>
    if b = 0x2E then
      let (digits, stop) := takeDigits ⟨c.offset + 1, rest⟩
      if digits.isEmpty then .error ⟨stop.ahead, stop.rest.isEmpty⟩ else .ok (digits, stop)
    else .ok ([], c)
  | [] => .ok ([], c)

/-- The digits before the point. A leading zero stands alone. -/
def takeWhole (c : Cursor) : Except MissingDigit (List UInt8 × Cursor) :=
  match c.rest with
  | b :: rest =>
    if b = 0x30 then
      let after : Cursor := ⟨c.offset + 1, rest⟩
      match rest with
      | next :: _ => if isDigit next then .error ⟨after.ahead, false⟩ else .ok ([b], after)
      | [] => .ok ([b], after)
    else if isDigit b then .ok (takeDigits c)
    else .error ⟨c.ahead, false⟩
  | [] => .error ⟨c.offset, true⟩

/-- Reads the literal that starts with a sign or a digit. -/
def read (c : Cursor) : Except MissingDigit (NumberLiteral × Cursor) := do
  let (negative, start) :=
    match c.rest with
    | b :: rest => if b = 0x2D then (true, (⟨c.offset + 1, rest⟩ : Cursor)) else (false, c)
    | [] => (false, c)
  let (whole, afterWhole) ← takeWhole start
  let (fraction, afterFraction) ← takeFraction afterWhole
  let (exponent, stop) ← takeExponent afterFraction
  return (⟨negative, whole, fraction, exponent⟩, stop)

/-- Sixty-four bits of digits, then a count of those that no longer fit. -/
def significand (digits : List UInt8) (sum : Nat) : Nat × Nat :=
  match digits with
  | [] => (sum, 0)
  | b :: rest =>
    let next := sum * 10 + digitValue b
    if next < 2 ^ (64 : Nat) then significand rest next else (sum, digits.length)

/-- An exponent that does not fit 32 bits is cut off behind the digit that was too much; the number
is how many digits were left unread. -/
def exponentValue (digits : List UInt8) (sum : Nat) : Nat ⊕ Nat :=
  match digits with
  | [] => .inl sum
  | b :: rest =>
    let next := sum * 10 + digitValue b
    if next < 2 ^ (31 : Nat) then exponentValue rest next else .inr rest.length

def powerOfTen (n : Nat) : Binary64 :=
  Binary.ofRatio .double false (10 ^ n) 1

/-- Divides by ten to the 308 until the exponent that is left is at least -308; `count` bounds the
number of steps. Zero stays zero whatever the exponent. -/
def scaleDown (count : Nat) (x : Binary64) (exponent : Int) : Binary64 :=
  match count with
  | 0 => x
  | count + 1 =>
    if x.isZero then x
    else if -308 ≤ exponent then x.div (powerOfTen exponent.natAbs)
    else scaleDown count (x.div (powerOfTen 308)) (exponent + 308)

/-- A significand times a power of ten, rounded after the conversion and after each step of the
scaling; none when the result is too large. -/
def scale (significand : Nat) (exponent : Int) : Option Binary64 :=
  let start := Binary.ofInt .double significand
  if start.isZero then some start
  else if 308 < exponent then none
  else if 0 ≤ exponent then
    let scaled := start.mul (powerOfTen exponent.natAbs)
    if scaled.isFinite then some scaled else none
  else some (scaleDown 4 start exponent)

/-- The value of a literal that ends at `stop`. Integers of 64 bits, signed or not, are kept exact;
negative zero and everything else is a floating point number. -/
def value (literal : NumberLiteral) (stop : Nat) : Except Fault Number :=
  let (wholePart, droppedWhole) := significand literal.whole 0
  if literal.fraction.isEmpty ∧ literal.exponent.isNone ∧ droppedWhole = 0 ∧
      (literal.negative → wholePart ≠ 0 ∧ wholePart ≤ 2 ^ (63 : Nat)) then
    .ok (.int (if literal.negative then -(wholePart : Int) else wholePart))
  else
    let (sum, droppedFraction) := significand literal.fraction wholePart
    let signed (x : Binary64) : Number := .float { x with negative := literal.negative }
    let base : Int := (droppedWhole : Int) - (literal.fraction.length - droppedFraction : Nat)
    let finish (exponent : Int) : Except Fault Number :=
      match scale sum exponent with
      | some x => .ok (signed x)
      | none => .error (.placed .numberOutOfRange stop)
    match literal.exponent with
    | none => finish base
    | some (negative, digits) =>
      match exponentValue digits 0 with
      | .inl exponent => finish (if negative then base - exponent else base + exponent)
      | .inr unread =>
        if sum ≠ 0 ∧ !negative then .error (.placed .numberOutOfRange (stop - unread))
        else .ok (signed (Binary.zero .double false))

end NumberLiteral

end ChatClient.Json
