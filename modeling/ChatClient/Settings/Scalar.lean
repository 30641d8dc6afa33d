import ChatClient.Json.Decoder
import ChatClient.Number.Numeral

/-! Values that hosts hand over loosely typed: numbers and truth values may arrive as strings. -/

namespace ChatClient

open Json

/-- A loosely typed scalar. An integer too large for 64 signed bits counts as floating point. -/
inductive Scalar where
  | bool (b : Bool)
  | int (n : Int64)
  | float (x : Binary64)
  | text (content : String)

namespace Scalar

/-- Why a loosely typed value does not convert. -/
inductive Refusal where
  /-- The value is null, an array or an object. -/
  | notScalar
  | notNumber (shown : String)
  | notInteger (shown : String)
  | outOfRange (n : Int)
  | notBoolean (shown : Option String)

def Refusal.message : Refusal → String
  | .notScalar => "data did not match any variant of untagged enum Loose"
  | .notNumber shown => "expected a number, got " ++ shown
  | .notInteger shown => "expected an integer, got " ++ shown
  | .outOfRange n => toString n ++ " is out of range"
  | .notBoolean none => "expected a boolean"
  | .notBoolean (some shown) => "expected a boolean, got " ++ shown

def ofNumber : Number → Scalar
  | .int n =>
    if Int64.minValue.toInt ≤ n ∧ n ≤ Int64.maxValue.toInt then .int (Int64.ofInt n)
    else .float (Binary.ofInt .double n)
  | .float x => .float x

def ofValue? : Value → Option Scalar
  | .bool b => some (.bool b)
  | .number n => some (ofNumber n)
  | .string content => some (.text content)
  | _ => none

def boolName (b : Bool) : String :=
  if b then "true" else "false"

/-- Reads as a floating point number. -/
def toFloat : Scalar → Except Refusal Binary64
  | .int n => .ok (Binary.ofInt .double n.toInt)
  | .float x => .ok x
  | .text content =>
    match Numeral.float? (Text.trimChars content.toList) with
    | some x => .ok x
    | none => .error (.notNumber (Text.quoted content))
  | .bool b => .error (.notNumber (boolName b))

/-- Reads as an integer of 64 signed bits. A floating point number must be integral; beyond the
range it gives the nearest end. -/
def toInteger : Scalar → Except Refusal Int64
  | .int n => .ok n
  | .float x =>
    if x.isIntegral then
      .ok (Int64.ofInt (x.truncateWithin Int64.minValue.toInt Int64.maxValue.toInt))
    else .error (.notInteger (x.render .prose))
  | .text content =>
    match Numeral.integer? (Text.trimChars content.toList) with
    | some n =>
      if Int64.minValue.toInt ≤ n ∧ n ≤ Int64.maxValue.toInt then .ok (Int64.ofInt n)
      else .error (.notInteger (Text.quoted content))
    | none => .error (.notInteger (Text.quoted content))
  | .bool _ => .error (.notInteger "a non-number")

/-- Reads as an integer of 32 unsigned bits. -/
def toCount (scalar : Scalar) : Except Refusal UInt32 := do
  let n ← scalar.toInteger
  if 0 ≤ n.toInt ∧ n.toInt < UInt32.size then return UInt32.ofNat n.toInt.toNat
  else throw (.outOfRange n.toInt)

/-- Reads as a truth value. -/
def toBool : Scalar → Except Refusal Bool
  | .bool b => .ok b
  | .text content =>
    match Numeral.bool? (Text.trim content) with
    | some b => .ok b
    | none => .error (.notBoolean (some (Text.quoted content)))
  | .int _ => .error (.notBoolean none)
  | .float _ => .error (.notBoolean none)

/-- Decodes any scalar, then converts it. What does not convert is a fault of the wanted type. -/
def decodeWith {α : Type} (convert : Scalar → Except Refusal α) : Decoder α
  | node => do
    match ofValue? (← Decode.value node) with
    | none => throw (.unplaced (.rejected Refusal.notScalar.message))
    | some scalar =>
      match convert scalar with
      | .ok a => return a
      | .error refusal => throw (.unplaced (.rejected refusal.message))

end Scalar

end ChatClient
