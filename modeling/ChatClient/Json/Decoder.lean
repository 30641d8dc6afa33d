import ChatClient.Json.Document

/-! Decoding plain types from a laid-out input: texts, truth values, numbers, lists, optional
values, names of alternatives, and JSON values themselves. -/

namespace ChatClient.Json

/-- How a type is read from a node. -/
abbrev Decoder (α : Type) := Node → Except Fault α

/-- The offset behind a node, where faults about a whole scalar are placed. -/
def Node.stopOffset (node : Node) : Option Nat :=
  match node.stop with
  | .ok offset => offset
  | .error _ => none

/-- The offset behind the first byte of a node, where faults about its kind are placed when nothing
of it has been taken. -/
def Node.peekOffset : Node → Option Nat
  | .absent fault => fault.offset
  | .atom start _ _ => start.map (· + 1)
  | .text start _ _ => start.map (· + 1)
  | .array start _ _ _ => start.map (· + 1)
  | .object start _ _ _ => start.map (· + 1)

namespace Decode

variable {α : Type}

/-- Fails because another kind of value was wanted. A scalar is read to its end first, so that its
own faults come before this one. -/
def wrongType (expected : String) : Decoder α
  | .absent fault => .error fault
  | .atom _ (.error fault) _ => .error fault
  | .atom start (.ok found) stop =>
    .error ⟨.wrongType found.describe expected, (Node.atom start (.ok found) stop).stopOffset⟩
  | .text _ (.error fault) _ => .error fault
  | .text start (.ok found) stop =>
    .error ⟨.wrongType ("string " ++ Text.quoted found) expected,
      (Node.text start (.ok found) stop).stopOffset⟩
  | .array start _ _ _ => .error ⟨.wrongType "sequence" expected, start⟩
  | .object start _ _ _ => .error ⟨.wrongType "map" expected, start⟩

/-- Fails because an integer does not fit the wanted type. -/
def wrongInteger (n : Int) (expected : String) : Decoder α
  | node => .error ⟨.wrongValue ("integer `" ++ toString n ++ "`") expected, node.stopOffset⟩

/-- Fails because containers are nested too deep. -/
def tooDeep : Decoder α
  | node => .error ⟨.tooDeep, node.peekOffset⟩

def string : Decoder String
  | .text _ (.ok content) _ => .ok content
  | node => wrongType "a string" node

def bool : Decoder Bool
  | .atom _ (.ok (.bool b)) _ => .ok b
  | node => wrongType "a boolean" node

/-- The value null and nothing else. -/
def unit : Decoder Unit
  | .atom _ (.ok .null) _ => .ok ()
  | node => wrongType "unit" node

/-- An integer within bounds, the upper one excluded. -/
def integerWithin (low high : Int) (name : String) : Decoder Int
  | .atom start (.ok (.number (.int n))) stop =>
    if low ≤ n ∧ n < high then .ok n
    else wrongInteger n name (.atom start (.ok (.number (.int n))) stop)
  | node => wrongType name node

def uint32 : Decoder UInt32
  | node => (integerWithin 0 UInt32.size "u32" node).map fun n => UInt32.ofNat n.toNat

def uint64 : Decoder UInt64
  | node => (integerWithin 0 UInt64.size "u64" node).map fun n => UInt64.ofNat n.toNat

def int64 : Decoder Int64
  | node =>
    (integerWithin Int64.minValue.toInt (Int64.maxValue.toInt + 1) "i64" node).map Int64.ofInt

def binary64 : Decoder Binary64
  | .atom _ (.ok (.number (.int n))) _ => .ok (Binary.ofInt .double n)
  | .atom _ (.ok (.number (.float x))) _ => .ok x
  | node => wrongType "f64" node

/-- A single precision number: an integer is rounded once, a double once more. -/
def binary32 : Decoder Binary32
  | .atom _ (.ok (.number (.int n))) _ => .ok (Binary.ofInt .single n)
  | .atom _ (.ok (.number (.float x))) _ => .ok (x.convert .single)
  | node => wrongType "f32" node

/-- A value or null. -/
def optional (decode : Decoder α) : Decoder (Option α)
  | .atom _ (.ok .null) _ => .ok none
  | node => (decode node).map some

def items (decode : Decoder α) : Items → Except Fault (List α)
  | .closed _ => .ok []
  | .broken next _ => .error next
  | .item node settle _ rest =>
    match decode node with
    | .error fault => .error (fault.settle settle)
    | .ok a => (items decode rest).map (a :: ·)

def list (decode : Decoder α) : Decoder (List α)
  | .array start deep content stop =>
    if deep then tooDeep (.array start deep content stop) else items decode content
  | node => wrongType "a sequence" node

mutual

/-- Any value. The fields of objects come out sorted by name, the last one of each name. -/
def value : Decoder Value
  | .absent fault => .error fault
  | .atom _ content _ => content.map Atom.toValue
  | .text _ content _ => content.map Value.string
  | .array start deep content _ =>
    if deep then .error ⟨.tooDeep, start.map (· + 1)⟩
    else (valueItems content).map Value.array
  | .object start deep content _ =>
    if deep then .error ⟨.tooDeep, start.map (· + 1)⟩
    else (valueFields content).map Value.sortedObject

def valueItems : Items → Except Fault (List Value)
  | .closed _ => .ok []
  | .broken next _ => .error next
  | .item node _ _ rest =>
    match value node with
    | .error fault => .error fault
    | .ok v => (valueItems rest).map (v :: ·)

def valueFields : Fields → Except Fault (List (String × Value))
  | .closed _ => .ok []
  | .broken next => .error next
  | .field key _ _ node _ rest =>
    match value node with
    | .error fault => .error fault
    | .ok v => (valueFields rest).map ((key, v) :: ·)

end

/-- Looks a name up among the alternatives; `stop` is the place behind it. -/
def choose (variants : List (String × α)) (name : String) (stop : Option Nat) : Except Fault α :=
  match variants.lookup name with
  | some a => .ok a
  | none => .error ⟨.unknownVariant name (variants.map Prod.fst), stop⟩

/-- One of several named alternatives, written as its name or as an object with that one field
holding null. -/
def oneOf (variants : List (String × α)) : Decoder α
  | .text _ (.error fault) _ => .error fault
  | .text start (.ok name) stop =>
    choose variants name (Node.text start (.ok name) stop).stopOffset
  | .object start deep content stop =>
    if deep then tooDeep (.object start deep content stop)
    else
      match content with
      | .closed stop => .error ⟨.expectedValue, stop⟩
      | .broken next => .error next
      | .field name keyStop _ payload settle rest => do
        let chosen ← choose variants name keyStop
        unit payload
        match rest with
        | .closed _ => return chosen
        | .broken next =>
          if next.cause = .endOfObject then throw next else throw ⟨.expectedValue, settle⟩
        | .field .. => throw ⟨.expectedValue, settle⟩
  | .absent fault => .error fault
  | node => .error ⟨.expectedValue, node.peekOffset⟩

end Decode

variable {α : Type}

/-- Decodes a whole text. -/
def decodeBytes (decode : Decoder α) (text : List UInt8) : Except Error α :=
  let document := Document.ofText text
  match decode document.root with
  | .error fault => .error (fault.inText text)
  | .ok a =>
    match document.trailing with
    | some fault => .error (fault.inText text)
    | none => .ok a

def decodeText (decode : Decoder α) (text : String) : Except Error α :=
  decodeBytes decode (Text.Utf8.encode text)

/-- Decodes a value in memory. -/
def decodeValue (decode : Decoder α) (value : Value) : Except Error α :=
  match decode (.ofValue value) with
  | .error fault => .error fault.inValue
  | .ok a => .ok a

end ChatClient.Json
