import ChatClient.Number.Binary

/-! JSON values. Integers and floating point numbers stay apart, as they are told apart on the wire,
and an object is the list of its fields in the order in which they are written. -/

namespace ChatClient.Json

inductive Number where
  | int (n : Int)
  | float (x : Binary64)
  deriving DecidableEq

inductive Value where
  | null
  | bool (b : Bool)
  | number (n : Number)
  | string (text : String)
  | array (items : List Value)
  | object (fields : List (String × Value))

namespace Value

instance : Inhabited Value := ⟨.null⟩

def int (n : Int) : Value :=
  .number (.int n)

def nat (n : Nat) : Value :=
  .number (.int n)

def float (x : Binary64) : Value :=
  .number (.float x)

/-- A value that may be absent; absence is shown as null. -/
def ofOption {α : Type} (encode : α → Value) : Option α → Value
  | none => .null
  | some a => encode a

/-- The first field of an object with a name. -/
def get? (name : String) : Value → Option Value
  | .object fields => fields.lookup name
  | _ => none

def string? : Value → Option String
  | .string text => some text
  | _ => none

def array? : Value → Option (List Value)
  | .array items => some items
  | _ => none

def isNull : Value → Bool
  | .null => true
  | _ => false

/-- Puts a field in its place among fields sorted by name; an earlier field of that name is lost. -/
def insertField (name : String) (value : Value) : List (String × Value) → List (String × Value)
  | [] => [(name, value)]
  | (other, kept) :: rest =>
    if name < other then (name, value) :: (other, kept) :: rest
    else if name = other then (name, value) :: rest
    else (other, kept) :: insertField name value rest

/-- An object with its fields sorted by name, the last field of each name. -/
def sortedObject (fields : List (String × Value)) : Value :=
  .object (fields.foldl (fun sorted field => insertField field.1 field.2 sorted) [])

mutual

/-- What memory holds of a value that is written: the fields of objects sorted by name, and null in
place of a number that is not finite. -/
def stored : Value → Value
  | .null => .null
  | .bool b => .bool b
  | .number (.int n) => .number (.int n)
  | .number (.float x) => if x.isFinite then .number (.float x) else .null
  | .string text => .string text
  | .array items => .array (storedItems items)
  | .object fields => sortedObject (storedFields fields)

def storedItems : List Value → List Value
  | [] => []
  | value :: rest => value.stored :: storedItems rest

def storedFields : List (String × Value) → List (String × Value)
  | [] => []
  | (name, value) :: rest => (name, value.stored) :: storedFields rest

end

end Value

/-- A field that is always written. -/
def field (name : String) (value : Value) : List (String × Value) :=
  [(name, value)]

/-- A field that is left out when there is nothing to write. -/
def field? (name : String) : Option Value → List (String × Value)
  | none => []
  | some value => [(name, value)]

end ChatClient.Json
