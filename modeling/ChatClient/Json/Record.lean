import ChatClient.Json.Decoder

/-! Decoding records. A record is an object with known fields in any order, or an array that holds
them in the order of declaration. Of several faults the one that comes first in the input is
reported; a field that is missing counts as noticed at the end. -/

namespace ChatClient.Json

/-- The outcome of decoding a part of a record. A failure carries the place of its field in the
order of reading. -/
inductive Draft (α : Type) where
  | done (a : α)
  | failed (order : Nat) (fault : Fault)

namespace Draft

variable {α β : Type}

/-- Joins two outcomes. The failure that was read first wins, the left one if both were noticed at
the same place. -/
def join (f : Draft (α → β)) (x : Draft α) : Draft β :=
  match f, x with
  | .done f, .done a => .done (f a)
  | .failed order fault, .done _ => .failed order fault
  | .done _, .failed order fault => .failed order fault
  | .failed order fault, .failed order' fault' =>
    if order' < order then .failed order' fault' else .failed order fault

instance : Applicative Draft where
  pure := .done
  seq f x := f.join (x ())

end Draft

/-- A field that was found: its place in the order of reading, its value, and the place of unplaced
faults. -/
structure Found where
  order : Nat
  node : Node
  settle : Option Nat

/-- What a record found. -/
structure Parts where
  found : List (String × Found)
  /-- The first fault that belongs to no known field. -/
  broken : Option (Nat × Fault)
  /-- The place of missing fields in the order of reading. -/
  atEnd : Nat
  /-- How a missing field is reported. -/
  missing : String → Fault
  /-- Whether a field that may hold null may also be left out. -/
  nullMayMiss : Bool

namespace Parts

variable {α : Type}

/-- Decodes a found field. -/
def decode (decoder : Decoder α) (found : Found) : Draft α :=
  match decoder found.node with
  | .ok a => .done a
  | .error fault => .failed found.order (fault.settle found.settle)

/-- A field that has to be there. -/
def required (parts : Parts) (name : String) (decoder : Decoder α) : Draft α :=
  match parts.found.lookup name with
  | some found => decode decoder found
  | none => .failed parts.atEnd (parts.missing name)

/-- A field that may hold null; in an object it may also be left out. -/
def nullable (parts : Parts) (name : String) (decoder : Decoder α) : Draft (Option α) :=
  match parts.found.lookup name with
  | some found => decode (Decode.optional decoder) found
  | none =>
    if parts.nullMayMiss then .done none else .failed parts.atEnd (parts.missing name)

/-- A field with a value of its own when it is left out. -/
def withDefault (parts : Parts) (name : String) (default : α) (decoder : Decoder α) : Draft α :=
  match parts.found.lookup name with
  | some found => decode decoder found
  | none => .done default

/-- The outcome of a whole record. -/
def finish (parts : Parts) (draft : Draft α) : Except Fault α :=
  match parts.broken, draft with
  | none, .done a => .ok a
  | none, .failed _ fault => .error fault
  | some (_, fault), .done _ => .error fault
  | some (order, fault), .failed order' fault' =>
    if order' < order then .error fault' else .error fault

end Parts

/-- A field of a record: its name, and other names it is read under. -/
structure Slot where
  name : String
  aliases : List String

/-- A field that is read under its own name only. -/
def slot (name : String) : Slot :=
  ⟨name, []⟩

/-- The name of the field that a key stands for. -/
def fieldOf? (slots : List Slot) (key : String) : Option String :=
  (slots.find? fun s => key = s.name || s.aliases.contains key).map (·.name)

/-- Looks through the fields of an object. A known field may occur once; any other is passed
over. -/
def Fields.parts (slots : List Slot) (order : Nat) (found : List (String × Found)) :
    Fields → Parts
  | .closed stop => ⟨found, none, order, fun name => ⟨.missingField name, stop⟩, true⟩
  | .broken next => ⟨found, some (order, next), order, fun _ => next, true⟩
  | .field key _ keySettle node settle rest =>
    match fieldOf? slots key with
    | none =>
      match node.stop with
      | .error fault => ⟨found, some (order, fault), order, fun _ => fault, true⟩
      | .ok _ => parts slots (order + 1) found rest
    | some name =>
      if (found.lookup name).isSome then
        let fault : Fault := ⟨.duplicateField name, keySettle⟩
        ⟨found, some (order, fault), order, fun _ => fault, true⟩
      else parts slots (order + 1) (found ++ [(name, ⟨order, node, settle⟩)]) rest

/-- Looks through the items of an array, one for each field in turn. `expected` describes the whole
record. -/
def Items.parts (expected : String) (all : List String) (order : Nat)
    (found : List (String × Found)) : List String → Items → Parts
  | [], .closed _ => ⟨found, none, order, fun name => .unplaced (.missingField name), false⟩
  | [], .broken _ close => ⟨found, some (order, close), order, fun _ => close, false⟩
  | [], .item _ _ surplus _ => ⟨found, some (order, surplus), order, fun _ => surplus, false⟩
  | _ :: _, .closed stop =>
    ⟨found, none, order, fun name => ⟨.wrongLength (all.idxOf name) expected, stop⟩, false⟩
  | _ :: _, .broken next _ => ⟨found, some (order, next), order, fun _ => next, false⟩
  | name :: names, .item node settle _ rest =>
    parts expected all (order + 1) (found ++ [(name, ⟨order, node, settle⟩)]) names rest

/-- Decodes a record from an object or an array. -/
def record {α : Type} (name : String) (slots : List Slot) (build : Parts → Draft α) : Decoder α
  | .object start deep fields stop =>
    if deep then Decode.tooDeep (.object start deep fields stop)
    else
      let parts := fields.parts slots 0 []
      parts.finish (build parts)
  | .array start deep items stop =>
    if deep then Decode.tooDeep (.array start deep items stop)
    else
      let names := slots.map (·.name)
      let expected := "struct " ++ name ++ " with " ++ toString names.length ++ " elements"
      let parts := items.parts expected names 0 [] names
      parts.finish (build parts)
  | node => Decode.wrongType ("struct " ++ name) node

end ChatClient.Json
