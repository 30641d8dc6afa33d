import ChatClient.Json.Fault

/-! A JSON input laid out for decoding. A text is read leniently, so that a part of it that no type
asks for may be passed over although it could not be decoded; every strict reading that fails is
kept in place as a fault, and decoding a type decides which of the faults matter. A value already in
memory is laid out the same way, without places. -/

namespace ChatClient.Json

/-- A value that holds no other value and no text. -/
inductive Atom where
  | null
  | bool (b : Bool)
  | number (n : Number)

/-- How messages name what they found. -/
def Atom.describe : Atom → String
  | .null => "null"
  | .bool true => "boolean `true`"
  | .bool false => "boolean `false`"
  | .number (.int n) => "integer `" ++ toString n ++ "`"
  | .number (.float x) => "floating point `" ++ x.render .json ++ "`"

def Atom.toValue : Atom → Value
  | .null => .null
  | .bool b => .bool b
  | .number n => .number n

mutual

/-- One value of the input. `start` is the offset of its first byte; `stop` is the offset behind
it, or why even passing over it fails. -/
inductive Node where
  /-- No value begins here. -/
  | absent (fault : Fault)
  | atom (start : Option Nat) (content : Except Fault Atom) (stop : Except Fault (Option Nat))
  | text (start : Option Nat) (content : Except Fault String) (stop : Except Fault (Option Nat))
  /-- `deep` marks a container nested too far to be entered. -/
  | array (start : Option Nat) (deep : Bool) (items : Items) (stop : Except Fault (Option Nat))
  | object (start : Option Nat) (deep : Bool) (fields : Fields) (stop : Except Fault (Option Nat))

/-- The items of an array, up to the first break in the text. -/
inductive Items where
  | closed (stop : Option Nat)
  /-- The text breaks where an item or the end is due: `next` if one more item is asked for,
  `close` if the array should end. -/
  | broken (next close : Fault)
  /-- `settle` is the place of unplaced faults of this item; `surplus` is the fault of an array
  that should have ended before it. -/
  | item (node : Node) (settle : Option Nat) (surplus : Fault) (rest : Items)

/-- The fields of an object, up to the first break in the text. -/
inductive Fields where
  | closed (stop : Option Nat)
  | broken (next : Fault)
  /-- `keyStop` is the offset behind the key and `keySettle` the place of unplaced faults noticed
  there; `settle` is the place of those noticed behind the value. -/
  | field (key : String) (keyStop keySettle : Option Nat) (value : Node) (settle : Option Nat)
      (rest : Fields)

end

/-- The offset behind a node, or why it cannot be passed over. -/
def Node.stop : Node → Except Fault (Option Nat)
  | .absent fault => .error fault
  | .atom _ _ stop => stop
  | .text _ _ stop => stop
  | .array _ _ _ stop => stop
  | .object _ _ _ stop => stop

mutual

/-- The layout of a value in memory. -/
def Node.ofValue : Value → Node
  | .null => .atom none (.ok .null) (.ok none)
  | .bool b => .atom none (.ok (.bool b)) (.ok none)
  | .number n => .atom none (.ok (.number n)) (.ok none)
  | .string text => .text none (.ok text) (.ok none)
  | .array items => .array none false (Items.ofValues items.length items) (.ok none)
  | .object fields => .object none false (Fields.ofFields fields) (.ok none)

/-- The items of an array in memory; `total` is the length a surplus is reported with. -/
def Items.ofValues (total : Nat) : List Value → Items
  | [] => .closed none
  | value :: rest =>
    .item (Node.ofValue value) none (.unplaced (.wrongLength total "fewer elements in array"))
      (Items.ofValues total rest)

def Fields.ofFields : List (String × Value) → Fields
  | [] => .closed none
  | (key, value) :: rest =>
    .field key none none (Node.ofValue value) none (Fields.ofFields rest)

end

end ChatClient.Json
