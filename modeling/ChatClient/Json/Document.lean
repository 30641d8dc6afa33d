import ChatClient.Json.Node
import ChatClient.Json.NumberLiteral
import ChatClient.Json.StringLiteral

/-! Laying out a JSON text. Reading follows the grammar by which values are passed over, which
accepts every text that any wanted type accepts, and keeps at each break the fault that a reader of
items or fields would report there. -/

namespace ChatClient.Json

/-- The nesting level at which arrays and objects can no longer be entered. -/
def levelLimit : Nat := 128

/-- Where an array decoder stands after trying to end the array at a place: it takes the end, or a
comma and the space behind it. -/
def itemSettle (c : Cursor) : Nat :=
  let c := c.skipSpace
  match c.rest with
  | b :: rest =>
    if b = 0x5D then c.offset + 1
    else if b = 0x2C then (Cursor.skipSpace ⟨c.offset + 1, rest⟩).offset
    else c.offset
  | [] => c.offset

/-- Where an object decoder stands after trying to end the object at a place. -/
def fieldSettle (c : Cursor) : Nat :=
  let c := c.skipSpace
  match c.rest with
  | b :: _ => if b = 0x7D then c.offset + 1 else c.offset
  | [] => c.offset

/-- A node with what is known of the text behind it. -/
structure Reading (α : Type) where
  node : α
  stop : Except Fault Cursor

namespace Reading

def failed (fault : Fault) : Reading Node :=
  ⟨.absent fault, .error fault⟩

def atom (start : Nat) (content : Except Fault Atom) (stop : Except Fault Cursor) :
    Reading Node :=
  ⟨.atom (some start) content (stop.map fun c => some c.offset), stop⟩

/-- The rest of a word such as `null`, the first letter of which has been seen. -/
def word (value : Atom) (letters : String) (c : Cursor) : Reading Node :=
  let stop := readWord (c.offset + 1) letters.toList (c.rest.drop 1)
  atom c.offset (stop.map fun _ => value) stop

def number (c : Cursor) : Reading Node :=
  match NumberLiteral.read c with
  | .error missing => atom c.offset (.error missing.wanted) (.error missing.passed)
  | .ok (literal, stop) =>
    atom c.offset ((literal.value stop.offset).map .number) (.ok stop)

def string (c : Cursor) : Reading Node :=
  let content : Cursor := ⟨c.offset + 1, c.rest.drop 1⟩
  let stop := skipContent content.offset content.rest
  let text := (readString content).map Prod.fst
  ⟨.text (some c.offset) text (stop.map fun c => some c.offset), stop⟩

end Reading

mutual

/-- Reads the value that starts at a place; `level` is the nesting level of containers around it.
The fuel is a bound on the number of steps. -/
def readNode (fuel level : Nat) (c : Cursor) : Reading Node :=
  match fuel with
  | 0 => .failed (c.here .endOfValue)
  | fuel + 1 =>
    match c.rest with
    | [] => .failed (c.here .endOfValue)
    | b :: rest =>
      let inside : Cursor := ⟨c.offset + 1, rest⟩
      let deep := levelLimit ≤ level + 1
      if b = 0x6E then .word .null "ull" c
      else if b = 0x74 then .word (.bool true) "rue" c
      else if b = 0x66 then .word (.bool false) "alse" c
      else if b = 0x22 then .string c
      else if b = 0x2D ∨ isDigit b then .number c
      else if b = 0x5B then
        let items := readItems fuel (level + 1) true inside
        let stop := items.stop.map fun c => some c.offset
        ⟨.array (some c.offset) deep items.node stop, items.stop⟩
      else if b = 0x7B then
        let fields := readFields fuel (level + 1) true inside
        let stop := fields.stop.map fun c => some c.offset
        ⟨.object (some c.offset) deep fields.node stop, fields.stop⟩
      else .failed (c.peeked .expectedValue)
termination_by structural fuel

/-- Reads the items of an array from behind its bracket, or from behind an item. -/
def readItems (fuel level : Nat) (first : Bool) (c : Cursor) : Reading Items :=
  let c := c.skipSpace
  match fuel with
  | 0 => ⟨.broken (c.here .endOfList) (c.here .endOfList), .error (c.here .endOfList)⟩
  | fuel + 1 =>
    match c.rest with
    | [] =>
      let fault := c.here .endOfList
      ⟨.broken fault fault, .error fault⟩
    | b :: rest =>
      let after : Cursor := ⟨c.offset + 1, rest⟩
      if b = 0x5D then ⟨.closed (some after.offset), .ok after⟩
      else if first then readItem fuel level c
      else if b = 0x2C then
        let start := after.skipSpace
        match start.rest with
        | [] =>
          let fault := start.here .endOfValue
          ⟨.broken fault (start.here .trailingCharacters), .error fault⟩
        | next :: _ =>
          if next = 0x5D then
            let fault := start.peeked .trailingComma
            ⟨.broken fault fault, .error (start.peeked .expectedValue)⟩
          else readItem fuel level start
      else
        let fault := c.peeked .expectedListEnd
        ⟨.broken fault (c.peeked .trailingCharacters), .error fault⟩
termination_by structural fuel

/-- Reads one item, and those behind it. -/
def readItem (fuel level : Nat) (c : Cursor) : Reading Items :=
  match fuel with
  | 0 => ⟨.broken (c.here .endOfValue) (c.here .endOfValue), .error (c.here .endOfValue)⟩
  | fuel + 1 =>
    let value := readNode fuel level c
    let surplus := c.peeked .trailingCharacters
    match value.stop with
    | .error fault => ⟨.item value.node none surplus (.broken fault fault), .error fault⟩
    | .ok stop =>
      let others := readItems fuel level false stop
      ⟨.item value.node (some (itemSettle stop)) surplus others.node, others.stop⟩
termination_by structural fuel

/-- Reads the fields of an object from behind its brace, or from behind a field. -/
def readFields (fuel level : Nat) (first : Bool) (c : Cursor) : Reading Fields :=
  let c := c.skipSpace
  match fuel with
  | 0 => ⟨.broken (c.here .endOfObject), .error (c.here .endOfObject)⟩
  | fuel + 1 =>
    match c.rest with
    | [] =>
      let fault := c.here .endOfObject
      ⟨.broken fault, .error fault⟩
    | b :: rest =>
      let after : Cursor := ⟨c.offset + 1, rest⟩
      if b = 0x7D then ⟨.closed (some after.offset), .ok after⟩
      else if first then readField fuel level c
      else if b = 0x2C then
        let start := after.skipSpace
        match start.rest with
        | [] => ⟨.broken (start.here .endOfValue), .error (start.here .endOfObject)⟩
        | next :: _ =>
          if next = 0x7D then
            ⟨.broken (start.peeked .trailingComma), .error (start.peeked .keyNotString)⟩
          else readField fuel level start
      else
        let fault := c.peeked .expectedObjectEnd
        ⟨.broken fault, .error fault⟩
termination_by structural fuel

/-- Reads one field, and those behind it. -/
def readField (fuel level : Nat) (c : Cursor) : Reading Fields :=
  match fuel with
  | 0 => ⟨.broken (c.here .endOfObject), .error (c.here .endOfObject)⟩
  | fuel + 1 =>
    if c.rest.head? ≠ some 0x22 then
      let fault := c.peeked .keyNotString
      ⟨.broken fault, .error fault⟩
    else
      let content : Cursor := ⟨c.offset + 1, c.rest.drop 1⟩
      match skipContent content.offset content.rest with
      | .error passed =>
        let wanted := match readString content with
          | .error fault => fault
          | .ok _ => passed
        ⟨.broken wanted, .error passed⟩
      | .ok keyStop =>
        let colon := keyStop.skipSpace
        let value : Reading Node :=
          match colon.rest with
          | [] => .failed (colon.here .endOfObject)
          | b :: rest =>
            if b = 0x3A then readNode fuel level (Cursor.skipSpace ⟨colon.offset + 1, rest⟩)
            else .failed (colon.peeked .expectedColon)
        let others : Reading Fields :=
          match value.stop with
          | .error fault => ⟨.broken fault, .error fault⟩
          | .ok stop => readFields fuel level false stop
        let settle := match value.stop with
          | .error _ => none
          | .ok stop => some (fieldSettle stop)
        match readString content with
        | .error fault => ⟨.broken fault, others.stop⟩
        | .ok (key, _) =>
          ⟨.field key (some keyStop.offset) (some (fieldSettle keyStop)) value.node settle
            others.node, others.stop⟩
termination_by structural fuel

end

/-- A whole text: its value, and the fault of what stands behind it. -/
structure Document where
  root : Node
  trailing : Option Fault

namespace Document

/-- Lays out a text. Each byte takes at most three steps. -/
def ofText (text : List UInt8) : Document :=
  let reading := readNode (3 * text.length + 4) 0 (Cursor.ofText text).skipSpace
  { root := reading.node
    trailing :=
      match reading.stop with
      | .error _ => none
      | .ok stop =>
        let rest := stop.skipSpace
        if rest.rest.isEmpty then none else some (rest.peeked .trailingCharacters) }

end Document

end ChatClient.Json
