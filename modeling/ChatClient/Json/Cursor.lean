import ChatClient.Json.Fault

/-! A place in a JSON text: how many bytes lie before it, and the bytes from there on. -/

namespace ChatClient.Json

structure Cursor where
  offset : Nat
  rest : List UInt8

/-- Blank space between tokens: space, tab, line feed and carriage return. -/
def isSpace (b : UInt8) : Bool :=
  b == 0x20 || b == 0x09 || b == 0x0A || b == 0x0D

namespace Cursor

def ofText (text : List UInt8) : Cursor :=
  ⟨0, text⟩

/-- The place behind the next byte, or this place at the end of the text. Faults noticed by looking
at a byte without taking it are reported there. -/
def ahead (c : Cursor) : Nat :=
  if c.rest.isEmpty then c.offset else c.offset + 1

/-- Skips blank space that starts at an offset. -/
def skipFrom (offset : Nat) : List UInt8 → Cursor
  | [] => ⟨offset, []⟩
  | b :: rest => if isSpace b then skipFrom (offset + 1) rest else ⟨offset, b :: rest⟩

def skipSpace (c : Cursor) : Cursor :=
  skipFrom c.offset c.rest

/-- A fault at this place. -/
def here (c : Cursor) (cause : Cause) : Fault :=
  .placed cause c.offset

/-- A fault about the byte at this place. -/
def peeked (c : Cursor) (cause : Cause) : Fault :=
  .placed cause c.ahead

end Cursor

/-- Takes the letters of a word. The first byte that differs is taken before it is reported. -/
def readWord (offset : Nat) : List Char → List UInt8 → Except Fault Cursor
  | [], rest => .ok ⟨offset, rest⟩
  | _ :: _, [] => .error (.placed .endOfValue offset)
  | letter :: letters, b :: rest =>
    if b.toNat = letter.toNat then readWord (offset + 1) letters rest
    else .error (.placed .expectedWord (offset + 1))

end ChatClient.Json
