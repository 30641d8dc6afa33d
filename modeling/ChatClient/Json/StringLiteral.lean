import ChatClient.Json.Cursor
import ChatClient.Text.Utf8

/-! String literals. A wanted string must pair its surrogate escapes and be UTF-8; a string that is
only passed over needs no more than well-formed escapes. -/

namespace ChatClient.Json

def hexDigit? (b : UInt8) : Option Nat :=
  let code := b.toNat
  if 0x30 ≤ code ∧ code ≤ 0x39 then some (code - 0x30)
  else if 0x41 ≤ code ∧ code ≤ 0x46 then some (code - 0x37)
  else if 0x61 ≤ code ∧ code ≤ 0x66 then some (code - 0x57)
  else none

/-- The number that four hexadecimal digits denote. -/
def hexUnit? (a b c d : UInt8) : Option Nat := do
  return (((← hexDigit? a) * 16 + (← hexDigit? b)) * 16 + (← hexDigit? c)) * 16 + (← hexDigit? d)

/-- The byte that a backslash and one letter stand for. -/
def simpleEscape? (letter : UInt8) : Option UInt8 :=
  if letter = 0x22 ∨ letter = 0x5C ∨ letter = 0x2F then some letter
  else if letter = 0x62 then some 0x08
  else if letter = 0x66 then some 0x0C
  else if letter = 0x6E then some 0x0A
  else if letter = 0x72 then some 0x0D
  else if letter = 0x74 then some 0x09
  else none

/-- The bytes of the character with a number, in front of bytes kept in reverse. -/
def pushCode (code : Nat) (reversed : List UInt8) : List UInt8 :=
  (Text.Utf8.encodeChar (Char.ofNat code)).reverse ++ reversed

/-- The content of a wanted string, from behind its opening quote. -/
def readContent (offset : Nat) (reversed : List UInt8) :
    List UInt8 → Except Fault (List UInt8 × Cursor)
  | [] => .error (.placed .endOfString offset)
  | b :: rest =>
    if b = 0x22 then .ok (reversed.reverse, ⟨offset + 1, rest⟩)
    else if b = 0x5C then
      match rest with
      | [] => .error (.placed .endOfString (offset + 1))
      | letter :: afterLetter =>
        if letter = 0x75 then
          match afterLetter with
          | h₁ :: h₂ :: h₃ :: h₄ :: afterUnit =>
            match hexUnit? h₁ h₂ h₃ h₄ with
            | none => .error (.placed .invalidEscape (offset + 6))
            | some unit =>
              if 0xDC00 ≤ unit ∧ unit ≤ 0xDFFF then .error (.placed .loneSurrogate (offset + 6))
              else if unit < 0xD800 ∨ 0xDBFF < unit then
                readContent (offset + 6) (pushCode unit reversed) afterUnit
              else
                match afterUnit with
                | [] => .error (.placed .endOfString (offset + 6))
                | slash :: afterSlash =>
                  if slash ≠ 0x5C then .error (.placed .unexpectedEndOfEscape (offset + 7))
                  else
                    match afterSlash with
                    | [] => .error (.placed .endOfString (offset + 7))
                    | second :: afterSecond =>
                      if second ≠ 0x75 then .error (.placed .unexpectedEndOfEscape (offset + 8))
                      else
                        match afterSecond with
                        | k₁ :: k₂ :: k₃ :: k₄ :: afterPair =>
                          match hexUnit? k₁ k₂ k₃ k₄ with
                          | none => .error (.placed .invalidEscape (offset + 12))
                          | some low =>
                            if low < 0xDC00 ∨ 0xDFFF < low then
                              .error (.placed .loneSurrogate (offset + 12))
                            else
                              let code := (unit - 0xD800) * 1024 + (low - 0xDC00) + 0x10000
                              readContent (offset + 12) (pushCode code reversed) afterPair
                        | short => .error (.placed .endOfString (offset + 8 + short.length))
          | short => .error (.placed .endOfString (offset + 2 + short.length))
        else
          match simpleEscape? letter with
          | some byte => readContent (offset + 2) (byte :: reversed) afterLetter
          | none => .error (.placed .invalidEscape (offset + 2))
    else if b < 0x20 then .error (.placed .controlCharacter (offset + 1))
    else readContent (offset + 1) (b :: reversed) rest

/-- A wanted string, from behind its opening quote. Bytes that are not UTF-8 are reported as far
before the closing quote as the content goes on behind its valid part. -/
def readString (c : Cursor) : Except Fault (String × Cursor) := do
  let (bytes, stop) ← readContent c.offset [] c.rest
  match Text.Utf8.decode bytes with
  | .ok text => return (text, stop)
  | .error fault =>
    throw (.placed .invalidCodePoint (stop.offset - (bytes.length - fault.index)))

/-- Passes over a string, from behind its opening quote. -/
def skipContent (offset : Nat) : List UInt8 → Except Fault Cursor
  | [] => .error (.placed .endOfString offset)
  | b :: rest =>
    if b = 0x22 then .ok ⟨offset + 1, rest⟩
    else if b = 0x5C then
      match rest with
      | [] => .error (.placed .endOfString (offset + 1))
      | letter :: afterLetter =>
        if letter = 0x75 then
          match afterLetter with
          | h₁ :: h₂ :: h₃ :: h₄ :: afterUnit =>
            if (hexUnit? h₁ h₂ h₃ h₄).isNone then .error (.placed .invalidEscape (offset + 6))
            else skipContent (offset + 6) afterUnit
          | short => .error (.placed .endOfString (offset + 2 + short.length))
        else if (simpleEscape? letter).isNone then .error (.placed .invalidEscape (offset + 2))
        else skipContent (offset + 2) afterLetter
    else if b < 0x20 then .error (.placed .controlCharacter offset)
    else skipContent (offset + 1) rest

end ChatClient.Json
