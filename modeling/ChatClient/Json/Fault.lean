import ChatClient.Number.Shortest
import ChatClient.Text.Quoted
import ChatClient.Json.Value

/-! Why JSON could not be decoded. A fault has a cause and, when the input was a text, the byte
offset it was noticed at. A fault raised by the wanted type itself has no offset at first: it gets
one where the innermost record or list around it ends. -/

namespace ChatClient.Json

inductive Cause where
  | endOfValue
  | endOfList
  | endOfObject
  | endOfString
  | expectedValue
  | expectedWord
  | expectedListEnd
  | expectedObjectEnd
  | expectedColon
  | trailingComma
  | trailingCharacters
  | keyNotString
  | invalidNumber
  | numberOutOfRange
  | invalidEscape
  | unexpectedEndOfEscape
  | loneSurrogate
  | controlCharacter
  | invalidCodePoint
  | tooDeep
  /-- A value of one kind stands where another kind is wanted. -/
  | wrongType (found expected : String)
  /-- A value of the right kind lies outside the wanted range. -/
  | wrongValue (found expected : String)
  | wrongLength (length : Nat) (expected : String)
  | unknownVariant (found : String) (known : List String)
  | duplicateField (name : String)
  | missingField (name : String)
  /-- A rule of the wanted type, beyond kinds and ranges, is broken. -/
  | rejected (why : String)
  deriving DecidableEq

/-- The names of a list, each between backticks. -/
def backticked (names : List String) : String :=
  String.intercalate ", " (names.map fun name => "`" ++ name ++ "`")

def Cause.message : Cause → String
  | .endOfValue => "EOF while parsing a value"
  | .endOfList => "EOF while parsing a list"
  | .endOfObject => "EOF while parsing an object"
  | .endOfString => "EOF while parsing a string"
  | .expectedValue => "expected value"
  | .expectedWord => "expected ident"
  | .expectedListEnd => "expected `,` or `]`"
  | .expectedObjectEnd => "expected `,` or `\x7d`"
  | .expectedColon => "expected `:`"
  | .trailingComma => "trailing comma"
  | .trailingCharacters => "trailing characters"
  | .keyNotString => "key must be a string"
  | .invalidNumber => "invalid number"
  | .numberOutOfRange => "number out of range"
  | .invalidEscape => "invalid escape"
  | .unexpectedEndOfEscape => "unexpected end of hex escape"
  | .loneSurrogate => "lone leading surrogate in hex escape"
  | .controlCharacter =>
    "control character (\\u0000-\\u001F) found while parsing a string"
  | .invalidCodePoint => "invalid unicode code point"
  | .tooDeep => "recursion limit exceeded"
  | .wrongType found expected => "invalid type: " ++ found ++ ", expected " ++ expected
  | .wrongValue found expected => "invalid value: " ++ found ++ ", expected " ++ expected
  | .wrongLength length expected =>
    "invalid length " ++ toString length ++ ", expected " ++ expected
  | .unknownVariant found known =>
    "unknown variant `" ++ found ++ "`, expected one of " ++ backticked known
  | .duplicateField name => "duplicate field `" ++ name ++ "`"
  | .missingField name => "missing field `" ++ name ++ "`"
  | .rejected why => why

structure Fault where
  cause : Cause
  offset : Option Nat
  deriving DecidableEq

namespace Fault

/-- A fault of the wanted type, its place not known yet. -/
def unplaced (cause : Cause) : Fault :=
  ⟨cause, none⟩

def placed (cause : Cause) (offset : Nat) : Fault :=
  ⟨cause, some offset⟩

/-- Gives a fault its place, unless it has one. -/
def settle (offset : Option Nat) (fault : Fault) : Fault :=
  { fault with offset := fault.offset.or offset }

end Fault

/-- A place in a text: lines count from one, columns count the bytes before the place. -/
structure Position where
  line : Nat
  column : Nat
  deriving DecidableEq, Repr

/-- The place of a byte offset. -/
def Position.ofOffset (text : List UInt8) (offset : Nat) : Position :=
  let before := text.take offset
  { line := before.count 10 + 1
    column := (before.reverse.takeWhile (· ≠ 10)).length }

/-- A decoding failure as it is reported. -/
structure Error where
  cause : Cause
  position : Option Position
  deriving DecidableEq

def Error.message (error : Error) : String :=
  match error.position with
  | none => error.cause.message
  | some place => error.cause.message ++ s!" at line {place.line} column {place.column}"

/-- The report of a fault found in a text. -/
def Fault.inText (text : List UInt8) (fault : Fault) : Error :=
  ⟨fault.cause, fault.offset.map (Position.ofOffset text)⟩

/-- The report of a fault found in a value. -/
def Fault.inValue (fault : Fault) : Error :=
  ⟨fault.cause, none⟩

end ChatClient.Json
