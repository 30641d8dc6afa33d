import ChatClient.Json.Value
import ChatClient.Number.Shortest

/-! Compact JSON text of a value. Nothing but the quote, the backslash and control characters is
escaped, and a number that is not finite is written as null. -/

namespace ChatClient.Json

/-- Two lower-case hexadecimal digits. -/
def hexByte (n : Nat) : String :=
  String.ofList [Nat.digitChar (n / 16 % 16), Nat.digitChar (n % 16)]

def escapedChar (c : Char) : String :=
  if c = '"' then "\\\""
  else if c = '\\' then "\\\\"
  else if c = '\n' then "\\n"
  else if c = '\r' then "\\r"
  else if c = '\t' then "\\t"
  else if c = '\x08' then "\\b"
  else if c = '\x0C' then "\\f"
  else if c.toNat < 0x20 then "\\u00" ++ hexByte c.toNat
  else String.singleton c

/-- A string literal. -/
def literal (text : String) : String :=
  text.toList.foldl (fun shown c => shown ++ escapedChar c) "\"" ++ "\""

def Number.print : Number → String
  | .int n => toString n
  | .float x => if x.isFinite then x.render .json else "null"

mutual

def Value.print : Value → String
  | .null => "null"
  | .bool true => "true"
  | .bool false => "false"
  | .number n => n.print
  | .string text => literal text
  | .array items => "[" ++ printItems items ++ "]"
  | .object fields => "\x7b" ++ printFields fields ++ "\x7d"

def printItems : List Value → String
  | [] => ""
  | [value] => value.print
  | value :: rest => value.print ++ "," ++ printItems rest

def printFields : List (String × Value) → String
  | [] => ""
  | [(name, value)] => literal name ++ ":" ++ value.print
  | (name, value) :: rest => literal name ++ ":" ++ value.print ++ "," ++ printFields rest

end

end ChatClient.Json
