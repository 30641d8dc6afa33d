import ChatClient.Text.Hex
import ChatClient.Text.Utf8

/-! Percent escapes. A byte that may not stand in some part of an address is written as `%` and two
hexadecimal digits. -/

namespace ChatClient.Url.Percent

def escapeByte (b : UInt8) : List Char :=
  ['%', Text.upperHexDigit (b.toNat / 16), Text.upperHexDigit (b.toNat % 16)]

/-- Writes the characters that may stand as they are and escapes the others. -/
def encode (stands : Char → Bool) (chars : List Char) : List Char :=
  chars.flatMap fun c => if stands c then [c] else (Text.Utf8.encodeChar c).flatMap escapeByte

/-- The bytes of a text with its escapes resolved. A `%` without two digits stands for itself. -/
def decode : List Char → List UInt8
  | '%' :: high :: low :: rest =>
    match Text.hexDigit? high, Text.hexDigit? low with
    | some a, some b => UInt8.ofNat (a * 16 + b) :: decode rest
    | _, _ => 0x25 :: decode (high :: low :: rest)
  | c :: rest => Text.Utf8.encodeChar c ++ decode rest
  | [] => []

/-- The text with its escapes resolved, if that is UTF-8. -/
def decodeText? (chars : List Char) : Option String :=
  (Text.Utf8.decode (decode chars)).toOption

/-! ## What may stand -/

def isPlain (c : Char) : Bool :=
  0x20 ≤ c.toNat && c.toNat < 0x7F

def inFragment (c : Char) : Bool :=
  isPlain c && !" \"<>`".toList.contains c

def inPath (c : Char) : Bool :=
  inFragment c && !"#?{}".toList.contains c

def inUser (c : Char) : Bool :=
  inPath c && !"/:;=@[\\]^|".toList.contains c

def inQuery (c : Char) : Bool :=
  isPlain c && !" \"#<>".toList.contains c

end ChatClient.Url.Percent
