/-! UTF-8. A byte string is first cut into pieces, each a character or a maximal run of bytes that
begins none; strict and lenient decoding are two readings of that list. -/

namespace ChatClient.Text.Utf8

/-- What a byte string is made of. -/
inductive Piece where
  | char (c : Char)
  /-- Up to three bytes that begin some character but are followed by a byte that cannot go on. -/
  | invalid (length : Nat)
  /-- The input ends inside a character. -/
  | cut (length : Nat)
  deriving DecidableEq, Repr

/-- A character of which the first bytes have been seen. The range of the next byte is narrower than
that of a continuation byte where a longer spelling, a surrogate or a number past U+10FFFF would
start. -/
structure Begun where
  code : Nat
  seen : Nat
  due : Nat
  low : Nat
  high : Nat

/-- The state after a byte that stands first: a whole piece, or a character begun. -/
def begin? (b : UInt8) : Piece ⊕ Begun :=
  let code := b.toNat
  if code < 0x80 then .inl (.char (Char.ofNat code))
  else if code < 0xC2 then .inl (.invalid 1)
  else if code < 0xE0 then .inr ⟨code % 32, 1, 1, 0x80, 0xBF⟩
  else if code = 0xE0 then .inr ⟨0, 1, 2, 0xA0, 0xBF⟩
  else if code = 0xED then .inr ⟨13, 1, 2, 0x80, 0x9F⟩
  else if code < 0xF0 then .inr ⟨code % 16, 1, 2, 0x80, 0xBF⟩
  else if code = 0xF0 then .inr ⟨0, 1, 3, 0x90, 0xBF⟩
  else if code < 0xF4 then .inr ⟨code % 8, 1, 3, 0x80, 0xBF⟩
  else if code = 0xF4 then .inr ⟨4, 1, 3, 0x80, 0x8F⟩
  else .inl (.invalid 1)

/-- Cuts a byte string into characters and broken runs. A byte that ends a broken run is looked at
again as the start of the next piece. -/
def piecesFrom : Option Begun → List UInt8 → List Piece
  | none, [] => []
  | some begun, [] => [.cut begun.seen]
  | none, b :: rest =>
    match begin? b with
    | .inl piece => piece :: piecesFrom none rest
    | .inr begun => piecesFrom (some begun) rest
  | some begun, b :: rest =>
    if begun.low ≤ b.toNat ∧ b.toNat ≤ begun.high then
      let code := begun.code * 64 + b.toNat % 64
      if begun.due = 1 then .char (Char.ofNat code) :: piecesFrom none rest
      else piecesFrom (some ⟨code, begun.seen + 1, begun.due - 1, 0x80, 0xBF⟩) rest
    else
      .invalid begun.seen ::
        match begin? b with
        | .inl piece => piece :: piecesFrom none rest
        | .inr begun => piecesFrom (some begun) rest

def pieces (bytes : List UInt8) : List Piece :=
  piecesFrom none bytes

/-- Where a byte string stops being UTF-8, and how many bytes are at fault; no length means that
the input ended too early. -/
structure Fault where
  index : Nat
  length : Option Nat
  deriving DecidableEq, Repr

def Fault.message (fault : Fault) : String :=
  match fault.length with
  | some length => s!"invalid utf-8 sequence of {length} bytes from index {fault.index}"
  | none => s!"incomplete utf-8 byte sequence from index {fault.index}"

/-- The characters of a list of pieces, or the first broken piece with its byte offset. -/
def joinStrict (index : Nat) : List Piece → Except Fault (List Char)
  | [] => .ok []
  | .char c :: rest => (joinStrict (index + c.utf8Size) rest).map (c :: ·)
  | .invalid length :: _ => .error ⟨index, some length⟩
  | .cut _ :: _ => .error ⟨index, none⟩

/-- The text of a byte string that is UTF-8 throughout. -/
def decode (bytes : List UInt8) : Except Fault String :=
  (joinStrict 0 (pieces bytes)).map String.ofList

/-- The character a piece shows as; a broken run shows as one replacement character. -/
def Piece.shown : Piece → Char
  | .char c => c
  | .invalid _ => '\uFFFD'
  | .cut _ => '\uFFFD'

/-- The text of any byte string. -/
def decodeLossy (bytes : List UInt8) : String :=
  String.ofList ((pieces bytes).map Piece.shown)

/-- The bytes of one character. -/
def encodeChar (c : Char) : List UInt8 :=
  let code := c.toNat
  if code < 0x80 then [UInt8.ofNat code]
  else if code < 0x800 then
    [UInt8.ofNat (0xC0 + code / 64), UInt8.ofNat (0x80 + code % 64)]
  else if code < 0x10000 then
    [UInt8.ofNat (0xE0 + code / 4096), UInt8.ofNat (0x80 + code / 64 % 64),
      UInt8.ofNat (0x80 + code % 64)]
  else
    [UInt8.ofNat (0xF0 + code / 262144), UInt8.ofNat (0x80 + code / 4096 % 64),
      UInt8.ofNat (0x80 + code / 64 % 64), UInt8.ofNat (0x80 + code % 64)]

/-- The bytes of a text. -/
def encode (text : String) : List UInt8 :=
  text.toList.flatMap encodeChar

end ChatClient.Text.Utf8
