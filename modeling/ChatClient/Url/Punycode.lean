/-! Punycode, which spells any text in ASCII. The ASCII characters come first; then each other
character is entered, in the order of the code points, by a number that tells how many steps it is
away: a step goes to the next place of the text, and behind its end to the next code point. -/

namespace ChatClient.Url.Punycode

/-- The value of a digit: letters first, then the ten numerals. -/
def digit? (c : Char) : Option Nat :=
  if 'a' ≤ c ∧ c ≤ 'z' then some (c.toNat - 97)
  else if 'A' ≤ c ∧ c ≤ 'Z' then some (c.toNat - 65)
  else if c.isDigit then some (c.toNat - 22)
  else none

def digitChar (n : Nat) : Char :=
  if n < 26 then Char.ofNat (97 + n) else Char.ofNat (22 + n)

/-- Digits below the threshold end a number. It depends on how many digits stand before, and on what
numbers have been common so far. -/
def threshold (bias place : Nat) : Nat :=
  max 1 (min 26 (36 * (place + 1) - bias))

theorem threshold_pos (bias place : Nat) : 0 < threshold bias place := by
  unfold threshold
  omega

/-- Divides out the size of a number, counting 36 for each division. -/
def scaled (n : Nat) : Nat :=
  if n ≤ 455 then 36 * n / (n + 38) else 36 + scaled (n / 35)

/-- The bias after a number, with the length of the text that it has led to. The first number is
often large and counts less. -/
def adapt (steps length : Nat) (isFirst : Bool) : Nat :=
  let steps := if isFirst then steps / 700 else steps / 2
  scaled (steps + steps / length)

/-- What has been written and decides about the next number. -/
structure Progress where
  bias : Nat
  isFirst : Bool

def Progress.start : Progress := ⟨72, true⟩

def Progress.after (progress : Progress) (steps length : Nat) : Progress :=
  ⟨adapt steps length progress.isFirst, false⟩

/-! ## Reading -/

/-- A text while its characters are entered. -/
structure Reading where
  text : List Char
  progress : Progress
  /-- The code point that is entered next, unless steps lead beyond the text. -/
  code : Nat
  /-- The place where it is entered. -/
  index : Nat
  /-- The part of the current number that has been read. -/
  steps : Nat
  /-- The number of its digits, and what its next digit counts. -/
  place : Nat
  weight : Nat

namespace Reading

/-- Enters a character the given number of steps away. -/
def insert? (reading : Reading) (steps : Nat) : Option Reading :=
  let length := reading.text.length + 1
  let target := reading.index + steps
  let code := reading.code + target / length
  if code.isValidChar then
    some {
      text := reading.text.insertIdx (target % length) (Char.ofNat code)
      progress := reading.progress.after steps length
      code := code
      index := target % length + 1
      steps := 0
      place := 0
      weight := 1 }
  else none

def step? (reading : Reading) (c : Char) : Option Reading :=
  match digit? c with
  | none => none
  | some digit =>
    let limit := threshold reading.progress.bias reading.place
    let steps := reading.steps + digit * reading.weight
    if digit < limit then reading.insert? steps
    else
      some { reading with
        steps := steps
        place := reading.place + 1
        weight := reading.weight * (36 - limit) }

end Reading

/-- The text that is spelled. The last hyphen ends the ASCII characters if there are any. -/
def decode (chars : List Char) : Option (List Char) :=
  let ascii := ((chars.reverse.dropWhile (· ≠ '-')).drop 1).reverse
  let digits := if ascii.isEmpty then chars else (chars.reverse.takeWhile (· ≠ '-')).reverse
  if ascii.all fun c => c.toNat < 0x80 then
    match digits.foldlM Reading.step? ⟨ascii, .start, 0x80, 0, 0, 0, 1⟩ with
    | some reading => if reading.place = 0 then some reading.text else none
    | none => none
  else none

/-! ## Writing -/

/-- The digits of a number from the given place on. -/
def numeral (bias place n : Nat) : List Char :=
  let limit := threshold bias place
  if n < limit then [digitChar n]
  else
    digitChar (limit + (n - limit) % (36 - limit)) ::
      numeral bias (place + 1) ((n - limit) / (36 - limit))
termination_by n
decreasing_by
  have := threshold_pos bias place
  have := Nat.div_le_self (n - threshold bias place) (36 - threshold bias place)
  omega

/-- The spelling while characters are entered. -/
structure Writing where
  written : List Char
  progress : Progress
  /-- Steps since the last character was entered. -/
  steps : Nat
  /-- How many characters of the text have been entered. -/
  length : Nat

/-- Passes one character of the text while the characters with the given code are entered. -/
def Writing.step (code : Nat) (writing : Writing) (c : Char) : Writing :=
  if c.toNat < code then { writing with steps := writing.steps + 1 }
  else if c.toNat = code then
    { written := writing.written ++ numeral writing.progress.bias 0 writing.steps
      progress := writing.progress.after writing.steps (writing.length + 1)
      steps := 0
      length := writing.length + 1 }
  else writing

/-- Enters the characters of one code point after another, given those in ascending order. -/
def enter (chars : List Char) : Nat → List Nat → Writing → Writing
  | _, [], writing => writing
  | reached, code :: codes, writing =>
    let skipped := { writing with
      steps := writing.steps + (code - reached) * (writing.length + 1) }
    let entered := chars.foldl (Writing.step code) skipped
    enter chars (code + 1) codes { entered with steps := entered.steps + 1 }

/-- Code points in ascending order, each once. -/
def insertCode (code : Nat) : List Nat → List Nat
  | [] => [code]
  | next :: rest =>
    if code < next then code :: next :: rest
    else if code = next then next :: rest
    else next :: insertCode code rest

/-- The spelling of a text. -/
def encode (chars : List Char) : List Char :=
  let ascii := chars.filter fun c => c.toNat < 0x80
  let codes := (chars.filter fun c => 0x80 ≤ c.toNat).foldr (fun c => insertCode c.toNat) []
  let start : Writing := ⟨if ascii.isEmpty then [] else ascii ++ ['-'], .start, 0, ascii.length⟩
  (enter chars 0x80 codes start).written

end ChatClient.Url.Punycode
