import ChatClient.Text.Segment
import ChatClient.Unicode.Composed
import ChatClient.Unicode.Direction
import ChatClient.Unicode.DomainMapping
import ChatClient.Unicode.Joining
import ChatClient.Url.Punycode

/-! Names of domains. A name may be given in any script and in any spelling; what goes out is ASCII,
where a label with other characters is written in Punycode behind `xn--`. -/

namespace ChatClient.Url.Domain

open Unicode

def isAscii (c : Char) : Bool :=
  c.toNat < 0x80

/-- How a name spells a character, if it may hold it. -/
def spell? (c : Char) : Option (List Char) :=
  if isAscii c then some [c.toLower]
  else if domainIgnored.contains c then some []
  else if domainDisallowed.contains c then none
  else some ((domainSpelling.find? c).getD [c])

def spellAll? : List Char → Option (List Char)
  | [] => some []
  | c :: rest =>
    match spell? c, spellAll? rest with
    | some spelled, some others => some (spelled ++ others)
    | _, _ => none

/-- The one spelling of a name that all its spellings lead to. -/
def normalize? (name : List Char) : Option (List Char) :=
  if name.all isAscii then some (name.map Char.toLower)
  else (spellAll? name).map composed

def codedMark : List Char := ['x', 'n', '-', '-']

/-- The greatest length of a label in Punycode, without the mark before it. -/
def longestCoded : Nat := 2000

/-- The greatest length of a label that is sent in Punycode, before it is coded. -/
def longestUncoded : Nat := 1000

/-- A label as it is read. Behind `xn--` stands a text that is not in ASCII and in the spelling of
names. -/
def readLabel? (label : List Char) : Option (List Char) :=
  if codedMark.isPrefixOf label then
    let coded := label.drop codedMark.length
    if coded.length ≤ longestCoded then
      match Punycode.decode coded with
      | some text => if !text.all isAscii && normalize? text = some text then some text else none
      | none => none
    else none
  else some label

/-- A label as it is sent. -/
def writeLabel (label : List Char) : List Char :=
  if label.all isAscii then label else codedMark ++ Punycode.encode label

/-! ## What a label may look like -/

/-- The class of the marks that take a vowel off a consonant. -/
def viramaClass : Nat := 9

/-- Whether letters on both sides of a place join in one stroke. What stands before comes last
character first. -/
def joinsAcross (before after : List Char) : Bool :=
  let nearest (chars : List Char) : Option Joining :=
    (chars.map Joining.of).find? (· ≠ .transparent)
  (nearest before = some .left || nearest before = some .dual) &&
    (nearest after = some .right || nearest after = some .dual)

/-- Whether the joiners in a label stand where they can be told: after a virama, and the one that
parts letters also between letters that would join. What has been passed comes last character
first. -/
def joinersInPlace (passed : List Char) : List Char → Bool
  | [] => true
  | c :: rest =>
    (if c = '\u200c' ∨ c = '\u200d' then
      ((passed.head?.map combiningClass).getD 0 = viramaClass) ||
        (c = '\u200c' && joinsAcross passed rest)
    else true) && joinersInPlace (c :: passed) rest

/-- A label does not start with a mark, its joiners are in place, and it is not too long to be
coded. -/
def isProper (label : List Char) : Bool :=
  label.all isAscii ||
    (label.length ≤ longestUncoded && !(label.head?.map isMark).getD false &&
      joinersInPlace [] label)

/-- The direction in which a label ends, marks aside. -/
def lastDirection (directions : List Direction) : Option Direction :=
  directions.reverse.find? (· ≠ .mark)

/-- Whether a label can be read in a name that has letters written from right to left. It keeps to
one direction, and numbers do not stand where they would seem to belong to a neighbour. -/
def isReadable (label : List Char) : Bool :=
  let directions := label.map Direction.of
  let both : List Direction :=
    [.europeanNumber, .numberSign, .numberSeparator, .numberTerminator, .neutral, .boundary, .mark]
  match directions with
  | [] => true
  | .leftToRight :: _ =>
    directions.all (fun d => d = .leftToRight || both.contains d) &&
      [some .leftToRight, some .europeanNumber].contains (lastDirection directions)
  | first :: _ =>
    (first = .rightToLeft || first = .arabicLetter) &&
      directions.all (fun d =>
        d = .rightToLeft || d = .arabicLetter || d = .arabicNumber || both.contains d) &&
      [some .rightToLeft, some .arabicLetter, some .europeanNumber, some .arabicNumber].contains
        (lastDirection directions) &&
      !(directions.contains .europeanNumber && directions.contains .arabicNumber)

/-- Whether a character makes the whole name one that is read in both directions. -/
def turnsAround (c : Char) : Bool :=
  !isAscii c && [Direction.rightToLeft, .arabicLetter, .arabicNumber].contains (Direction.of c)

/-- Characters that may not stand in the name of a host. -/
def isForbidden (c : Char) : Bool :=
  c.toNat ≤ 0x20 || c.toNat = 0x7F || "#%/:<>?@[\\]^|".toList.contains c

/-- A name in ASCII, if it is one. -/
def toAscii? (name : List Char) : Option (List Char) :=
  match normalize? name with
  | none => none
  | some spelled =>
    match (Text.segments (· = '.') spelled).mapM readLabel? with
    | none => none
    | some labels =>
      let ascii := Text.joinSegments '.' (labels.map writeLabel)
      if labels.all isProper && (!labels.any (·.any turnsAround) || labels.all isReadable) &&
          !ascii.isEmpty && !ascii.any isForbidden then
        some ascii
      else none

end ChatClient.Url.Domain
