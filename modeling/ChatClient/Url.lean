import ChatClient.Url.Host
import ChatClient.Url.Path

/-! Absolute addresses: reading one from a text, and the text that it goes by. -/

namespace ChatClient

/-- The parts of an address, each in the form in which it is written. -/
structure Url where
  scheme : List Char
  user : List Char
  password : Option (List Char)
  host : Url.Host
  /-- No port where the scheme has one of its own and that is meant. -/
  port : Option Nat
  segments : List (List Char)
  query : Option (List Char)
  fragment : Option (List Char)
  deriving DecidableEq, Repr

namespace Url

/-! ## Schemes -/

/-- The scheme of an address and what follows its colon. -/
def splitScheme? (chars : List Char) : Option (List Char × List Char) :=
  let stands (c : Char) : Bool := c.isAlphanum || c = '+' || c = '-' || c = '.'
  let scheme := chars.takeWhile stands
  match chars.dropWhile stands with
  | ':' :: rest =>
    if (scheme.head?.map Char.isAlpha).getD false then some (scheme.map Char.toLower, rest)
    else none
  | _ => none

def defaultPort? (scheme : List Char) : Option Nat :=
  match String.ofList scheme with
  | "http" | "ws" => some 80
  | "https" | "wss" => some 443
  | "ftp" => some 21
  | _ => none

def isFile (scheme : List Char) : Bool :=
  scheme = "file".toList

/-- The special schemes, whose hosts are names of the web or numbers. -/
def isSpecial (scheme : List Char) : Bool :=
  (defaultPort? scheme).isSome || isFile scheme

/-- Behind a special scheme a backslash is a slash. -/
def isSlash (scheme : List Char) (c : Char) : Bool :=
  c = '/' || (c = '\\' && isSpecial scheme)

/-! ## Hosts, users and ports -/

/-- What stands between the slashes and the path. -/
structure Authority where
  user : List Char
  password : Option (List Char)
  host : Host
  port : Option Nat
  /-- What follows the digits of the port and belongs to the path: nothing, or a backslash and what
  comes after it. -/
  overhang : List Char

/-- A text before and after the last `@`; without one it is all after. -/
def splitUser (chars : List Char) : List Char × List Char :=
  let reversed := chars.reverse
  (((reversed.dropWhile (· ≠ '@')).drop 1).reverse, (reversed.takeWhile (· ≠ '@')).reverse)

/-- A host and what follows it. A colon in brackets belongs to the host. -/
def splitPort (inBrackets : Bool) : List Char → List Char × List Char
  | [] => ([], [])
  | c :: rest =>
    if c = ':' && !inBrackets then ([], c :: rest)
    else
      let (host, port) := splitPort (c = '[' || (inBrackets && c ≠ ']')) rest
      (c :: host, port)

/-- The port after a host, if what follows is one, and what overhangs: digits up to the greatest
number of 16 bits, or none at all. A backslash ends them behind any scheme. -/
def readPort? (scheme : List Char) : List Char → Option (Option Nat × List Char)
  | [] => some (none, [])
  | _ :: chars =>
    let digits := chars.takeWhile Char.isDigit
    let overhang := chars.dropWhile Char.isDigit
    let port := digits.foldl (fun port c => port * 10 + (c.toNat - 48)) 0
    if !(overhang.isEmpty || overhang.head? = some '\\') || port > 65535 then none
    else if digits.isEmpty || defaultPort? scheme = some port then some (none, overhang)
    else some (some port, overhang)

def readAuthority? (scheme chars : List Char) : Option Authority := do
  let (login, place) := splitUser chars
  let (name, port) := splitPort false place
  let (port, overhang) ← readPort? scheme port
  let password := (login.dropWhile (· ≠ ':')).drop 1
  return {
    user := Percent.encode Percent.inUser (login.takeWhile (· ≠ ':'))
    password :=
      if password.isEmpty then none else some (Percent.encode Percent.inUser password)
    host := ← if isSpecial scheme then Host.ofSpecial? name else Host.ofOther? name
    port := port
    overhang := overhang }

/-! ## Files -/

/-- The host of a file, which is neither a drive nor the host that asks. -/
def readFileHost? (chars : List Char) : Option Authority :=
  if Path.isDrive chars then none
  else
    match Host.ofSpecial? chars with
    | some host =>
      if host = .domain "localhost".toList then none else some ⟨[], none, host, none, []⟩
    | none => none

/-- The folders on the host of a file, without empty ones in front. A drive is on no host. -/
def filePath? (segments : List (List Char)) : Option (List (List Char)) :=
  if (segments.head?.map Path.isDrive).getD false then none
  else
    match segments.dropWhile List.isEmpty with
    | [] => some [[]]
    | kept => some kept

/-! ## Reading -/

/-- Space and control characters around an address are passed over, and line ends and tabs in it. -/
def clean (chars : List Char) : List Char :=
  let isOuter (c : Char) : Bool := c.toNat ≤ 0x20
  ((chars.dropWhile isOuter).reverse.dropWhile isOuter).reverse.filter fun c =>
    c ≠ '\t' && c ≠ '\n' && c ≠ '\r'

/-- What stands behind the slashes after the scheme. Special schemes other than that of files do not
insist on two. -/
def afterSlashes? (scheme chars : List Char) : Option (List Char) :=
  if isSpecial scheme && !isFile scheme then some (chars.dropWhile (isSlash scheme))
  else
    match chars with
    | first :: second :: rest =>
      if isSlash scheme first && isSlash scheme second then some rest else none
    | _ => none

/-- An address that starts with a scheme and names a host. -/
def ofChars? (chars : List Char) : Option Url := do
  let (scheme, rest) ← splitScheme? (clean chars)
  let rest ← afterSlashes? scheme rest
  let isInside (c : Char) : Bool := !(isSlash scheme c || c = '?' || c = '#')
  let authority ←
    if isFile scheme then readFileHost? (rest.takeWhile isInside)
    else readAuthority? scheme (rest.takeWhile isInside)
  let rest := rest.dropWhile isInside
  let path := rest.takeWhile fun c => c ≠ '?' && c ≠ '#'
  let path := if authority.overhang.isEmpty then path else '/' :: authority.overhang ++ path
  let rest := rest.dropWhile fun c => c ≠ '?' && c ≠ '#'
  let inQuery (c : Char) : Bool := Percent.inQuery c && !(c = '\'' && isSpecial scheme)
  let segments :=
    if path.isEmpty && !isSpecial scheme then [] else Path.ofChars (isSlash scheme) path
  return {
    scheme := scheme
    user := authority.user
    password := authority.password
    host := authority.host
    port := authority.port
    segments := ← if isFile scheme then filePath? segments else some segments
    query :=
      if rest.head? = some '?' then
        some (Percent.encode inQuery ((rest.drop 1).takeWhile (· ≠ '#')))
      else none
    fragment :=
      match rest.dropWhile (· ≠ '#') with
      | [] => none
      | _ :: fragment => some (Percent.encode Percent.inFragment fragment) }

def ofString? (text : String) : Option Url :=
  ofChars? text.toList

/-! ## Parts of an address -/

def path (url : Url) : String :=
  String.ofList (Path.render url.segments)

/-- Whether requests can be sent to an address. -/
def isHttp (url : Url) : Bool :=
  url.scheme = "http".toList || url.scheme = "https".toList

/-- The user that an address names, with a password that may be empty. A user who cannot be read is
none, and neither is one without name and password. -/
def login? (url : Url) : Option (String × String) :=
  match Percent.decodeText? url.user with
  | none => none
  | some user =>
    let password := url.password.bind Percent.decodeText?
    if user ≠ "" || password.isSome then some (user, password.getD "") else none

/-- The address without its user. -/
def withoutUser (url : Url) : Url :=
  { url with user := [], password := none }

def renderUser (url : Url) : List Char :=
  let password := (url.password.map fun password => ':' :: password).getD []
  if url.user.isEmpty && password.isEmpty then [] else url.user ++ password ++ ['@']

/-- The text of an address. -/
def toChars (url : Url) : List Char :=
  url.scheme ++ [':', '/', '/'] ++ url.renderUser ++ url.host.render ++
    (url.port.map fun port => ':' :: Nat.toDigits 10 port).getD [] ++
    Path.render url.segments ++
    (url.query.map fun query => '?' :: query).getD [] ++
    (url.fragment.map fun fragment => '#' :: fragment).getD []

instance : ToString Url where
  toString url := String.ofList url.toChars

end Url

end ChatClient
