import ChatClient.Text.Blank

/-! Request headers. Names are compared without regard to the case of ASCII letters. -/

namespace ChatClient.Http

/-- The lower-case form that a header name is sent in. -/
def lowerName (name : String) : String :=
  String.ofList (name.toList.map Char.toLower)

/-- Whether two names differ at most in case. -/
def sameName (a b : String) : Bool :=
  lowerName a = lowerName b

structure Header where
  name : String
  value : String
  deriving DecidableEq, Repr

def isNameChar (c : Char) : Bool :=
  c.isAlphanum || "!#$%&'*+-.^_`|~".toList.contains c

/-- A name is one token. -/
def isName (name : String) : Bool :=
  !name.isEmpty && name.toList.all isNameChar

/-- A value holds visible characters, spaces and tabs. -/
def isValue (value : String) : Bool :=
  value.toList.all fun c => c = '\t' || (0x20 ≤ c.toNat && c.toNat ≠ 0x7F)

def Header.isValid (header : Header) : Bool :=
  isName header.name && isValue header.value

/-- Headers kept by name, spelled exactly; each name has one value. -/
structure HeaderMap where
  entries : List Header
  deriving DecidableEq

namespace HeaderMap

def empty : HeaderMap :=
  ⟨[]⟩

/-- Sets the value of a name. -/
def insert (map : HeaderMap) (name value : String) : HeaderMap :=
  ⟨map.entries.filter (fun header => header.name ≠ name) ++ [⟨name, value⟩]⟩

def ofList (headers : List (String × String)) : HeaderMap :=
  headers.foldl (fun map header => map.insert header.1 header.2) empty

/-- Whether some name is the given one, apart from case. -/
def mentions (map : HeaderMap) (name : String) : Bool :=
  map.entries.any fun header => sameName header.name name

end HeaderMap

/-- The order in which headers are listed: by name, then by value. -/
def Header.le (a b : Header) : Bool :=
  a.name < b.name || (a.name = b.name && (a.value < b.value || a.value = b.value))

/-- Headers in listing order. -/
def sortHeaders (headers : List Header) : List Header :=
  headers.mergeSort Header.le

end ChatClient.Http
