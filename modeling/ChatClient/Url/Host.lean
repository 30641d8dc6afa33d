import ChatClient.Url.Domain
import ChatClient.Url.Ipv4
import ChatClient.Url.Ipv6
import ChatClient.Url.Percent

/-! Hosts of addresses. -/

namespace ChatClient.Url

inductive Host where
  | domain (name : List Char)
  | ipv4 (address : Nat)
  | ipv6 (groups : List Nat)
  /-- A host behind a scheme that is not special, which is taken as it is given. -/
  | named (name : List Char)
  deriving DecidableEq, Repr

namespace Host

def ipv6? (chars : List Char) : Option Host :=
  (Ipv6.read? chars).map .ipv6

/-- A host in brackets. -/
def ofBrackets? (chars : List Char) : Option Host :=
  if chars.getLast? = some ']' then ipv6? chars.dropLast else none

/-- A host behind a special scheme. Its escapes are resolved before anything else is looked at. -/
def ofSpecial? : List Char → Option Host
  | '[' :: chars => ofBrackets? chars
  | chars => do
    let name ← Domain.toAscii? (← Percent.decodeText? chars).toList
    if Ipv4.isNumeric name then (Ipv4.read? name).map .ipv4 else some (.domain name)

/-- Characters that no host may hold. -/
def isForbidden (c : Char) : Bool :=
  "\x00\t\n\r #/:<>?@[\\]^|".toList.contains c

/-- A host behind any other scheme. -/
def ofOther? : List Char → Option Host
  | '[' :: chars => ofBrackets? chars
  | chars =>
    if chars.isEmpty || chars.any isForbidden then none
    else some (.named (Percent.encode Percent.isPlain chars))

def render : Host → List Char
  | .domain name => name
  | .ipv4 address => Ipv4.render address
  | .ipv6 groups => '[' :: Ipv6.render groups ++ [']']
  | .named name => name

end Host

end ChatClient.Url
