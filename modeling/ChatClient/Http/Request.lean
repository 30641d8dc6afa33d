import ChatClient.Http.Address
import ChatClient.Http.Header
import ChatClient.Json.Value
import ChatClient.Text.Base64
import ChatClient.Text.Quoted
import ChatClient.Url

/-! Building requests. Whatever identifies the caller is attached to each request, so calls that
share a configuration cannot see each other's headers. -/

namespace ChatClient.Http

open Json

/-- How the caller proves who they are. -/
inductive Credential where
  | bearer (token : String)
  | keyHeader (name key : String)
  deriving DecidableEq

namespace Credential

def header : Credential → Header
  | .bearer token => ⟨"authorization", "Bearer " ++ token⟩
  | .keyHeader name key => ⟨name, key⟩

/-- A description that gives nothing secret away. -/
def redacted : Credential → String
  | .bearer _ => "Bearer(\"[REDACTED]\")"
  | .keyHeader name _ =>
    "ApiKey \x7b header_name: " ++ Text.quoted name ++ ", key: \"[REDACTED]\" \x7d"

end Credential

/-- What is called on a server: a method, a path, and headers of its own. -/
structure Endpoint where
  method : String
  path : String
  headers : HeaderMap

namespace Endpoint

def post (path : String) : Endpoint :=
  ⟨"POST", path, .empty⟩

def withHeader (endpoint : Endpoint) (name value : String) : Endpoint :=
  { endpoint with headers := endpoint.headers.insert name value }

end Endpoint

/-- What all requests to one server have in common. -/
structure ServerConfig where
  baseUrl : String
  credential : Option Credential
  defaultHeaders : HeaderMap
  userAgent : Option String

/-- The full address of a path. -/
def ServerConfig.url (config : ServerConfig) (path : String) : String :=
  joinUrl config.baseUrl path

/-- The headers of a request in the order in which they are attached. A default gives way to a
header of the endpoint with the same name; the others are all sent. -/
def ServerConfig.headers (config : ServerConfig) (endpoint : Endpoint) : List Header :=
  (config.credential.map Credential.header).toList ++
    config.defaultHeaders.entries.filter (fun header => !endpoint.headers.mentions header.name) ++
    endpoint.headers.entries ++
    (config.userAgent.map fun agent => (⟨"user-agent", agent⟩ : Header)).toList

structure Request where
  method : String
  url : Url
  headers : List Header
  body : Option Value

/-- The header for a user whom the address names. -/
def loginHeader (user password : String) : Header :=
  ⟨"authorization",
    "Basic " ++ String.ofList (Text.Base64.encode (Text.Utf8.encode (user ++ ":" ++ password)))⟩

/-- A request to an address before it has headers of the endpoint. A user in the address is sent in
a header instead. -/
def Request.start (method : String) (url : Url) : Request :=
  match url.login? with
  | none => ⟨method, url, [], none⟩
  | some (user, password) => ⟨method, url.withoutUser, [loginHeader user password], none⟩

/-- The request for an endpoint. It cannot be built without a usable address or with a header that
is not well-formed. -/
def ServerConfig.build (config : ServerConfig) (endpoint : Endpoint) : Option Request :=
  match Url.ofString? (config.url endpoint.path) with
  | none => none
  | some url =>
    let headers := config.headers endpoint
    if headers.all Header.isValid then
      let request := Request.start endpoint.method url
      some { request with
        headers := request.headers ++
          headers.map fun header => { header with name := lowerName header.name } }
    else none

namespace Request

def hasHeader (request : Request) (name : String) : Bool :=
  request.headers.any fun header => header.name = name

/-- Attaches a JSON body, and says so unless some content type is set. -/
def withBody (request : Request) (body : Value) : Request :=
  { request with
    body := some body
    headers :=
      if request.hasHeader "content-type" then request.headers
      else request.headers ++ [⟨"content-type", "application/json"⟩] }

/-- Attaches a body if there is one. -/
def withBody? (request : Request) : Option Value → Request
  | none => request
  | some body => request.withBody body

/-- The headers as the server sees them: without space around values, in listing order, and with
leave to answer in any form when the request asks for none. -/
def receivedHeaders (request : Request) : List Header :=
  let accept : List Header := if request.hasHeader "accept" then [] else [⟨"accept", "*/*"⟩]
  sortHeaders ((request.headers ++ accept).map fun header =>
    { header with value := Text.trim header.value })

end Request

end ChatClient.Http
