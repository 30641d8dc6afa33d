/-! Addresses of requests, each the address of a server joined with a path on it. -/

namespace ChatClient.Http

/-- Drops the slashes at the end. -/
def dropEndSlashes (chars : List Char) : List Char :=
  (chars.reverse.dropWhile (· = '/')).reverse

/-- Joins a base and a path with one slash, whatever slashes meet there. -/
def joinChars (base path : List Char) : List Char :=
  dropEndSlashes base ++ '/' :: path.dropWhile (· = '/')

def joinUrl (base path : String) : String :=
  String.ofList (joinChars base.toList path.toList)

end ChatClient.Http
