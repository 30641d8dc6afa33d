import ChatClient.Text.Segment
import ChatClient.Url.Percent

/-! Paths of addresses. A path is kept as the list of its segments, where a segment of one dot or
two has been followed already. -/

namespace ChatClient.Url.Path

/-- A dot may also be given by its escape. -/
def dots (segment : List Char) : Option Nat :=
  match segment.map Char.toLower with
  | ['.'] => some 1
  | ['%', '2', 'e'] => some 1
  | ['.', '.'] => some 2
  | ['.', '%', '2', 'e'] => some 2
  | ['%', '2', 'e', '.'] => some 2
  | ['%', '2', 'e', '%', '2', 'e'] => some 2
  | _ => none

/-- Whether a segment names a drive: a letter and a colon or bar, and then nothing, or a backslash
where that is no slash. -/
def isDrive : List Char → Bool
  | letter :: mark :: rest =>
    letter.isAlpha && (mark = ':' || mark = '|') && (rest.isEmpty || rest.head? = some '\\')
  | _ => false

/-- What is left of the segments passed, last one first, after going back by one. A drive is not
left, and neither is the root. -/
def back : List (List Char) → List (List Char)
  | [] => []
  | segment :: before => if isDrive segment then segment :: before else before

/-- Follows segments, given those passed so far with the last one first. One dot stays and two go
back; at the end both leave a slash. -/
def follow (passed : List (List Char)) : List (List Char) → List (List Char)
  | [] => passed.reverse
  | segment :: rest =>
    let kept := match dots segment with
      | none => segment :: passed
      | some 1 => passed
      | some _ => back passed
    match rest with
    | [] => (if (dots segment).isSome then [] :: kept else kept).reverse
    | next :: others => follow kept (next :: others)

/-- The segments of a path that starts with a slash. -/
def ofChars (isSlash : Char → Bool) (chars : List Char) : List (List Char) :=
  follow [] ((Text.segments isSlash (chars.drop 1)).map (Percent.encode Percent.inPath))

def render (segments : List (List Char)) : List Char :=
  segments.flatMap ('/' :: ·)

end ChatClient.Url.Path
