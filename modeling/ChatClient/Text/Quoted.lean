import ChatClient.Text.Hex
import ChatClient.Unicode.Hidden

/-! Texts in quotes, where characters that show nothing of their own are shown by number. -/

namespace ChatClient.Text

/-- Whether a character stands for itself inside quotes. Among ASCII these are the characters from
the space to the tilde. -/
def isVisible (c : Char) : Bool :=
  if c.toNat < 0x7F then 0x20 ≤ c.toNat else !Unicode.hidden.contains c

/-- One character between quotes: six have a short escape, hidden ones are shown by number. -/
def quotedChar (c : Char) : String :=
  if c = '\x00' then "\\0"
  else if c = '\t' then "\\t"
  else if c = '\r' then "\\r"
  else if c = '\n' then "\\n"
  else if c = '"' then "\\\""
  else if c = '\\' then "\\\\"
  else if isVisible c then String.singleton c
  else "\\u\x7b" ++ String.ofList (hexNumeral c.toNat) ++ "\x7d"

/-- A text in double quotes, as error messages show it. -/
def quoted (text : String) : String :=
  text.toList.foldl (fun shown c => shown ++ quotedChar c) "\"" ++ "\""

end ChatClient.Text
