/-!
The lines of a text.
-/

namespace RpcSchema.Text

/-- A finished line, read backwards: one carriage return before the line feed belongs to it. -/
def closeLine : List Char → List Char
  | '\r' :: line => line.reverse
  | line => line.reverse

/-- The lines that follow a line already begun, which is kept backwards. -/
def splitLines : List Char → List Char → List (List Char)
  | [], [] => []
  | [], line => [line.reverse]
  | c :: rest, line =>
    if c = '\n' then closeLine line :: splitLines rest [] else splitLines rest (c :: line)

/-- The lines of a text; a line feed at the very end opens no further line. -/
def lines (text : String) : List String :=
  (splitLines text.toList []).map String.ofList

example : lines "a\r\nb\rc\n\nd\r" = ["a", "b\rc", "", "d\r"] := by decide

end RpcSchema.Text
