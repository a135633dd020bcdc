import RpcSchema.Decimal.Notation
import RpcSchema.Json.Value
import RpcSchema.Text.Quoted

/-!
JSON text of a value, on one line and over several.
-/

namespace RpcSchema.Json

open Decimal Text

/-- A character inside a JSON string; only quotes, backslashes and controls are escaped. -/
def escapedChar (c : Char) : List Char :=
  match c with
  | '"' => ['\\', '"']
  | '\\' => ['\\', '\\']
  | '\x08' => ['\\', 'b']
  | '\t' => ['\\', 't']
  | '\n' => ['\\', 'n']
  | '\x0c' => ['\\', 'f']
  | '\r' => ['\\', 'r']
  | c =>
    if c.val < 0x20 then
      ['\\', 'u', '0', '0', hexDigit (c.toNat / 16), hexDigit (c.toNat % 16)]
    else [c]

/-- A text as a JSON string. -/
def stringChars (text : String) : List Char :=
  '"' :: text.toList.flatMap escapedChar ++ ['"']

def stringText (text : String) : String := String.ofList (stringChars text)

/-- The decimal digits of an integer, after its sign. -/
def integerChars (n : Int) : List Char :=
  if n < 0 then '-' :: Nat.toDigits 10 n.natAbs else Nat.toDigits 10 n.natAbs

def Number.chars : Number → List Char
  | .integer value => integerChars value
  | .floating value => (Notation.json.text value).toList

/-- Parts with a separator between them. -/
def separated (separator : List Char) : List (List Char) → List Char
  | [] => []
  | [part] => part
  | part :: rest => part ++ separator ++ separated separator rest

mutual
/-- JSON text without spaces. -/
def Value.chars : Value → List Char
  | .null => ['n', 'u', 'l', 'l']
  | .bool true => ['t', 'r', 'u', 'e']
  | .bool false => ['f', 'a', 'l', 's', 'e']
  | .number value => value.chars
  | .string text => stringChars text
  | .array items => '[' :: separated [','] (itemChars items) ++ [']']
  | .object members => '\x7b' :: separated [','] (memberChars members) ++ ['\x7d']

def itemChars : List Value → List (List Char)
  | [] => []
  | item :: rest => item.chars :: itemChars rest

def memberChars : List (String × Value) → List (List Char)
  | [] => []
  | (key, value) :: rest => (stringChars key ++ ':' :: value.chars) :: memberChars rest
end

/-- The line break in front of a part at a nesting depth. -/
def breakAt (depth : Nat) : List Char := '\n' :: List.replicate (2 * depth) ' '

/-- Parts between brackets, each on lines of its own one level deeper. -/
def spread (opening closing : Char) (depth : Nat) (parts : List (List Char)) : List Char :=
  if parts.isEmpty then [opening, closing]
  else
    opening :: breakAt (depth + 1) ++ separated (',' :: breakAt (depth + 1)) parts ++
      breakAt depth ++ [closing]

mutual
/-- JSON text over several lines, from a nesting depth on. -/
def Value.spreadChars (depth : Nat) : Value → List Char
  | .array items => spread '[' ']' depth (spreadItems (depth + 1) items)
  | .object members => spread '\x7b' '\x7d' depth (spreadMembers (depth + 1) members)
  | .null => ['n', 'u', 'l', 'l']
  | .bool true => ['t', 'r', 'u', 'e']
  | .bool false => ['f', 'a', 'l', 's', 'e']
  | .number value => value.chars
  | .string text => stringChars text

def spreadItems (depth : Nat) : List Value → List (List Char)
  | [] => []
  | item :: rest => item.spreadChars depth :: spreadItems depth rest

def spreadMembers (depth : Nat) : List (String × Value) → List (List Char)
  | [] => []
  | (key, value) :: rest =>
    (stringChars key ++ ':' :: ' ' :: value.spreadChars depth) :: spreadMembers depth rest
end

/-- The value on one line. -/
def Value.compact (value : Value) : String := String.ofList value.chars

/-- The value over several lines, two spaces for each level. -/
def Value.pretty (value : Value) : String := String.ofList (value.spreadChars 0)

end RpcSchema.Json
