/-!
Places in a text.
-/

namespace RpcSchema.Json

/-- Lines count from one; the column is the number of bytes since the last line feed. -/
structure Position where
  line : Nat
  column : Nat
deriving DecidableEq

namespace Position

def start : Position := ⟨1, 0⟩

/-- The position behind a character. -/
def next (position : Position) (c : Char) : Position :=
  if c = '\n' then ⟨position.line + 1, 0⟩ else ⟨position.line, position.column + c.utf8Size⟩

/-- The position behind the first byte of a character. -/
def nextByte (position : Position) (c : Char) : Position :=
  if c = '\n' then ⟨position.line + 1, 0⟩ else ⟨position.line, position.column + 1⟩

/-- The position behind a text. -/
def after (position : Position) (chars : List Char) : Position := chars.foldl next position

/-- The position some columns further on the same line. -/
def right (position : Position) (columns : Nat) : Position :=
  ⟨position.line, position.column + columns⟩

end Position

/-- A position and the character that stands there, none at the end of the text. -/
structure Place where
  position : Position
  next : Option Char
deriving DecidableEq

namespace Place

/-- The position behind the byte that stands here. -/
def beyond (place : Place) : Position :=
  match place.next with
  | some c => place.position.nextByte c
  | none => place.position

/-- The position behind a given character, when it stands here. -/
def past (place : Place) (c : Char) : Position :=
  if place.next = some c then place.beyond else place.position

end Place

/-- What is left of a text, and where that starts. -/
structure Cursor where
  rest : List Char
  position : Position

namespace Cursor

def ofText (text : String) : Cursor := ⟨text.toList, .start⟩

def place (cursor : Cursor) : Place := ⟨cursor.position, cursor.rest.head?⟩

end Cursor

/-- White space between the tokens of JSON. -/
def isGap (c : Char) : Bool := c == ' ' || c == '\n' || c == '\t' || c == '\r'

def skipGapFrom : List Char → Position → Cursor
  | [], position => ⟨[], position⟩
  | c :: rest, position =>
    if isGap c then skipGapFrom rest (position.next c) else ⟨c :: rest, position⟩

/-- The cursor behind the white space it stands before. -/
def Cursor.skipGap (cursor : Cursor) : Cursor := skipGapFrom cursor.rest cursor.position

/-- The cursor behind a comma and the white space that follows it, if it stands before a comma. -/
def Cursor.skipComma (cursor : Cursor) : Cursor :=
  match cursor.rest with
  | ',' :: rest => skipGapFrom rest (cursor.position.right 1)
  | _ => cursor

end RpcSchema.Json
