import RpcSchema.Json.Fault

/-!
The tree of a JSON text as far as the text can be read.

A tree keeps what a value forgets: places, repeated keys, and faults that matter only when the part
that holds them is taken as a value. Where the text stops being JSON the tree has a last leaf that
says what stands there.
-/

namespace RpcSchema.Json

mutual
/-- The text of one value. -/
inductive Node
  /-- One of the three words, with the position behind it. -/
  | word (value : Option Bool) (stop : Position)
  /-- A number; its value may be out of range. -/
  | number (value : Except Fault Number) (stop : Position)
  /-- A string; its escapes may not make up characters. -/
  | string (text : Except Fault String) (stop : Position)
  /-- An array, with the place of its bracket. -/
  | array (start : Place) (elements : Elements)
  /-- An object, with the place of its brace. -/
  | object (start : Place) (members : Members)
  /-- No value starts here. -/
  | absent (place : Place)
  /-- A word, number or string that breaks off: the fault when it is taken as a value, and the
  fault when it is passed over. -/
  | broken (taken passed : Fault)

/-- What follows the bracket of an array, or an element of it. -/
inductive Elements
  /-- The closing bracket. -/
  | close (place : Place)
  /-- Neither a comma nor the closing bracket. -/
  | cut (place : Place)
  /-- One more element, with the place where it has to start. -/
  | next (start : Place) (head : Node) (tail : Elements)

/-- What follows the brace of an object, or a member of it. -/
inductive Members
  /-- The closing brace. -/
  | close (place : Place)
  /-- Neither a comma nor the closing brace. -/
  | cut (place : Place)
  /-- No string stands where a key must; whether it is the first key. -/
  | keyless (first : Bool) (place : Place)
  /-- A key that breaks off. -/
  | broken (taken passed : Fault)
  /-- A key without a colon behind it. -/
  | bare (key : Except Fault String) (place : Place)
  /-- One more member, with the places of its colon and of what follows its value. -/
  | next (key : Except Fault String) (colon : Place) (value : Node) (follow : Place)
      (tail : Members)
end

/-- The tree of a whole text, with the place behind its value. -/
structure Document where
  root : Node
  follow : Option Place

namespace Elements

/-- Where reading comes to rest when it leaves an array here: behind a closing bracket, or where the
next element has to start, even when the bracket stands there. -/
def rest : Elements → Position
  | .close place => place.beyond
  | .cut place => place.position
  | .next start _ _ => start.position

/-- Where reading comes to rest when it leaves an array here and no element was looked at: a comma is
passed too. -/
def leave : Elements → Position
  | .next start _ (.cut place) =>
    if start.next = some ',' then place.position else start.position
  | elements => elements.rest

/-- The fault of an array that has neither a comma nor its bracket at a place. -/
def cutFault (place : Place) : Fault :=
  .stop (if place.next.isNone then .endInArray else .expectedCommaOrBracket) place.beyond

end Elements

namespace Members

def cutFault (place : Place) : Fault :=
  .stop (if place.next.isNone then .endInObject else .expectedCommaOrBrace) place.beyond

/-- The fault of a missing key in an object that is taken as a value. -/
def keylessFault (first : Bool) (place : Place) : Fault :=
  let cause := match place.next with
    | none => if first then .endInObject else .endInValue
    | some '\x7d' => .trailingComma
    | some _ => .keyNotString
  .stop cause place.beyond

/-- The fault of a missing key in an object that is passed over. -/
def keylessFaultPassed (place : Place) : Fault :=
  .stop (if place.next.isNone then .endInObject else .keyNotString) place.beyond

def bareFault (place : Place) : Fault :=
  .stop (if place.next.isNone then .endInObject else .expectedColon) place.beyond

end Members

/-- The fault of a place where a value must start and none does. -/
def absentFault (place : Place) : Fault :=
  .stop (if place.next.isNone then .endInValue else .expectedValue) place.beyond

end RpcSchema.Json
