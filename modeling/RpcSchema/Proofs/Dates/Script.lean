import RpcSchema.Target.TsClient

/-!
# What clients do with a response

The meaning, as JavaScript, of revivers and of the method of a client behind `JSON.parse`. A parsed
value is a tree: none of its objects stands in two places, and so what a call does to an object is
what stands in the object's place from then on.
-/

namespace RpcSchema

namespace Script

/-- The values that come up in a client. -/
inductive Value
  | null
  | bool (value : Bool)
  | number (value : Json.Number)
  | string (text : String)
  | array (items : List Value)
  | object (members : List (String × Value))
  /-- The date that is made from a value. -/
  | date (source : Value)
  /-- What an object has under a key without a member of its own. -/
  | inherited (key : String)

mutual
/-- A JSON value as `JSON.parse` gives it. -/
def ofJson : Json.Value → Value
  | .null => .null
  | .bool value => .bool value
  | .number value => .number value
  | .string text => .string text
  | .array items => .array (ofItems items)
  | .object members => .object (ofMembers members)

def ofItems : List Json.Value → List Value
  | [] => []
  | item :: rest => ofJson item :: ofItems rest

def ofMembers : List (String × Json.Value) → List (String × Value)
  | [] => []
  | (key, value) :: rest => (key, ofJson value) :: ofMembers rest
end

/-- The keys under which every object has a value that it inherits, as far as they can be names of
fields, which start with a letter. -/
def inheritedKeys : List String := [
  "constructor", "hasOwnProperty", "isPrototypeOf", "propertyIsEnumerable", "toLocaleString",
  "toString", "valueOf"]

/-- What an object with given members has under a key, if anything. -/
def read (members : List (String × Value)) (key : String) : Option Value :=
  match members.lookup key with
  | some value => some value
  | none => if inheritedKeys.contains key then some (.inherited key) else none

/-- The members of an object once a value is put under a key. -/
def assign (key : String) (value : Value) : List (String × Value) → List (String × Value)
  | [] => [(key, value)]
  | (other, old) :: rest =>
    if key = other then (key, value) :: rest else (other, old) :: assign key value rest

open TsRevivers

/-- What stands in a place after an action on its value, given what calls of revivers do. There is
none when the action throws an error. -/
def runAction (call : String → Value → Option Value) : Action → Value → Option Value
  | .date, value => some (.date value)
  | .dates, .array items => some (.array (items.map .date))
  | .dates, _ => none
  | .call type, value => call type value
  | .calls type, .array items => (items.mapM (call type)).map .array
  | .calls _, _ => none

/-- The members of an object after a statement, which passes over a key without a value or with the
value null. -/
def runStatement (call : String → Value → Option Value) (members : List (String × Value))
    (statement : Statement) : Option (List (String × Value)) :=
  match read members statement.key with
  | none => some members
  | some .null => some members
  | some value =>
    (runAction call statement.action value).map fun changed => assign statement.key changed members

/-- The reviver of a type. Of two functions with one name the later stays, where a file with both is
not refused. -/
def reviverOf? (revivers : List Reviver) (type : String) : Option Reviver :=
  revivers.reverse.find? fun reviver => reviver.typeName == type

/-- What an object is after a call of the reviver of a type, with calls nested up to a depth. Of
values other than objects, which revivers are not made for, none is told. -/
def revive (revivers : List Reviver) : Nat → String → Value → Option Value
  | 0, _, _ => none
  | depth + 1, type, value =>
    match value, reviverOf? revivers type with
    | .object members, some reviver =>
      (reviver.statements.foldlM (runStatement (revive revivers depth)) members).map .object
    | _, _ => none

/-- What a method of a client gives its caller when a response is parsed as a value. -/
def answer (revivers : List Reviver) (depth : Nat) (value : Json.Value) :
    TsClient.Response → Option Value
  | .ignored => none
  | .parsed _ => some (ofJson value)
  | .revived type => revive revivers depth type (ofJson value)

end Script

end RpcSchema
