import RpcSchema.Decimal.Binary

/-!
JSON values.
-/

namespace RpcSchema.Json

open Decimal

/-- A number is an integer while it fits a 64-bit word, signed or not, and floating otherwise. -/
inductive Number
  | integer (value : Int)
  | floating (value : Binary64)
deriving DecidableEq

/-- The integers a signed word of 64 bits holds. -/
def isSignedWord (value : Int) : Bool := -0x8000000000000000 ≤ value && value < 0x8000000000000000

/-- The floating number nearest to a number. -/
def Number.toBinary : Number → Binary64
  | .integer value =>
    .ofFloat (if value < 0 then -(UInt64.ofNat value.natAbs).toFloat
      else (UInt64.ofNat value.natAbs).toFloat)
  | .floating value => value

/-- A JSON value. An object that is read has its members in the order of their keys, each key
once; an object that is written keeps the order it was given. -/
inductive Value
  | null
  | bool (value : Bool)
  | number (value : Number)
  | string (text : String)
  | array (items : List Value)
  | object (members : List (String × Value))

/-- Puts a member into a list ordered by key; a member of the same key is replaced. -/
def putMember {α : Type} (key : String) (value : α) : List (String × α) → List (String × α)
  | [] => [(key, value)]
  | (other, old) :: rest =>
    if key < other then (key, value) :: (other, old) :: rest
    else if key = other then (key, value) :: rest
    else (other, old) :: putMember key value rest

/-- Members in the order of their keys; of several with one key the last stays. -/
def orderMembers {α : Type} (members : List (String × α)) : List (String × α) :=
  members.foldl (fun ordered member => putMember member.1 member.2 ordered) []

/-- The object with the given members. -/
def Value.ofMembers (members : List (String × Value)) : Value := .object (orderMembers members)

/-- The member of an object under a key. -/
def Value.member? (value : Value) (key : String) : Option Value :=
  match value with
  | .object members => members.lookup key
  | _ => none

def Value.integer (value : Int) : Value := .number (.integer value)

example : orderMembers [("b", 1), ("a", 2), ("b", 3)] = [("a", 2), ("b", 3)] := by decide

end RpcSchema.Json
