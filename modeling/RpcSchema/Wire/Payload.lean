import RpcSchema.Json.Value

/-!
Typed values in the JSON body of a request.

A body is read without coercion: every kind of value has one form, save that an integer is also a
floating-point number. A record stands for itself in two forms, an object of its fields or an array
of them in order, and in both a field that is left out keeps its blank value.
-/

namespace RpcSchema.Wire

open Decimal Json

/-- A reader of JSON values. -/
abbrev Payload (α : Type) := Value → Option α

/-- A field of a record: its key, and what its value changes in the record. -/
structure Slot (σ : Type) where
  key : String
  put : Value → σ → Option σ

namespace Slot

variable {α σ : Type}

/-- The field that a setter fills with a value of one type. -/
def of (key : String) (read : Payload α) (set : α → σ → σ) : Slot σ where
  key := key
  put value record := (read value).map fun field => set field record

end Slot

namespace Payload

variable {α σ : Type}

def string : Payload String
  | .string text => some text
  | _ => none

def bool : Payload Bool
  | .bool value => some value
  | _ => none

/-- An integer that fits a signed word. -/
def integer : Payload Int
  | .number (.integer value) => if isSignedWord value then some value else none
  | _ => none

def float : Payload Binary64
  | .number value => some value.toBinary
  | _ => none

def list (read : Payload α) : Payload (List α)
  | .array items => items.mapM read
  | _ => none

def object : Payload Value
  | .object members => some (.object members)
  | _ => none

/-- A null is the absence of a value. -/
def optional (read : Payload α) : Payload (Option α)
  | .null => some none
  | value => (read value).map some

/-- Fills the fields that an object has; members of other keys mean nothing. -/
def fillKeyed (members : List (String × Value)) : List (Slot σ) → σ → Option σ
  | [], record => some record
  | slot :: slots, record =>
    match members.lookup slot.key with
    | some value => slot.put value record >>= fillKeyed members slots
    | none => fillKeyed members slots record

/-- Fills fields in order from the items of an array; there may be too few, but not too many. -/
def fillInOrder : List Value → List (Slot σ) → σ → Option σ
  | [], _, record => some record
  | _ :: _, [], _ => none
  | item :: items, slot :: slots, record => slot.put item record >>= fillInOrder items slots

/-- Reads a record, starting from the blank one. -/
def record (slots : List (Slot σ)) (blank : σ) : Payload σ
  | .object members => fillKeyed members slots blank
  | .array items => fillInOrder items slots blank
  | _ => none

end Payload

end RpcSchema.Wire
