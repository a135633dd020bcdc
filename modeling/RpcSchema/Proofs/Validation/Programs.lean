import Mathlib.Logic.Function.Basic
import RpcSchema.Target.GoValidation
import RpcSchema.Target.RustValidation

/-!
# What generated validation does

The meaning of the statements that validate the values of a record type. A value is told by what its
fields hold, under their names in the schema. Either language has it as a struct with a place for
each field, and runs its statements on that. What counts as not set is the same in both.
-/

namespace RpcSchema

open Decimal

namespace Validating

/-! ## Values -/

/-- What a field holds. -/
inductive Content
  /-- The field was absent, or null. -/
  | missing
  | text (text : String)
  | boolean (value : Bool)
  | integer (value : Int)
  | float (value : Binary64)
  | timestamp (text : String)
  | object (members : List (String × Json.Value))
  | array (items : List Content)
  | record (fields : List (String × Content))

/-- What the fields of a record hold, by their names. -/
abbrev Record := List (String × Content)

/-- What a record holds under a name. -/
def contentOf (record : Record) (name : String) : Content := (record.lookup name).getD .missing

namespace Content

def items : Content → List Content
  | .array items => items
  | _ => []

def fields : Content → Record
  | .record fields => fields
  | _ => []

def ofDefault : DefaultValue → Content
  | .string value => .text value
  | .integer value => .integer value
  | .float value => .float value

/-- Whether this is one of some texts. -/
def isAmong (values : List String) : Content → Bool
  | .text value => values.contains value
  | _ => false

end Content

mutual
/-- How deep the arrays and records of a content nest. -/
def depth : Content → Nat
  | .array items => depthItems items + 1
  | .record fields => depthFields fields + 1
  | _ => 0

def depthItems : List Content → Nat
  | [] => 0
  | item :: rest => max (depth item) (depthItems rest)

def depthFields : List (String × Content) → Nat
  | [] => 0
  | (_, content) :: rest => max (depth content) (depthFields rest)
end

/-- A notion of what is not set. Of an array it looks at no more than the number of its elements. -/
structure Notion where
  isUnset : Zero → Content → Bool
  array_congr : ∀ (zero : Zero) (items others : List Content), items.length = others.length →
    isUnset zero (.array items) = isUnset zero (.array others)

/-- What is missing is not set, nor is an empty text or collection or a number that is zero. -/
def Notion.usual : Notion where
  isUnset zero content :=
    match content, zero with
    | .missing, _ => true
    | .text text, .emptyString => text.isEmpty
    | .integer value, .zeroInt => value == 0
    | .float value, .zeroFloat => value.isZero
    | .object members, .emptyObject => members.isEmpty
    | .array items, .emptyArray => items.length == 0
    | _, _ => false
  array_congr zero items others sameLength := by
    cases zero <;> simp [sameLength]

/-! ## Verdicts -/

/-- Why a value is refused: the indices of the elements that lead to a field, from outside in, the
name of the field, and the message. -/
structure Failure where
  indices : List Nat
  field : String
  message : String
deriving DecidableEq

/-- Why a run ends early. -/
inductive Halt
  | failed (failure : Failure)
  /-- Calls nest deeper than they may, or there is nothing to call. -/
  | stuck
deriving DecidableEq

/-- The same for the element with an index. -/
def Halt.atElement (index : Nat) : Halt → Halt
  | .failed failure => .failed { failure with indices := index :: failure.indices }
  | .stuck => .stuck

/-- A verdict as the end of a run. -/
def ends {α : Type} (verdict : Except Failure α) : Except Halt α := verdict.mapError .failed

/-! ## What single statements do -/

section Steps

variable (notion : Notion)

/-- How it shows that a default is to be put in. -/
def zeroOf : DefaultValue → Zero
  | .string _ => .emptyString
  | .integer _ => .zeroInt
  | .float _ => .zeroFloat

/-- What a field holds after a default is put in where none is set. -/
def fill (value : DefaultValue) (content : Content) : Content :=
  if notion.isUnset (zeroOf value) content then .ofDefault value else content

def requireSet (key : String) (zero : Zero) (content : Content) : Except Failure Unit :=
  if notion.isUnset zero content then .error ⟨[], key, requiredMessage⟩ else .ok ()

def requireOneOf (key : String) (values : List String) (content : Content) : Except Failure Unit :=
  if !notion.isUnset .emptyString content && !content.isAmong values then
    .error ⟨[], key, oneOfMessage values⟩
  else .ok ()

/-- Goes over elements, the first of which has the given index, and fails where one fails. -/
def goOver (visit : Content → Except Halt Unit) : Nat → List Content → Except Halt Unit
  | _, [] => .ok ()
  | index, item :: rest =>
    match visit item with
    | .ok _ => goOver visit (index + 1) rest
    | .error halt => .error (halt.atElement index)

/-- What a field holds after its elements are changed. -/
def changeItems (change : Content → Except Halt Content) : Content → Except Halt Content
  | .array items => (items.mapM change).map .array
  | content => .ok content

/-! ## Structs -/

/-- What the places of a struct hold. -/
abbrev Struct := String → Content

/-- A statement of a Go method, given what it does to validate a copy of an element of the array in
a place. -/
def goStep (visit : String → Content → Except Halt Unit) (struct : Struct) :
    GoValidation.Statement → Except Halt Struct
  | .fill place value => .ok (Function.update struct place (fill notion value (struct place)))
  | .require place key zero =>
    (ends (requireSet notion key zero (struct place))).map fun _ => struct
  | .oneOf place key values =>
    (ends (requireOneOf notion key values (struct place))).map fun _ => struct
  | .each place _ => (goOver (visit place) 0 (struct place).items).map fun _ => struct

/-- A statement of the first pass in Rust, given what it does to put the defaults of an element of
the array in a place in. -/
def defaultStep (change : String → Content → Except Halt Content) (struct : Struct) :
    RustValidation.DefaultStatement → Except Halt Struct
  | .fill place value => .ok (Function.update struct place (fill notion value (struct place)))
  | .each place _ =>
    (changeItems (change place) (struct place)).map fun changed =>
      Function.update struct place changed

/-- A statement of the second pass in Rust, given what it does to validate an element of the array
in a place. -/
def checkStep (visit : String → Content → Except Halt Unit) (struct : Struct) :
    RustValidation.CheckStatement → Except Halt Unit
  | .require place key zero => ends (requireSet notion key zero (struct place))
  | .oneOf place key values => ends (requireOneOf notion key values (struct place))
  | .each place _ => goOver (visit place) 0 (struct place).items

end Steps

section Structs

variable (placeOf : Field → String) (fields : List Field)

def fieldAt? (place : String) : Option Field := fields.find? fun field => placeOf field == place

/-- A record as a struct with given fields. -/
def toStruct (record : Record) : Struct := fun place =>
  match fieldAt? placeOf fields place with
  | some field => contentOf record field.name
  | none => .missing

/-- A struct with given fields as a record. -/
def ofStruct (struct : Struct) : Record :=
  fields.map fun field => (field.name, struct (placeOf field))

/-- The call for an element of the array in a place. The element is of the type that the field of
the place declares. -/
def callAt {α : Type} (schema : Schema) (call : List Field → Record → Except Halt α)
    (place : String) (item : Content) : Except Halt α :=
  match (fieldAt? placeOf fields place).map schema.element with
  | some (.ok (some type)) => call type.properties item.fields
  | _ => .error .stuck

end Structs

/-! ## Whole records -/

section Runs

variable (notion : Notion) (schema : Schema)

/-- The `Validate` method of a Go type, with calls nested up to a depth. -/
def goValidate : Nat → List Field → Record → Except Halt Unit
  | 0, _, _ => .error .stuck
  | depth + 1, fields, record =>
    match schema.checks fields with
    | .error _ => .error .stuck
    | .ok checks =>
      ((checks.map GoValidation.Statement.ofCheck).foldlM
        (goStep notion (callAt GoValidation.placeOf fields schema (goValidate depth)))
        (toStruct GoValidation.placeOf fields record)).map fun _ => ()

/-- The `apply_defaults` method of a Rust type, with calls nested up to a depth. -/
def applyDefaults : Nat → List Field → Record → Except Halt Record
  | 0, _, _ => .error .stuck
  | depth + 1, fields, record =>
    match schema.checks fields with
    | .error _ => .error .stuck
    | .ok checks =>
      ((RustValidation.Validation.ofChecks checks).defaults.foldlM
        (defaultStep notion (callAt RustValidation.placeOf fields schema fun fields record =>
          (applyDefaults depth fields record).map .record))
        (toStruct RustValidation.placeOf fields record)).map
          (ofStruct RustValidation.placeOf fields)

/-- The `validate` method of a Rust type, with calls nested up to a depth. -/
def rustValidate : Nat → List Field → Record → Except Halt Unit
  | 0, _, _ => .error .stuck
  | depth + 1, fields, record =>
    match schema.checks fields with
    | .error _ => .error .stuck
    | .ok checks =>
      forM (RustValidation.Validation.ofChecks checks).checks
        (checkStep notion (callAt RustValidation.placeOf fields schema (rustValidate depth))
          (toStruct RustValidation.placeOf fields record))

/-- What is done with a record that is read: its defaults are put in, then it is validated. -/
def rustRead (depth : Nat) (fields : List Field) (record : Record) : Except Halt Unit := do
  rustValidate notion schema depth fields (← applyDefaults notion schema depth fields record)

end Runs

/-- The fields of a record have places of their own in either language, and so have those of the
records among its elements. -/
inductive HasDistinctPlaces (schema : Schema) : List Field → Record → Prop
  | intro {fields : List Field} {record : Record} :
      (fields.map GoValidation.placeOf).Nodup → (fields.map RustValidation.placeOf).Nodup →
      (∀ field ∈ fields, ∀ type, schema.element field = .ok (some type) →
        ∀ item ∈ (contentOf record field.name).items,
          HasDistinctPlaces schema type.properties item.fields) →
      HasDistinctPlaces schema fields record

end Validating

end RpcSchema
