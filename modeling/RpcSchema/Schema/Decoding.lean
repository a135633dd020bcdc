import RpcSchema.Json.Decoding
import RpcSchema.Schema.Basic

/-!
Reading schemas and their parts from JSON trees.

Each record is collected in a draft whose fields are empty until their member has been read.
-/

namespace RpcSchema

open Json

/-- A slot that keeps what a decoder reads. -/
def Slot.keeping {σ α : Type} (name : String) (presence : Presence) (decode : Decoder α)
    (get : σ → Option α) (put : σ → α → σ) : Slot σ where
  name := name
  presence := presence
  filled draft := (get draft).isSome
  read depth node draft := do return put draft (← decode depth node)

/-! ## Types of fields -/

/-- A reference is an object with the one member `$ref`. -/
def referenceRecord : Record (Option String) where
  title := "TypeRef"
  slots := [Slot.keeping "$ref" .required .string id fun _ text => some text]
  closed := true
  empty := none

/-- What a field's type has to be. -/
def FieldType.expected : String := "a kind name or an object with a \"$ref\" key"

/-- A field's type is the name of a kind or an object with a reference. -/
def FieldType.decode : Decoder FieldType := fun depth node =>
  match node with
  | .string (.ok text) stop =>
    match Kind.ofName? text with
    | some kind => .ok (.primitive kind)
    | none => .error (.stop (.unknownVariant text (Kind.all.map Kind.name)) stop)
  | .object start members => do
    let depth ← enter depth start
    let raw ← referenceRecord.takeMembers depth members none
    return .reference ⟨raw.getD ""⟩
  | .array start elements => do
    discard (enter depth start)
    .error (.stop (.wrongKind .sequence FieldType.expected) elements.leave)
  | node => .error (node.refuse FieldType.expected)

/-- The two members that items can have. -/
structure ItemsDraft where
  type : Option (Option FieldType) := none
  reference : Option (Option String) := none

def itemsRecord : Record ItemsDraft where
  title := "RawItems"
  slots := [
    Slot.keeping "type" .nullable (.optional FieldType.decode) ItemsDraft.type
      fun draft value => { draft with type := some value },
    Slot.keeping "$ref" .nullable (.optional .string) ItemsDraft.reference
      fun draft value => { draft with reference := some value }]
  closed := true
  empty := {}

/-- Items declare either a type or a reference; an absent member and null are the same. A fault of
the whole has no position of its own. -/
def ItemsDraft.finish (draft : ItemsDraft) : Except Fault FieldType :=
  match draft.type.join, draft.reference.join with
  | some type, none => .ok type
  | none, some raw => .ok (.reference ⟨raw⟩)
  | some _, some _ => .error ⟨.bothItemForms, none⟩
  | none, none => .error ⟨.missingField "type", none⟩

def decodeItems : Decoder FieldType := fun depth node => do
  (← itemsRecord.decode depth node).finish

/-! ## Fields -/

structure FieldDraft where
  name : Option String := none
  description : Option String := none
  required : Option Bool := none
  readonly : Option Bool := none
  defaultValue : Option (Option Value) := none
  type : Option FieldType := none
  items : Option (Option FieldType) := none
  enumValues : Option (List String) := none

def fieldRecord : Record FieldDraft where
  title := "Field"
  slots := [
    Slot.keeping "name" .required .string FieldDraft.name
      fun draft value => { draft with name := some value },
    Slot.keeping "description" .defaulted .string FieldDraft.description
      fun draft value => { draft with description := some value },
    Slot.keeping "required" .defaulted .bool FieldDraft.required
      fun draft value => { draft with required := some value },
    Slot.keeping "readonly" .defaulted .bool FieldDraft.readonly
      fun draft value => { draft with readonly := some value },
    Slot.keeping "default" .defaulted (.optional .value) FieldDraft.defaultValue
      fun draft value => { draft with defaultValue := some value },
    Slot.keeping "type" .required FieldType.decode FieldDraft.type
      fun draft value => { draft with type := some value },
    Slot.keeping "items" .defaulted (.optional decodeItems) FieldDraft.items
      fun draft value => { draft with items := some value },
    Slot.keeping "enum" .defaulted (.list .string) FieldDraft.enumValues
      fun draft value => { draft with enumValues := some value }]
  closed := false
  empty := {}

def FieldDraft.finish (draft : FieldDraft) : Field where
  name := draft.name.getD ""
  description := draft.description.getD ""
  required := draft.required.getD false
  readonly := draft.readonly.getD false
  defaultValue := draft.defaultValue.join
  type := draft.type.getD (.primitive .string)
  items := draft.items.join
  enumValues := draft.enumValues.getD []

def Field.decode : Decoder Field := fun depth node => do
  return (← fieldRecord.decode depth node).finish

/-! ## Methods -/

structure MethodExampleDraft where
  name : Option String := none
  description : Option String := none
  input : Option (Option Value) := none
  output : Option (Option Value) := none

def methodExampleRecord : Record MethodExampleDraft where
  title := "MethodExample"
  slots := [
    Slot.keeping "name" .defaulted .string MethodExampleDraft.name
      fun draft value => { draft with name := some value },
    Slot.keeping "description" .defaulted .string MethodExampleDraft.description
      fun draft value => { draft with description := some value },
    Slot.keeping "input" .defaulted (.optional .value) MethodExampleDraft.input
      fun draft value => { draft with input := some value },
    Slot.keeping "output" .defaulted (.optional .value) MethodExampleDraft.output
      fun draft value => { draft with output := some value }]
  closed := false
  empty := {}

def MethodExampleDraft.finish (draft : MethodExampleDraft) : MethodExample where
  name := draft.name.getD ""
  description := draft.description.getD ""
  input := draft.input.join
  output := draft.output.join

def MethodExample.decode : Decoder MethodExample := fun depth node => do
  return (← methodExampleRecord.decode depth node).finish

structure MethodDraft where
  name : Option String := none
  description : Option String := none
  isPrivate : Option Bool := none
  group : Option String := none
  inputs : Option (List Field) := none
  outputs : Option (List Field) := none
  examples : Option (List MethodExample) := none

def methodRecord : Record MethodDraft where
  title := "Method"
  slots := [
    Slot.keeping "name" .required .string MethodDraft.name
      fun draft value => { draft with name := some value },
    Slot.keeping "description" .defaulted .string MethodDraft.description
      fun draft value => { draft with description := some value },
    Slot.keeping "private" .defaulted .bool MethodDraft.isPrivate
      fun draft value => { draft with isPrivate := some value },
    Slot.keeping "group" .defaulted .string MethodDraft.group
      fun draft value => { draft with group := some value },
    Slot.keeping "inputs" .defaulted (.list Field.decode) MethodDraft.inputs
      fun draft value => { draft with inputs := some value },
    Slot.keeping "outputs" .defaulted (.list Field.decode) MethodDraft.outputs
      fun draft value => { draft with outputs := some value },
    Slot.keeping "examples" .defaulted (.list MethodExample.decode) MethodDraft.examples
      fun draft value => { draft with examples := some value }]
  closed := false
  empty := {}

def MethodDraft.finish (draft : MethodDraft) : Method where
  name := draft.name.getD ""
  description := draft.description.getD ""
  isPrivate := draft.isPrivate.getD false
  group := draft.group.getD ""
  inputs := draft.inputs.getD []
  outputs := draft.outputs.getD []
  examples := draft.examples.getD []

def Method.decode : Decoder Method := fun depth node => do
  return (← methodRecord.decode depth node).finish

/-! ## Types -/

structure TypeExampleDraft where
  description : Option String := none
  value : Option Value := none

def typeExampleRecord : Record TypeExampleDraft where
  title := "Example"
  slots := [
    Slot.keeping "description" .defaulted .string TypeExampleDraft.description
      fun draft value => { draft with description := some value },
    Slot.keeping "value" .defaulted .value TypeExampleDraft.value
      fun draft value => { draft with value := some value }]
  closed := false
  empty := {}

def TypeExampleDraft.finish (draft : TypeExampleDraft) : TypeExample where
  description := draft.description.getD ""
  value := draft.value.getD .null

def TypeExample.decode : Decoder TypeExample := fun depth node => do
  return (← typeExampleRecord.decode depth node).finish

structure TypeDraft where
  name : Option String := none
  description : Option String := none
  isPrivate : Option Bool := none
  properties : Option (List Field) := none
  examples : Option (List TypeExample) := none

def typeRecord : Record TypeDraft where
  title := "Type"
  slots := [
    Slot.keeping "name" .defaulted .string TypeDraft.name
      fun draft value => { draft with name := some value },
    Slot.keeping "description" .defaulted .string TypeDraft.description
      fun draft value => { draft with description := some value },
    Slot.keeping "private" .defaulted .bool TypeDraft.isPrivate
      fun draft value => { draft with isPrivate := some value },
    Slot.keeping "properties" .defaulted (.list Field.decode) TypeDraft.properties
      fun draft value => { draft with properties := some value },
    Slot.keeping "examples" .defaulted (.list TypeExample.decode) TypeDraft.examples
      fun draft value => { draft with examples := some value }]
  closed := false
  empty := {}

def TypeDraft.finish (draft : TypeDraft) : TypeDecl where
  name := draft.name.getD ""
  description := draft.description.getD ""
  isPrivate := draft.isPrivate.getD false
  properties := draft.properties.getD []
  examples := draft.examples.getD []

def TypeDecl.decode : Decoder TypeDecl := fun depth node => do
  return (← typeRecord.decode depth node).finish

/-! ## Schemas -/

structure GroupDraft where
  name : Option String := none
  description : Option String := none
  summary : Option String := none

def groupRecord : Record GroupDraft where
  title := "Group"
  slots := [
    Slot.keeping "name" .required .string GroupDraft.name
      fun draft value => { draft with name := some value },
    Slot.keeping "description" .defaulted .string GroupDraft.description
      fun draft value => { draft with description := some value },
    Slot.keeping "summary" .defaulted .string GroupDraft.summary
      fun draft value => { draft with summary := some value }]
  closed := false
  empty := {}

def GroupDraft.finish (draft : GroupDraft) : Group where
  name := draft.name.getD ""
  description := draft.description.getD ""
  summary := draft.summary.getD ""

def Group.decode : Decoder Group := fun depth node => do
  return (← groupRecord.decode depth node).finish

/-- The options of generated Go: the tag names, when they are given. -/
def goRecord : Record (Option (List String)) where
  title := "GoOptions"
  slots := [Slot.keeping "tags" .defaulted (.list .string) id fun _ tags => some tags]
  closed := false
  empty := none

def decodeGoTags : Decoder (List String) := fun depth node => do
  return (← goRecord.decode depth node).getD ["json"]

structure SchemaDraft where
  name : Option String := none
  version : Option String := none
  description : Option String := none
  goTags : Option (List String) := none
  groups : Option (List Group) := none
  methods : Option (List Method) := none
  types : Option (List (String × TypeDecl)) := none

def schemaRecord : Record SchemaDraft where
  title := "Schema"
  slots := [
    Slot.keeping "name" .required .string SchemaDraft.name
      fun draft value => { draft with name := some value },
    Slot.keeping "version" .required .string SchemaDraft.version
      fun draft value => { draft with version := some value },
    Slot.keeping "description" .defaulted .string SchemaDraft.description
      fun draft value => { draft with description := some value },
    Slot.keeping "go" .defaulted decodeGoTags SchemaDraft.goTags
      fun draft value => { draft with goTags := some value },
    Slot.keeping "groups" .defaulted (.list Group.decode) SchemaDraft.groups
      fun draft value => { draft with groups := some value },
    Slot.keeping "methods" .defaulted (.list Method.decode) SchemaDraft.methods
      fun draft value => { draft with methods := some value },
    Slot.keeping "types" .defaulted (.map TypeDecl.decode) SchemaDraft.types
      fun draft value => { draft with types := some value }]
  closed := false
  empty := {}

def SchemaDraft.finish (draft : SchemaDraft) : Schema where
  name := draft.name.getD ""
  version := draft.version.getD ""
  description := draft.description.getD ""
  goTags := draft.goTags.getD ["json"]
  groups := draft.groups.getD []
  methods := draft.methods.getD []
  types := draft.types.getD []

def Schema.decode : Decoder Schema := fun depth node => do
  return (← schemaRecord.decode depth node).finish

/-- The schema a text stands for, as it is declared. -/
def Schema.ofText (text : String) : Except Fault Schema :=
  (Document.ofText text).decode Schema.decode

end RpcSchema
