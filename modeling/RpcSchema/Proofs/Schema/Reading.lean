import RpcSchema.Proofs.Json.RecordAgreement
import RpcSchema.Schema.Decoding

/-!
# Schemas as read off values

The schema a value stands for, told from the value alone: what a member is called decides where it
goes, and a member that is not there leaves the default. Decoding a text agrees with this reading
part by part, so a schema that was decoded depends on the value of its text only.
-/

namespace RpcSchema

open Json

/-- A slot follows the drafts that have, where it keeps, what the reading makes of its member. -/
theorem Slot.keeping_follows {σ α : Type} {name : String} {presence : Presence}
    {decode : Decoder α} {get : σ → Option α} {put : σ → α → σ}
    {draft : List (String × Value) → σ} {reading : Value → α} (agrees : decode.Agrees reading)
    (kept : ∀ read, get (draft read) = (read.lookup name).map reading)
    (renewed : ∀ read value, put (draft read) (reading value) = draft ((name, value) :: read)) :
    (Slot.keeping name presence decode get put).Follows draft where
  filled read := by
    change (get (draft read)).isSome = _
    rw [kept, Option.isSome_map]
    rfl
  read := by
    intro depth node value read result valued slotRead
    obtain ⟨item, decoded, done⟩ := exists_of_bind_eq_ok slotRead
    rw [agrees valued decoded, renewed] at done
    exact (Except.ok.inj done).symm

/-! ## Types of fields -/

def referenceOfMembers (members : List (String × Value)) : Option String :=
  (members.lookup "$ref").map Value.asString

theorem referenceRecord_follows : referenceRecord.Follows referenceOfMembers where
  empty := rfl
  slots := by
    simp only [referenceRecord, List.forall_mem_cons]
    refine ⟨Slot.keeping_follows Decoder.string_agrees (fun _ => rfl) ?_,
      List.forall_mem_nil _⟩
    simp [referenceOfMembers]
  congr same := by
    simp only [referenceRecord, List.forall_mem_cons, Slot.keeping] at same
    simp only [referenceOfMembers, same]

def FieldType.ofValue : Value → FieldType
  | .string text => .primitive ((Kind.ofName? text).getD .string)
  | .object members => .reference ⟨(referenceOfMembers members).getD ""⟩
  | _ => .primitive .string

theorem FieldType.decode_agrees : Decoder.Agrees FieldType.decode FieldType.ofValue := by
  intro depth node value result valued decoded
  cases Node.reads valued with
  | string text stop =>
      rw [FieldType.decode] at decoded
      cases named : Kind.ofName? text with
      | none =>
          rw [named] at decoded
          cases decoded
      | some kind =>
          rw [named] at decoded
          rw [FieldType.ofValue, named]
          exact (Except.ok.inj decoded).symm
  | @object start members inner pairs entered read =>
      rw [FieldType.decode, bind_of_eq_ok entered] at decoded
      obtain ⟨raw, taken, decoded⟩ := exists_of_bind_eq_ok decoded
      -- The record of references starts out empty, as the draft of no members.
      change referenceRecord.takeMembers inner members (referenceOfMembers []) = _ at taken
      have drafted := Record.Follows.takeMembers referenceRecord_follows members read taken
      cases decoded
      rw [drafted, FieldType.ofValue, List.append_nil, referenceOfMembers, referenceOfMembers,
        lookup_orderMembers]
  -- An array is never the type of a field, whatever it holds.
  | @array start elements inner items entered read =>
      rw [FieldType.decode] at decoded
      obtain ⟨_, _, refused⟩ := exists_of_bind_eq_ok decoded
      cases refused
  | _ => cases decoded

def ItemsDraft.ofMembers (members : List (String × Value)) : ItemsDraft where
  type := (members.lookup "type").map (Value.asOptional FieldType.ofValue)
  reference := (members.lookup "$ref").map (Value.asOptional Value.asString)

theorem itemsRecord_follows : itemsRecord.Follows ItemsDraft.ofMembers where
  empty := rfl
  slots := by
    simp only [itemsRecord, List.forall_mem_cons]
    refine ⟨Slot.keeping_follows (Decoder.Agrees.optional FieldType.decode_agrees)
        (fun _ => rfl) ?_,
      Slot.keeping_follows (Decoder.Agrees.optional Decoder.string_agrees) (fun _ => rfl) ?_,
      List.forall_mem_nil _⟩ <;>
      simp [ItemsDraft.ofMembers]
  congr same := by
    simp only [itemsRecord, List.forall_mem_cons, Slot.keeping] at same
    simp only [ItemsDraft.ofMembers, same]

/-- The items of an array; what declares them in no way is taken for texts. -/
def itemsOfValue (value : Value) : FieldType :=
  (ItemsDraft.ofMembers (itemsRecord.members value)).finish.toOption.getD (.primitive .string)

theorem decodeItems_agrees : Decoder.Agrees decodeItems itemsOfValue := by
  intro depth node value result valued decoded
  obtain ⟨draft, isDraft, finished⟩ := exists_of_bind_eq_ok decoded
  rw [Record.Follows.agrees itemsRecord_follows valued isDraft] at finished
  rw [itemsOfValue, finished]
  rfl

/-! ## Fields -/

def FieldDraft.ofMembers (members : List (String × Value)) : FieldDraft where
  name := (members.lookup "name").map Value.asString
  description := (members.lookup "description").map Value.asString
  required := (members.lookup "required").map Value.asBool
  readonly := (members.lookup "readonly").map Value.asBool
  defaultValue := (members.lookup "default").map (Value.asOptional id)
  type := (members.lookup "type").map FieldType.ofValue
  items := (members.lookup "items").map (Value.asOptional itemsOfValue)
  enumValues := (members.lookup "enum").map (Value.asList Value.asString)

theorem fieldRecord_follows : fieldRecord.Follows FieldDraft.ofMembers where
  empty := rfl
  slots := by
    simp only [fieldRecord, List.forall_mem_cons]
    refine ⟨Slot.keeping_follows Decoder.string_agrees (fun _ => rfl) ?_,
      Slot.keeping_follows Decoder.string_agrees (fun _ => rfl) ?_,
      Slot.keeping_follows Decoder.bool_agrees (fun _ => rfl) ?_,
      Slot.keeping_follows Decoder.bool_agrees (fun _ => rfl) ?_,
      Slot.keeping_follows (Decoder.Agrees.optional Decoder.value_agrees) (fun _ => rfl) ?_,
      Slot.keeping_follows FieldType.decode_agrees (fun _ => rfl) ?_,
      Slot.keeping_follows (Decoder.Agrees.optional decodeItems_agrees) (fun _ => rfl) ?_,
      Slot.keeping_follows (Decoder.Agrees.list Decoder.string_agrees) (fun _ => rfl) ?_,
      List.forall_mem_nil _⟩ <;>
      simp [FieldDraft.ofMembers]
  congr same := by
    simp only [fieldRecord, List.forall_mem_cons, Slot.keeping] at same
    simp only [FieldDraft.ofMembers, same]

def Field.ofValue (value : Value) : Field :=
  (FieldDraft.ofMembers (fieldRecord.members value)).finish

theorem Field.decode_agrees : Decoder.Agrees Field.decode Field.ofValue :=
  Decoder.Agrees.finish (Record.Follows.agrees fieldRecord_follows) FieldDraft.finish

/-! ## Methods -/

def MethodExampleDraft.ofMembers (members : List (String × Value)) : MethodExampleDraft where
  name := (members.lookup "name").map Value.asString
  description := (members.lookup "description").map Value.asString
  input := (members.lookup "input").map (Value.asOptional id)
  output := (members.lookup "output").map (Value.asOptional id)

theorem methodExampleRecord_follows :
    methodExampleRecord.Follows MethodExampleDraft.ofMembers where
  empty := rfl
  slots := by
    simp only [methodExampleRecord, List.forall_mem_cons]
    refine ⟨Slot.keeping_follows Decoder.string_agrees (fun _ => rfl) ?_,
      Slot.keeping_follows Decoder.string_agrees (fun _ => rfl) ?_,
      Slot.keeping_follows (Decoder.Agrees.optional Decoder.value_agrees) (fun _ => rfl) ?_,
      Slot.keeping_follows (Decoder.Agrees.optional Decoder.value_agrees) (fun _ => rfl) ?_,
      List.forall_mem_nil _⟩ <;>
      simp [MethodExampleDraft.ofMembers]
  congr same := by
    simp only [methodExampleRecord, List.forall_mem_cons, Slot.keeping] at same
    simp only [MethodExampleDraft.ofMembers, same]

def MethodExample.ofValue (value : Value) : MethodExample :=
  (MethodExampleDraft.ofMembers (methodExampleRecord.members value)).finish

theorem MethodExample.decode_agrees :
    Decoder.Agrees MethodExample.decode MethodExample.ofValue :=
  Decoder.Agrees.finish (Record.Follows.agrees methodExampleRecord_follows)
    MethodExampleDraft.finish

def MethodDraft.ofMembers (members : List (String × Value)) : MethodDraft where
  name := (members.lookup "name").map Value.asString
  description := (members.lookup "description").map Value.asString
  isPrivate := (members.lookup "private").map Value.asBool
  group := (members.lookup "group").map Value.asString
  inputs := (members.lookup "inputs").map (Value.asList Field.ofValue)
  outputs := (members.lookup "outputs").map (Value.asList Field.ofValue)
  examples := (members.lookup "examples").map (Value.asList MethodExample.ofValue)

theorem methodRecord_follows : methodRecord.Follows MethodDraft.ofMembers where
  empty := rfl
  slots := by
    simp only [methodRecord, List.forall_mem_cons]
    refine ⟨Slot.keeping_follows Decoder.string_agrees (fun _ => rfl) ?_,
      Slot.keeping_follows Decoder.string_agrees (fun _ => rfl) ?_,
      Slot.keeping_follows Decoder.bool_agrees (fun _ => rfl) ?_,
      Slot.keeping_follows Decoder.string_agrees (fun _ => rfl) ?_,
      Slot.keeping_follows (Decoder.Agrees.list Field.decode_agrees) (fun _ => rfl) ?_,
      Slot.keeping_follows (Decoder.Agrees.list Field.decode_agrees) (fun _ => rfl) ?_,
      Slot.keeping_follows (Decoder.Agrees.list MethodExample.decode_agrees) (fun _ => rfl) ?_,
      List.forall_mem_nil _⟩ <;>
      simp [MethodDraft.ofMembers]
  congr same := by
    simp only [methodRecord, List.forall_mem_cons, Slot.keeping] at same
    simp only [MethodDraft.ofMembers, same]

def Method.ofValue (value : Value) : Method :=
  (MethodDraft.ofMembers (methodRecord.members value)).finish

theorem Method.decode_agrees : Decoder.Agrees Method.decode Method.ofValue :=
  Decoder.Agrees.finish (Record.Follows.agrees methodRecord_follows) MethodDraft.finish

/-! ## Types -/

def TypeExampleDraft.ofMembers (members : List (String × Value)) : TypeExampleDraft where
  description := (members.lookup "description").map Value.asString
  value := (members.lookup "value").map id

theorem typeExampleRecord_follows : typeExampleRecord.Follows TypeExampleDraft.ofMembers where
  empty := rfl
  slots := by
    simp only [typeExampleRecord, List.forall_mem_cons]
    refine ⟨Slot.keeping_follows Decoder.string_agrees (fun _ => rfl) ?_,
      Slot.keeping_follows Decoder.value_agrees (fun _ => rfl) ?_,
      List.forall_mem_nil _⟩ <;>
      simp [TypeExampleDraft.ofMembers]
  congr same := by
    simp only [typeExampleRecord, List.forall_mem_cons, Slot.keeping] at same
    simp only [TypeExampleDraft.ofMembers, same]

def TypeExample.ofValue (value : Value) : TypeExample :=
  (TypeExampleDraft.ofMembers (typeExampleRecord.members value)).finish

theorem TypeExample.decode_agrees : Decoder.Agrees TypeExample.decode TypeExample.ofValue :=
  Decoder.Agrees.finish (Record.Follows.agrees typeExampleRecord_follows) TypeExampleDraft.finish

def TypeDraft.ofMembers (members : List (String × Value)) : TypeDraft where
  name := (members.lookup "name").map Value.asString
  description := (members.lookup "description").map Value.asString
  isPrivate := (members.lookup "private").map Value.asBool
  properties := (members.lookup "properties").map (Value.asList Field.ofValue)
  examples := (members.lookup "examples").map (Value.asList TypeExample.ofValue)

theorem typeRecord_follows : typeRecord.Follows TypeDraft.ofMembers where
  empty := rfl
  slots := by
    simp only [typeRecord, List.forall_mem_cons]
    refine ⟨Slot.keeping_follows Decoder.string_agrees (fun _ => rfl) ?_,
      Slot.keeping_follows Decoder.string_agrees (fun _ => rfl) ?_,
      Slot.keeping_follows Decoder.bool_agrees (fun _ => rfl) ?_,
      Slot.keeping_follows (Decoder.Agrees.list Field.decode_agrees) (fun _ => rfl) ?_,
      Slot.keeping_follows (Decoder.Agrees.list TypeExample.decode_agrees) (fun _ => rfl) ?_,
      List.forall_mem_nil _⟩ <;>
      simp [TypeDraft.ofMembers]
  congr same := by
    simp only [typeRecord, List.forall_mem_cons, Slot.keeping] at same
    simp only [TypeDraft.ofMembers, same]

def TypeDecl.ofValue (value : Value) : TypeDecl :=
  (TypeDraft.ofMembers (typeRecord.members value)).finish

theorem TypeDecl.decode_agrees : Decoder.Agrees TypeDecl.decode TypeDecl.ofValue :=
  Decoder.Agrees.finish (Record.Follows.agrees typeRecord_follows) TypeDraft.finish

/-! ## Schemas -/

def GroupDraft.ofMembers (members : List (String × Value)) : GroupDraft where
  name := (members.lookup "name").map Value.asString
  description := (members.lookup "description").map Value.asString
  summary := (members.lookup "summary").map Value.asString

theorem groupRecord_follows : groupRecord.Follows GroupDraft.ofMembers where
  empty := rfl
  slots := by
    simp only [groupRecord, List.forall_mem_cons]
    refine ⟨Slot.keeping_follows Decoder.string_agrees (fun _ => rfl) ?_,
      Slot.keeping_follows Decoder.string_agrees (fun _ => rfl) ?_,
      Slot.keeping_follows Decoder.string_agrees (fun _ => rfl) ?_,
      List.forall_mem_nil _⟩ <;>
      simp [GroupDraft.ofMembers]
  congr same := by
    simp only [groupRecord, List.forall_mem_cons, Slot.keeping] at same
    simp only [GroupDraft.ofMembers, same]

def Group.ofValue (value : Value) : Group :=
  (GroupDraft.ofMembers (groupRecord.members value)).finish

theorem Group.decode_agrees : Decoder.Agrees Group.decode Group.ofValue :=
  Decoder.Agrees.finish (Record.Follows.agrees groupRecord_follows) GroupDraft.finish

def goTagsOfMembers (members : List (String × Value)) : Option (List String) :=
  (members.lookup "tags").map (Value.asList Value.asString)

theorem goRecord_follows : goRecord.Follows goTagsOfMembers where
  empty := rfl
  slots := by
    simp only [goRecord, List.forall_mem_cons]
    refine ⟨Slot.keeping_follows (Decoder.Agrees.list Decoder.string_agrees) (fun _ => rfl) ?_,
      List.forall_mem_nil _⟩
    simp [goTagsOfMembers]
  congr same := by
    simp only [goRecord, List.forall_mem_cons, Slot.keeping] at same
    simp only [goTagsOfMembers, same]

def goTagsOfValue (value : Value) : List String :=
  (goTagsOfMembers (goRecord.members value)).getD ["json"]

theorem decodeGoTags_agrees : Decoder.Agrees decodeGoTags goTagsOfValue :=
  Decoder.Agrees.finish (Record.Follows.agrees goRecord_follows) fun tags => tags.getD ["json"]

def SchemaDraft.ofMembers (members : List (String × Value)) : SchemaDraft where
  name := (members.lookup "name").map Value.asString
  version := (members.lookup "version").map Value.asString
  description := (members.lookup "description").map Value.asString
  goTags := (members.lookup "go").map goTagsOfValue
  groups := (members.lookup "groups").map (Value.asList Group.ofValue)
  methods := (members.lookup "methods").map (Value.asList Method.ofValue)
  types := (members.lookup "types").map (Value.asMap TypeDecl.ofValue)

theorem schemaRecord_follows : schemaRecord.Follows SchemaDraft.ofMembers where
  empty := rfl
  slots := by
    simp only [schemaRecord, List.forall_mem_cons]
    refine ⟨Slot.keeping_follows Decoder.string_agrees (fun _ => rfl) ?_,
      Slot.keeping_follows Decoder.string_agrees (fun _ => rfl) ?_,
      Slot.keeping_follows Decoder.string_agrees (fun _ => rfl) ?_,
      Slot.keeping_follows decodeGoTags_agrees (fun _ => rfl) ?_,
      Slot.keeping_follows (Decoder.Agrees.list Group.decode_agrees) (fun _ => rfl) ?_,
      Slot.keeping_follows (Decoder.Agrees.list Method.decode_agrees) (fun _ => rfl) ?_,
      Slot.keeping_follows (Decoder.Agrees.map TypeDecl.decode_agrees) (fun _ => rfl) ?_,
      List.forall_mem_nil _⟩ <;>
      simp [SchemaDraft.ofMembers]
  congr same := by
    simp only [schemaRecord, List.forall_mem_cons, Slot.keeping] at same
    simp only [SchemaDraft.ofMembers, same]

/-- The schema a value stands for. -/
def Schema.ofValue (value : Value) : Schema :=
  (SchemaDraft.ofMembers (schemaRecord.members value)).finish

theorem Schema.decode_agrees : Decoder.Agrees Schema.decode Schema.ofValue :=
  Decoder.Agrees.finish (Record.Follows.agrees schemaRecord_follows) SchemaDraft.finish

end RpcSchema
