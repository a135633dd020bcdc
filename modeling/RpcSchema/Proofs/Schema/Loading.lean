import Mathlib
import RpcSchema.Proofs.Schema.Coverage
import RpcSchema.Schema.Load

/-!
# Loading and the value of a document

A text is read twice when it is loaded: once for the value whose form is checked, and once for the
schema. Both readings agree. A schema that was loaded is the one its value stands for, and a value
of the right form is always decoded when no object outside the parts of any form repeats a key.
-/

namespace RpcSchema

open Json

theorem Slot.keeping_covers {σ α : Type} {name : String} {presence : Presence}
    {decode : Decoder α} {get : σ → Option α} {put : σ → α → σ} {shape : Shape}
    (covers : decode.Covers shape) :
    (Slot.keeping name presence decode get put).Covers shape := by
  intro depth node value current valued accepted distinct
  obtain ⟨item, decoded⟩ := covers valued accepted distinct
  exact ⟨put current item, bind_of_eq_ok decoded⟩

/-! ## Types of fields -/

theorem TextRule.holds_of_issues {rule : TextRule} {text : String}
    (clean : rule.issues text = []) : rule.holds text = true := by
  unfold TextRule.issues at clean
  split at clean
  · assumption
  · cases rule with
    | any => rfl
    | _ => cases clean

theorem referenceRecord_covers :
    referenceRecord.Covers ["$ref"] [("$ref", .text .reference)] where
  slots := by
    simp only [List.forall_mem_cons]
    exact ⟨⟨_, rfl, Slot.keeping_covers (Decoder.string_covers _)⟩, List.forall_mem_nil _⟩
  needs := by simp [referenceRecord, Slot.keeping]

theorem FieldType.decode_covers : Decoder.Covers FieldType.decode Shape.fieldType := by
  intro depth node value valued accepted distinct
  obtain ⟨form, isForm, fits⟩ := Shape.exists_form accepted
  rcases List.mem_cons.mp isForm with rfl | isForm
  · obtain ⟨content, rfl, clean⟩ := Shape.exists_text fits
    cases Node.reads valued with
    | string _ stop =>
        obtain ⟨kind, named⟩ := Option.isSome_iff_exists.mp (TextRule.holds_of_issues clean)
        rw [FieldType.decode, named]
        exact ⟨.primitive kind, rfl⟩
  · obtain rfl := List.mem_singleton.mp isForm
    obtain ⟨start, members, inner, entries, rfl, entered, _, taken⟩ :=
      Record.Covers.exists_members referenceRecord_covers referenceRecord_follows valued fits
        (Node.keysDistinct_of_choice node _ distinct)
    rw [FieldType.decode, bind_of_eq_ok entered]
    exact ⟨_, bind_of_eq_ok taken⟩

/-! ## Items -/

namespace Shape

theorem Conforms.lookup_eq_none {required : List String} {known : List (String × Shape)}
    {members : List (String × Value)} (conforms : Conforms required known members) {key : String}
    (unknown : key ∉ known.map (·.1)) : members.lookup key = none := by
  cases found : members.lookup key with
  | none => rfl
  | some value =>
      have present : key ∈ members.map (·.1) :=
        List.mem_map_of_mem (mem_of_lookup_eq_some found)
      exact absurd (conforms.closed key present) unknown

theorem Conforms.exists_value {required : List String} {known : List (String × Shape)}
    {members : List (String × Value)} (conforms : Conforms required known members) {key : String}
    {shape : Shape} (needed : key ∈ required) (declared : (key, shape) ∈ known) :
    ∃ value, members.lookup key = some value ∧ shape.Accepts value := by
  obtain ⟨value, found⟩ := Option.isSome_iff_exists.mp (conforms.complete key needed)
  exact ⟨value, found, conforms.accepted (key, shape) declared value found⟩

theorem ne_null_of_fieldType {value : Value} (accepted : fieldType.Accepts value) :
    value ≠ .null := by
  rintro rfl
  obtain ⟨form, isForm, fits⟩ := exists_form accepted
  rcases List.mem_cons.mp isForm with rfl | isForm
  · obtain ⟨content, isText, _⟩ := exists_text fits
    cases isText
  · obtain rfl := List.mem_singleton.mp isForm
    obtain ⟨members, isObject, _⟩ := exists_members fits
    cases isObject

end Shape

theorem Json.Value.asOptional_of_ne_null {α : Type} (reading : Value → α) {value : Value}
    (notNull : value ≠ .null) : value.asOptional reading = some (reading value) := by
  cases value with
  | null => exact absurd rfl notNull
  | _ => rfl

theorem itemsRecord_covers_type : itemsRecord.Covers ["type"] [("type", Shape.fieldType)] where
  slots := by
    simp only [List.forall_mem_cons]
    exact ⟨⟨_, rfl, Slot.keeping_covers (Decoder.Covers.optional FieldType.decode_covers)⟩,
      List.forall_mem_nil _⟩
  needs := by simp [itemsRecord, Slot.keeping]

theorem itemsRecord_covers_reference :
    itemsRecord.Covers ["$ref"] [("$ref", .text .reference)] where
  slots := by
    simp only [List.forall_mem_cons]
    exact ⟨⟨_, rfl, Slot.keeping_covers (Decoder.Covers.optional (Decoder.string_covers _))⟩,
      List.forall_mem_nil _⟩
  needs := by simp [itemsRecord, Slot.keeping]

theorem ItemsDraft.finish_of_type {members : List (String × Value)}
    (conforms : Shape.Conforms ["type"] [("type", Shape.fieldType)] members) :
    ∃ type, (ItemsDraft.ofMembers members).finish = .ok type := by
  obtain ⟨value, found, accepted⟩ :=
    conforms.exists_value List.mem_cons_self List.mem_cons_self
  have absent : members.lookup "$ref" = none := conforms.lookup_eq_none (by simp)
  rw [ItemsDraft.ofMembers, found, absent, ItemsDraft.finish, Option.map_some,
    Value.asOptional_of_ne_null _ (Shape.ne_null_of_fieldType accepted)]
  exact ⟨FieldType.ofValue value, rfl⟩

theorem ItemsDraft.finish_of_reference {members : List (String × Value)}
    (conforms : Shape.Conforms ["$ref"] [("$ref", .text .reference)] members) :
    ∃ type, (ItemsDraft.ofMembers members).finish = .ok type := by
  obtain ⟨value, found, accepted⟩ :=
    conforms.exists_value List.mem_cons_self List.mem_cons_self
  obtain ⟨content, rfl, _⟩ := Shape.exists_text accepted
  have absent : members.lookup "type" = none := conforms.lookup_eq_none (by simp)
  rw [ItemsDraft.ofMembers, found, absent]
  exact ⟨.reference ⟨content⟩, rfl⟩

theorem decodeItems_covers : Decoder.Covers decodeItems Shape.items := by
  intro depth node value valued accepted distinct
  obtain ⟨form, isForm, fits⟩ := Shape.exists_form accepted
  rcases List.mem_cons.mp isForm with rfl | isForm
  · obtain ⟨start, members, inner, entries, rfl, entered, conforms, taken⟩ :=
      Record.Covers.exists_members itemsRecord_covers_type itemsRecord_follows valued fits
        (Node.keysDistinct_of_choice node _ distinct)
    obtain ⟨type, finished⟩ := ItemsDraft.finish_of_type conforms
    rw [decodeItems, Record.decode, bind_of_eq_ok entered, bind_of_eq_ok taken]
    exact ⟨type, finished⟩
  · obtain rfl := List.mem_singleton.mp isForm
    obtain ⟨start, members, inner, entries, rfl, entered, conforms, taken⟩ :=
      Record.Covers.exists_members itemsRecord_covers_reference itemsRecord_follows valued fits
        (Node.keysDistinct_of_choice node _ distinct)
    obtain ⟨type, finished⟩ := ItemsDraft.finish_of_reference conforms
    rw [decodeItems, Record.decode, bind_of_eq_ok entered, bind_of_eq_ok taken]
    exact ⟨type, finished⟩

/-! ## Records -/

theorem Field.decode_covers : Decoder.Covers Field.decode Shape.field := by
  refine Decoder.Covers.finish (Record.Covers.decode ⟨?_, ?_⟩ fieldRecord_follows)
    FieldDraft.finish
  · simp only [List.forall_mem_cons]
    exact ⟨⟨_, rfl, Slot.keeping_covers (Decoder.Covers.optional (Decoder.value_covers _))⟩,
      ⟨_, rfl, Slot.keeping_covers (Decoder.string_covers _)⟩,
      ⟨_, rfl, Slot.keeping_covers (Decoder.Covers.list (Decoder.string_covers _))⟩,
      ⟨_, rfl, Slot.keeping_covers (Decoder.Covers.optional decodeItems_covers)⟩,
      ⟨_, rfl, Slot.keeping_covers (Decoder.string_covers _)⟩,
      ⟨_, rfl, Slot.keeping_covers Decoder.bool_covers⟩,
      ⟨_, rfl, Slot.keeping_covers Decoder.bool_covers⟩,
      ⟨_, rfl, Slot.keeping_covers FieldType.decode_covers⟩,
      List.forall_mem_nil _⟩
  · simp [fieldRecord, Slot.keeping]

theorem MethodExample.decode_covers : Decoder.Covers MethodExample.decode Shape.methodExample := by
  refine Decoder.Covers.finish (Record.Covers.decode ⟨?_, ?_⟩ methodExampleRecord_follows)
    MethodExampleDraft.finish
  · simp only [List.forall_mem_cons]
    exact ⟨⟨_, rfl, Slot.keeping_covers (Decoder.string_covers _)⟩,
      ⟨_, rfl, Slot.keeping_covers (Decoder.Covers.optional (Decoder.value_covers _))⟩,
      ⟨_, rfl, Slot.keeping_covers (Decoder.string_covers _)⟩,
      ⟨_, rfl, Slot.keeping_covers (Decoder.Covers.optional (Decoder.value_covers _))⟩,
      List.forall_mem_nil _⟩
  · simp [methodExampleRecord, Slot.keeping]

theorem Method.decode_covers : Decoder.Covers Method.decode Shape.method := by
  refine Decoder.Covers.finish (Record.Covers.decode ⟨?_, ?_⟩ methodRecord_follows)
    MethodDraft.finish
  · simp only [List.forall_mem_cons]
    exact ⟨⟨_, rfl, Slot.keeping_covers (Decoder.string_covers _)⟩,
      ⟨_, rfl, Slot.keeping_covers (Decoder.Covers.list MethodExample.decode_covers)⟩,
      ⟨_, rfl, Slot.keeping_covers (Decoder.string_covers _)⟩,
      ⟨_, rfl, Slot.keeping_covers (Decoder.Covers.list Field.decode_covers)⟩,
      ⟨_, rfl, Slot.keeping_covers (Decoder.string_covers _)⟩,
      ⟨_, rfl, Slot.keeping_covers (Decoder.Covers.list Field.decode_covers)⟩,
      ⟨_, rfl, Slot.keeping_covers Decoder.bool_covers⟩,
      List.forall_mem_nil _⟩
  · simp [methodRecord, Slot.keeping]

theorem TypeExample.decode_covers : Decoder.Covers TypeExample.decode Shape.typeExample := by
  refine Decoder.Covers.finish (Record.Covers.decode ⟨?_, ?_⟩ typeExampleRecord_follows)
    TypeExampleDraft.finish
  · simp only [List.forall_mem_cons]
    exact ⟨⟨_, rfl, Slot.keeping_covers (Decoder.string_covers _)⟩,
      ⟨_, rfl, Slot.keeping_covers (Decoder.value_covers _)⟩,
      List.forall_mem_nil _⟩
  · simp [typeExampleRecord, Slot.keeping]

theorem TypeDecl.decode_covers : Decoder.Covers TypeDecl.decode Shape.type := by
  refine Decoder.Covers.finish (Record.Covers.decode ⟨?_, ?_⟩ typeRecord_follows)
    TypeDraft.finish
  · simp only [List.forall_mem_cons]
    exact ⟨⟨_, rfl, Slot.keeping_covers (Decoder.string_covers _)⟩,
      ⟨_, rfl, Slot.keeping_covers (Decoder.Covers.list TypeExample.decode_covers)⟩,
      ⟨_, rfl, Slot.keeping_covers Decoder.bool_covers⟩,
      ⟨_, rfl, Slot.keeping_covers (Decoder.Covers.list Field.decode_covers)⟩,
      List.forall_mem_nil _⟩
  · simp [typeRecord, Slot.keeping]

theorem Group.decode_covers : Decoder.Covers Group.decode Shape.group := by
  refine Decoder.Covers.finish (Record.Covers.decode ⟨?_, ?_⟩ groupRecord_follows)
    GroupDraft.finish
  · simp only [List.forall_mem_cons]
    exact ⟨⟨_, rfl, Slot.keeping_covers (Decoder.string_covers _)⟩,
      ⟨_, rfl, Slot.keeping_covers (Decoder.string_covers _)⟩,
      ⟨_, rfl, Slot.keeping_covers (Decoder.string_covers _)⟩,
      List.forall_mem_nil _⟩
  · simp [groupRecord, Slot.keeping]

theorem decodeGoTags_covers : Decoder.Covers decodeGoTags Shape.go := by
  refine Decoder.Covers.finish (Record.Covers.decode ⟨?_, ?_⟩ goRecord_follows)
    fun tags => tags.getD ["json"]
  · simp only [List.forall_mem_cons]
    exact ⟨⟨_, rfl, Slot.keeping_covers (Decoder.Covers.list (Decoder.string_covers _))⟩,
      List.forall_mem_nil _⟩
  · simp [goRecord, Slot.keeping]

theorem Schema.decode_covers : Decoder.Covers Schema.decode Shape.schema := by
  refine Decoder.Covers.finish (Record.Covers.decode ⟨?_, ?_⟩ schemaRecord_follows)
    SchemaDraft.finish
  · simp only [List.forall_mem_cons]
    exact ⟨⟨_, rfl, Slot.keeping_covers (Decoder.string_covers _)⟩,
      ⟨_, rfl, Slot.keeping_covers decodeGoTags_covers⟩,
      ⟨_, rfl, Slot.keeping_covers (Decoder.Covers.list Group.decode_covers)⟩,
      ⟨_, rfl, Slot.keeping_covers (Decoder.Covers.list Method.decode_covers)⟩,
      ⟨_, rfl, Slot.keeping_covers (Decoder.string_covers _)⟩,
      ⟨_, rfl, Slot.keeping_covers (Decoder.Covers.map TypeDecl.decode_covers)⟩,
      ⟨_, rfl, Slot.keeping_covers (Decoder.string_covers _)⟩,
      List.forall_mem_nil _⟩
  · simp [schemaRecord, Slot.keeping]

/-! ## Texts -/

theorem Schema.eq_ofValue {text : String} {document : Value} {schema : Schema}
    (parsed : Value.ofText text = .ok document) (decoded : Schema.ofText text = .ok schema) :
    schema = Schema.ofValue document := by
  obtain ⟨rootValued, _⟩ := Document.decode_eq_ok_iff.mp parsed
  obtain ⟨rootDecoded, _⟩ := Document.decode_eq_ok_iff.mp decoded
  exact Schema.decode_agrees rootValued rootDecoded

theorem Schema.ofText_eq {text : String} {document : Value}
    (parsed : Value.ofText text = .ok document) (clean : structuralViolations document = [])
    (distinct : (Document.ofText text).root.keysDistinct Shape.schema = true) :
    Schema.ofText text = .ok (Schema.ofValue document) := by
  obtain ⟨rootValued, ended⟩ := Document.decode_eq_ok_iff.mp parsed
  obtain ⟨schema, rootDecoded⟩ := Schema.decode_covers rootValued ⟨[], clean⟩ distinct
  have decoded : Schema.ofText text = .ok schema :=
    Document.decode_eq_ok_iff.mpr ⟨rootDecoded, ended⟩
  rw [decoded, Schema.eq_ofValue parsed decoded]

theorem eq_ok_of_mapError {ε φ α : Type} {answer : Except ε α} {change : ε → φ} {result : α}
    (done : answer.mapError change = .ok result) : answer = .ok result := by
  cases answer with
  | error fault => cases done
  | ok value => exact congrArg Except.ok (Except.ok.inj done)

theorem load_eq {text : String} {document : Value} {declared : Schema}
    (parsed : Value.ofText text = .ok document) (clean : structuralViolations document = [])
    (decoded : Schema.ofText text = .ok declared) : load text = .ok declared.canonicalize := by
  unfold Value.ofText at parsed
  unfold Schema.ofText at decoded
  rw [load, loadWith, parsed, decoded]
  simp [Except.mapError, clean, bind, Except.bind, pure, Except.pure]

/-- What loads was checked as a value and decoded as a schema. -/
theorem exists_of_load {text : String} {schema : Schema} (loaded : load text = .ok schema) :
    ∃ document declared, Value.ofText text = .ok document ∧ structuralViolations document = [] ∧
      Schema.ofText text = .ok declared ∧ schema = declared.canonicalize := by
  obtain ⟨document, parsed, loaded⟩ := exists_of_bind_eq_ok loaded
  cases clean : structuralViolations document with
  | nil =>
      simp only [clean, List.map_nil, List.isEmpty_nil, Bool.not_true, Bool.false_eq_true,
        if_false] at loaded
      obtain ⟨declared, decoded, loaded⟩ := exists_of_bind_eq_ok loaded
      exact ⟨document, declared, eq_ok_of_mapError parsed, clean, eq_ok_of_mapError decoded,
        (Except.ok.inj loaded).symm⟩
  | cons first others =>
      simp only [clean, List.map_cons, List.isEmpty_cons, Bool.not_false, if_true] at loaded
      cases loaded

/-- A text with a value of the form of schemas loads when no object outside the parts of any form
repeats a key. Whatever text loads, repeated keys or not, the schema is told from the checked value
alone, so that two texts of one value load the same schema. -/
theorem load_eq_ofValue :
    (∀ text document, Value.ofText text = .ok document → structuralViolations document = [] →
      (Document.ofText text).root.keysDistinct Shape.schema = true →
        Schema.ofText text = .ok (Schema.ofValue document) ∧
          load text = .ok (Schema.ofValue document).canonicalize) ∧
      (∀ text schema, load text = .ok schema →
        ∃ document, Value.ofText text = .ok document ∧ structuralViolations document = [] ∧
          schema = (Schema.ofValue document).canonicalize) ∧
      ∀ text other document schema otherSchema, Value.ofText text = .ok document →
        Value.ofText other = .ok document → load text = .ok schema →
          load other = .ok otherSchema → schema = otherSchema := by
  have readOff : ∀ text schema, load text = .ok schema →
      ∃ document, Value.ofText text = .ok document ∧ structuralViolations document = [] ∧
        schema = (Schema.ofValue document).canonicalize := by
    intro text schema loaded
    obtain ⟨document, declared, parsed, clean, decoded, rfl⟩ := exists_of_load loaded
    exact ⟨document, parsed, clean, by rw [Schema.eq_ofValue parsed decoded]⟩
  refine ⟨fun text document parsed clean distinct => ?_, readOff, ?_⟩
  · have decoded := Schema.ofText_eq parsed clean distinct
    exact ⟨decoded, load_eq parsed clean decoded⟩
  · intro text other document schema otherSchema parsed otherParsed loaded otherLoaded
    obtain ⟨value, isValue, _, rfl⟩ := readOff text schema loaded
    obtain ⟨otherValue, isOther, _, rfl⟩ := readOff other otherSchema otherLoaded
    have same : value = document := Except.ok.inj (isValue.symm.trans parsed)
    have otherSame : otherValue = document := Except.ok.inj (isOther.symm.trans otherParsed)
    rw [same, otherSame]

/-- A document in which only the value of an example repeats a key. -/
def petDocument : String :=
  "\x7b\"name\":\"k\",\"version\":\"\",\"description\":\"\",\"methods\":[],\"groups\":[]," ++
    "\"types\":\x7b\"p\":\x7b\"examples\":[\x7b\"value\":\x7b\"a\":null,\"a\":true\x7d\x7d]\x7d\x7d\x7d"

/-- The value of the document, where the last member of a key stays. -/
def petValue : Value :=
  .object [
    ("description", .string ""),
    ("groups", .array []),
    ("methods", .array []),
    ("name", .string "k"),
    ("types", .object [
      ("p", .object [("examples", .array [.object [("value", .object [("a", .bool true)])]])])]),
    ("version", .string "")]

theorem load_petDocument :
    Value.ofText petDocument = .ok petValue ∧ structuralViolations petValue = [] ∧
      (Document.ofText petDocument).root.keysDistinct Shape.schema = true ∧
      load petDocument = .ok (Schema.ofValue petValue).canonicalize := by
  -- The text is read once for both of the facts about it.
  have read : (fun document : Document =>
      (document.decode .value, document.root.keysDistinct Shape.schema))
        (Document.ofText petDocument) = (.ok petValue, true) := by cbv
  obtain ⟨parsed, distinct⟩ := Prod.mk.inj read
  have clean : structuralViolations petValue = [] := by rfl
  have loaded := (load_eq_ofValue.1 petDocument petValue parsed clean distinct).2
  exact ⟨parsed, clean, distinct, loaded⟩

end RpcSchema
