import RpcSchema.Proofs.Json.Exactness
import RpcSchema.Proofs.Json.RoundTrip
import RpcSchema.Proofs.Schema.Reading

/-!
# Forms of types and of items

The type of a field is the name of a kind or an object with a reference as its only member, written
once. The items of an array are an object that declares either a type or a reference, under a key
that is written once, and nothing else but nulls. Both are told by what is written in a text,
repeated members included, so that no other form is taken for one of these.
-/

namespace RpcSchema

open Json

/-- A slot that keeps what is decoded exactly. -/
theorem Slot.keeping_exact {σ α : Type} {name : String} {presence : Presence} {decode : Decoder α}
    {get : σ → Option α} {put : σ → α → σ} {depth : Nat} {draft : List (String × Value) → σ}
    {takes : String → Value → Prop} {reading : Value → α}
    (exact : decode.Exact depth (takes name) reading)
    (kept : ∀ read, get (draft read) = (read.lookup name).map reading)
    (renewed : ∀ read value, put (draft read) (reading value) = draft ((name, value) :: read)) :
    (Slot.keeping name presence decode get put).Exact depth draft takes where
  filled read := by
    change (get (draft read)).isSome = _
    rw [kept, Option.isSome_map]
    rfl
  read node read next := by
    constructor
    · intro slotRead
      obtain ⟨item, decoded, done⟩ := exists_of_bind_eq_ok slotRead
      obtain ⟨value, written, taken, rfl⟩ := (exact node item).mp decoded
      rw [renewed] at done
      exact ⟨value, written, taken, Except.ok.inj done⟩
    · rintro ⟨value, written, taken, rfl⟩
      have decoded := (exact node (reading value)).mpr ⟨value, written, taken, rfl⟩
      exact (bind_of_eq_ok decoded).trans (congrArg Except.ok (renewed read value))

/-! ## Types of fields -/

theorem Kind.ofName?_eq_some_iff {name : String} {kind : Kind} :
    Kind.ofName? name = some kind ↔ name = kind.name := by
  constructor
  · intro found
    have same := List.find?_some found
    exact (beq_iff_eq.mp same).symm
  · rintro rfl
    cases kind <;> rfl

/-- How a type is written: the name of a kind, or an object with a reference and nothing else. -/
inductive FieldType.Spells : Value → FieldType → Prop
  | kind (kind : Kind) : Spells (.string kind.name) (.primitive kind)
  | reference (raw : String) : Spells (.object [("$ref", .string raw)]) (.reference ⟨raw⟩)

theorem FieldType.Spells.ofValue_eq {value : Value} {type : FieldType}
    (spelled : Spells value type) : FieldType.ofValue value = type := by
  cases spelled with
  | kind kind => rw [FieldType.ofValue, Kind.ofName?_eq_some_iff.mpr rfl, Option.getD_some]
  | reference raw => rfl

theorem takeMembers_reference_iff {depth : Nat} {members : Members} {result : Option String} :
    referenceRecord.takeMembers depth members none = .ok result ↔
      ∃ raw, members.asWritten? = some [("$ref", .string raw)] ∧ result = some raw := by
  have exact : ∀ slot ∈ referenceRecord.slots, slot.Exact depth referenceOfMembers
      fun _ value => ∃ text, value = .string text :=
    List.forall_mem_singleton.mpr (Slot.keeping_exact Decoder.string_exact (fun _ => rfl)
      fun _ _ => by simp [referenceOfMembers])
  change referenceRecord.takeMembers depth members (referenceOfMembers []) = _ ↔ _
  rw [Record.takeMembers_eq_ok_iff rfl exact]
  constructor
  · rintro ⟨pairs, written, ⟨taken, distinct⟩, -, complete, rfl⟩
    have named : ∀ pair ∈ pairs, pair.1 = "$ref" := fun pair member =>
      List.mem_singleton.mp (Record.isSome_slot?_iff.mp (taken pair member).1)
    rcases pairs with _ | ⟨first, _ | ⟨second, rest⟩⟩
    · cases complete
    · obtain ⟨name, value⟩ := first
      obtain ⟨-, raw, rfl⟩ := taken _ List.mem_cons_self
      obtain rfl : name = "$ref" := named _ List.mem_cons_self
      exact ⟨raw, written, rfl⟩
    · rw [List.map_cons, List.map_cons, List.nodup_cons, List.mem_cons, not_or,
        named first List.mem_cons_self,
        named second (List.mem_cons_of_mem _ List.mem_cons_self)] at distinct
      exact absurd rfl distinct.1.1
  · rintro ⟨raw, written, rfl⟩
    refine ⟨_, written, ⟨?_, by simp⟩, by simp, rfl, rfl⟩
    exact List.forall_mem_singleton.mpr ⟨rfl, raw, rfl⟩

namespace FieldType

variable {depth : Nat} {node : Node} {value : Value} {type : FieldType}

theorem exists_spells_of_decode (decoded : FieldType.decode depth node = .ok type) :
    ∃ value, node.asWritten? = some value ∧ Spells value type := by
  cases node with
  | string text stop =>
      cases text with
      | error fault => cases decoded
      | ok text =>
          rw [FieldType.decode] at decoded
          split at decoded
          · next kind found =>
            cases decoded
            obtain rfl := Kind.ofName?_eq_some_iff.mp found
            exact ⟨_, rfl, .kind kind⟩
          · cases decoded
  | object start members =>
      rw [FieldType.decode] at decoded
      obtain ⟨inner, -, decoded⟩ := exists_of_bind_eq_ok decoded
      obtain ⟨raw, taken, decoded⟩ := exists_of_bind_eq_ok decoded
      obtain ⟨raw, written, rfl⟩ := takeMembers_reference_iff.mp taken
      cases decoded
      exact ⟨_, Node.asWritten?_eq_object_iff.mpr ⟨start, members, rfl, written⟩, .reference raw⟩
  -- An array is entered before it is refused.
  | array start elements =>
      rw [FieldType.decode] at decoded
      obtain ⟨_, -, refused⟩ := exists_of_bind_eq_ok decoded
      cases refused
  | _ => cases decoded

theorem decode_of_spells (deep : 2 ≤ depth) (written : node.asWritten? = some value)
    (spelled : Spells value type) : FieldType.decode depth node = .ok type := by
  cases spelled with
  | kind kind =>
      obtain ⟨stop, rfl⟩ := Node.asWritten?_eq_string_iff.mp written
      rw [FieldType.decode]
      simp only [Kind.ofName?_eq_some_iff.mpr rfl]
  | reference raw =>
      obtain ⟨start, members, rfl, inside⟩ := Node.asWritten?_eq_object_iff.mp written
      have entered : enter depth start = .ok (depth - 1) :=
        enter_eq_ok_iff.mpr ⟨by omega, by omega⟩
      have taken : referenceRecord.takeMembers (depth - 1) members none = .ok (some raw) :=
        takeMembers_reference_iff.mpr ⟨raw, inside, rfl⟩
      rw [FieldType.decode, bind_of_eq_ok entered, bind_of_eq_ok taken]
      rfl

theorem decode_eq_ok_iff (deep : 2 ≤ depth) :
    FieldType.decode depth node = .ok type ↔
      ∃ value, node.asWritten? = some value ∧ Spells value type := by
  refine ⟨exists_spells_of_decode, ?_⟩
  rintro ⟨value, written, spelled⟩
  exact decode_of_spells deep written spelled

theorem decode_exact (deep : 2 ≤ depth) :
    Decoder.Exact FieldType.decode depth (fun value => ∃ type, Spells value type)
      FieldType.ofValue := by
  intro node result
  rw [decode_eq_ok_iff deep]
  constructor
  · rintro ⟨value, written, spelled⟩
    exact ⟨value, written, ⟨result, spelled⟩, spelled.ofValue_eq⟩
  · rintro ⟨value, written, ⟨type, spelled⟩, rfl⟩
    exact ⟨value, written, spelled.ofValue_eq ▸ spelled⟩

end FieldType

/-! ## Items -/

/-- What members have under a key, unless that is null. -/
def given? (name : String) (pairs : List (String × Value)) : Option Value :=
  (pairs.lookup name).bind (Value.asOptional id)

theorem given?_eq_some_iff {name : String} {pairs : List (String × Value)} {value : Value} :
    given? name pairs = some value ↔ pairs.lookup name = some value ∧ value ≠ .null := by
  rw [given?]
  cases pairs.lookup name with
  | none => simp
  | some found => cases found <;> simp +contextual [Value.asOptional, eq_comm]

theorem given?_eq_none_iff {name : String} {pairs : List (String × Value)} :
    given? name pairs = none ↔ ∀ value, pairs.lookup name = some value → value = .null := by
  rw [given?]
  cases pairs.lookup name with
  | none => simp
  | some found => cases found <;> simp [Value.asOptional]

/-- The members of an object declare a type for items: no key is repeated or of no meaning, and one
of the two has something other than null, of its form. -/
structure DeclaresItems (pairs : List (String × Value)) (type : FieldType) : Prop where
  known : ∀ pair ∈ pairs, pair.1 = "type" ∨ pair.1 = "$ref"
  distinct : (pairs.map Prod.fst).Nodup
  form :
    (∃ value, given? "type" pairs = some value ∧ given? "$ref" pairs = none ∧
      FieldType.Spells value type) ∨
    (∃ raw, given? "$ref" pairs = some (.string raw) ∧ given? "type" pairs = none ∧
      type = .reference ⟨raw⟩)

/-- What the members of items may have. -/
def takesItems (name : String) (value : Value) : Prop :=
  value = .null ∨
    if name = "type" then ∃ type, FieldType.Spells value type else ∃ raw, value = .string raw

theorem itemsRecord_exact {depth : Nat} (deep : 2 ≤ depth) :
    ∀ slot ∈ itemsRecord.slots, slot.Exact depth ItemsDraft.ofMembers takesItems := by
  simp only [itemsRecord, List.forall_mem_cons]
  refine ⟨Slot.keeping_exact (FieldType.decode_exact deep).optional (fun _ => rfl) ?_,
    Slot.keeping_exact Decoder.string_exact.optional (fun _ => rfl) ?_, List.forall_mem_nil _⟩ <;>
    simp [ItemsDraft.ofMembers]

section Items

variable {pairs : List (String × Value)} {type : FieldType}

/-- What is kept of members that were read is what they give, unless that is null. -/
theorem ItemsDraft.join_ofMembers (distinct : (pairs.map Prod.fst).Nodup) :
    (ItemsDraft.ofMembers pairs.reverse).type.join =
        (given? "type" pairs).map FieldType.ofValue ∧
      (ItemsDraft.ofMembers pairs.reverse).reference.join =
        (given? "$ref" pairs).map Value.asString := by
  have joined : ∀ {α : Type} (reading : Value → α) (found : Option Value),
      (found.map (Value.asOptional reading)).join =
        (found.bind (Value.asOptional id)).map reading := by
    intro α reading found
    cases found with
    | none => rfl
    | some value => cases value <;> rfl
  rw [ItemsDraft.ofMembers, lookup_reverse_of_nodup distinct, lookup_reverse_of_nodup distinct]
  exact ⟨joined _ _, joined _ _⟩

theorem takesItems_type_iff {value : Value} :
    takesItems "type" value ↔ value = .null ∨ ∃ type, FieldType.Spells value type := by
  rw [takesItems, if_pos rfl]

theorem takesItems_reference_iff {value : Value} :
    takesItems "$ref" value ↔ value = .null ∨ ∃ raw, value = .string raw := by
  rw [takesItems, if_neg (by decide)]

theorem DeclaresItems.taken (items : DeclaresItems pairs type) :
    ∀ pair ∈ pairs, takesItems pair.1 pair.2 := by
  rintro ⟨name, value⟩ member
  have found := lookup_eq_some_of_mem items.distinct member
  rcases items.known _ member with rfl | rfl
  · rw [takesItems_type_iff]
    rcases items.form with ⟨spelling, given, -, spelled⟩ | ⟨-, -, none, -⟩
    · rw [(given?_eq_some_iff.mp given).1, Option.some.injEq] at found
      exact .inr ⟨type, found ▸ spelled⟩
    · exact .inl (given?_eq_none_iff.mp none value found)
  · rw [takesItems_reference_iff]
    rcases items.form with ⟨-, -, none, -⟩ | ⟨raw, given, -, -⟩
    · exact .inl (given?_eq_none_iff.mp none value found)
    · rw [(given?_eq_some_iff.mp given).1, Option.some.injEq] at found
      exact .inr ⟨raw, found.symm⟩

theorem DeclaresItems.finish_eq (items : DeclaresItems pairs type) :
    (ItemsDraft.ofMembers pairs.reverse).finish = .ok type := by
  obtain ⟨ofType, ofReference⟩ := ItemsDraft.join_ofMembers items.distinct
  rw [ItemsDraft.finish, ofType, ofReference]
  rcases items.form with ⟨value, given, none, spelled⟩ | ⟨raw, given, none, rfl⟩
  · rw [given, none, Option.map_some, Option.map_none, spelled.ofValue_eq]
  · rw [given, none]
    rfl

theorem isSome_slot?_items {name : String} :
    (itemsRecord.slot? name).isSome ↔ name = "type" ∨ name = "$ref" := by
  rw [Record.isSome_slot?_iff]
  simp [itemsRecord, Slot.keeping]

/-- What is finished has one of the two, of its form. -/
theorem declaresItems_of_finish (fits : itemsRecord.Fits takesItems pairs)
    (finished : (ItemsDraft.ofMembers pairs.reverse).finish = .ok type) :
    DeclaresItems pairs type := by
  obtain ⟨taken, distinct⟩ := fits
  have takes : ∀ {name value}, given? name pairs = some value →
      value ≠ .null ∧ takesItems name value := by
    intro name value given
    obtain ⟨found, notNull⟩ := given?_eq_some_iff.mp given
    exact ⟨notNull, (taken _ (mem_of_lookup_eq_some found)).2⟩
  refine ⟨fun pair member => isSome_slot?_items.mp (taken pair member).1, distinct, ?_⟩
  obtain ⟨ofType, ofReference⟩ := ItemsDraft.join_ofMembers distinct
  rw [ItemsDraft.finish, ofType, ofReference] at finished
  cases hasType : given? "type" pairs with
  | none =>
      cases hasReference : given? "$ref" pairs with
      | none =>
          rw [hasType, hasReference] at finished
          cases finished
      | some value =>
          obtain ⟨notNull, taken⟩ := takes hasReference
          obtain ⟨raw, rfl⟩ := (takesItems_reference_iff.mp taken).resolve_left notNull
          rw [hasType, hasReference] at finished
          cases finished
          exact .inr ⟨raw, rfl, rfl, rfl⟩
  | some value =>
      obtain ⟨notNull, taken⟩ := takes hasType
      obtain ⟨declared, spelled⟩ := (takesItems_type_iff.mp taken).resolve_left notNull
      cases hasReference : given? "$ref" pairs with
      | none =>
          rw [hasType, hasReference, Option.map_some, spelled.ofValue_eq] at finished
          cases finished
          exact .inl ⟨value, rfl, rfl, spelled⟩
      | some reference =>
          rw [hasType, hasReference] at finished
          cases finished

/-- Members declare items exactly when they make up the record and its draft is finished. -/
theorem declaresItems_iff :
    DeclaresItems pairs type ↔ itemsRecord.Fits takesItems pairs ∧
      (ItemsDraft.ofMembers pairs.reverse).finish = .ok type := by
  constructor
  · intro items
    exact ⟨⟨fun pair member => ⟨isSome_slot?_items.mpr (items.known pair member),
      items.taken pair member⟩, items.distinct⟩, items.finish_eq⟩
  · rintro ⟨fits, finished⟩
    exact declaresItems_of_finish fits finished

/-- Items are decoded from an object exactly when its members declare them. -/
theorem decodeItems_object_iff {depth : Nat} (deep : 3 ≤ depth) {start : Place}
    {members : Members} : decodeItems depth (.object start members) = .ok type ↔
      ∃ pairs, members.asWritten? = some pairs ∧ DeclaresItems pairs type := by
  have entered : enter depth start = .ok (depth - 1) := enter_eq_ok_iff.mpr ⟨by omega, by omega⟩
  have takes : ∀ draft,
      itemsRecord.takeMembers (depth - 1) members (ItemsDraft.ofMembers []) = .ok draft ↔
        ∃ pairs, members.asWritten? = some pairs ∧ itemsRecord.Fits takesItems pairs ∧
          ItemsDraft.ofMembers pairs.reverse = draft := by
    intro draft
    -- Neither of the two is required on its own.
    have complete : itemsRecord.missing? draft = none := rfl
    rw [Record.takeMembers_eq_ok_iff rfl (itemsRecord_exact (by omega))]
    simp [complete]
  have decoded : decodeItems depth (.object start members) =
      (itemsRecord.takeMembers (depth - 1) members (ItemsDraft.ofMembers []) >>=
        ItemsDraft.finish) := by
    rw [decodeItems, Record.decode, bind_of_eq_ok entered]
    rfl
  rw [decoded]
  constructor
  · intro done
    obtain ⟨draft, taken, finished⟩ := exists_of_bind_eq_ok done
    obtain ⟨pairs, written, fits, rfl⟩ := (takes draft).mp taken
    exact ⟨pairs, written, declaresItems_iff.mpr ⟨fits, finished⟩⟩
  · rintro ⟨pairs, written, items⟩
    obtain ⟨fits, finished⟩ := declaresItems_iff.mp items
    exact (bind_of_eq_ok ((takes _).mpr ⟨pairs, written, fits, rfl⟩)).trans finished

/-- What is no array declares items only as an object. -/
theorem decodeItems_eq_ok_iff {depth : Nat} (deep : 3 ≤ depth) {node : Node}
    (noArray : ∀ start elements, node ≠ .array start elements) :
    decodeItems depth node = .ok type ↔
      ∃ pairs, node.asWritten? = some (.object pairs) ∧ DeclaresItems pairs type := by
  constructor
  · intro decoded
    cases node with
    | object start members =>
        obtain ⟨pairs, written, items⟩ := (decodeItems_object_iff deep).mp decoded
        exact ⟨pairs, Node.asWritten?_eq_object_iff.mpr ⟨start, members, rfl, written⟩, items⟩
    | array start elements => exact absurd rfl (noArray start elements)
    | _ => cases decoded
  · rintro ⟨pairs, written, items⟩
    obtain ⟨start, members, rfl, inside⟩ := Node.asWritten?_eq_object_iff.mp written
    exact (decodeItems_object_iff deep).mpr ⟨pairs, inside, items⟩

end Items

/-! ## Whole texts -/

theorem decode_fieldType_iff {text : String} {type : FieldType} :
    (Document.ofText text).decode FieldType.decode = .ok type ↔
      ∃ value, (Document.ofText text).asWritten? = some value ∧ FieldType.Spells value type := by
  simp only [Document.decode_eq_ok_iff, Document.asWritten?_eq_some_iff,
    FieldType.decode_eq_ok_iff (show 2 ≤ maxDepth by decide)]
  constructor
  · rintro ⟨⟨value, written, spelled⟩, ended⟩
    exact ⟨value, ⟨written, ended⟩, spelled⟩
  · rintro ⟨value, ⟨written, ended⟩, spelled⟩
    exact ⟨⟨value, written, spelled⟩, ended⟩

theorem decode_items_iff {text : String} {type : FieldType}
    (noArray : ∀ start elements, (Document.ofText text).root ≠ .array start elements) :
    (Document.ofText text).decode decodeItems = .ok type ↔
      ∃ pairs, (Document.ofText text).asWritten? = some (.object pairs) ∧
        DeclaresItems pairs type := by
  simp only [Document.decode_eq_ok_iff, Document.asWritten?_eq_some_iff,
    decodeItems_eq_ok_iff (show 3 ≤ maxDepth by decide) noArray]
  constructor
  · rintro ⟨⟨pairs, written, items⟩, ended⟩
    exact ⟨pairs, ⟨written, ended⟩, items⟩
  · rintro ⟨pairs, ⟨written, ended⟩, items⟩
    exact ⟨⟨pairs, written, items⟩, ended⟩

/-! ## The two forms of a reference -/

/-- Items that are a reference, declared as such. -/
def shortItems (raw : String) : Value := .object [("$ref", .string raw)]

/-- Items that are a reference, declared as a type. -/
def longItems (raw : String) : Value := .object [("type", .object [("$ref", .string raw)])]

theorem declaresItems_short (raw : String) :
    DeclaresItems [("$ref", .string raw)] (.reference ⟨raw⟩) where
  known := List.forall_mem_singleton.mpr (.inr rfl)
  distinct := List.nodup_singleton _
  form := .inr ⟨raw, rfl, rfl, rfl⟩

theorem declaresItems_long (raw : String) :
    DeclaresItems [("type", .object [("$ref", .string raw)])] (.reference ⟨raw⟩) where
  known := List.forall_mem_singleton.mpr (.inl rfl)
  distinct := List.nodup_singleton _
  form := .inl ⟨_, rfl, rfl, .reference raw⟩

theorem readsAs_shortItems (raw : String) : ReadsAs (shortItems raw).chars (shortItems raw) :=
  readsAs_chars_object (List.forall_mem_singleton.mpr (readsAs_string raw))

theorem readsAs_longItems (raw : String) : ReadsAs (longItems raw).chars (longItems raw) :=
  readsAs_chars_object (List.forall_mem_singleton.mpr (readsAs_shortItems raw))

/-- A text is decoded as a type exactly when the name of a kind or an object with just a reference
is written there, and, unless it starts an array, as items exactly when an object is written there
that declares them, with the type that is declared. A reference is the same items in both of its
forms. -/
theorem decoded_forms :
    (∀ text type, (Document.ofText text).decode FieldType.decode = .ok type ↔
      ∃ value, (Document.ofText text).asWritten? = some value ∧ FieldType.Spells value type) ∧
    (∀ text, (text.toList.dropWhile isGap).head? ≠ some '[' → ∀ type,
      (Document.ofText text).decode decodeItems = .ok type ↔
        ∃ pairs, (Document.ofText text).asWritten? = some (.object pairs) ∧
          DeclaresItems pairs type) ∧
    ∀ raw, ∀ form ∈ [shortItems raw, longItems raw],
      (Document.ofText form.compact).asWritten? = some form ∧
        ∀ text, (Document.ofText text).asWritten? = some form →
          (Document.ofText text).decode decodeItems = .ok (.reference ⟨raw⟩) := by
  refine ⟨fun text type => decode_fieldType_iff,
    fun text noBracket type => decode_items_iff (root_ofText_ne_array noBracket), fun raw => ?_⟩
  have decodes : ∀ {text pairs}, (Document.ofText text).asWritten? = some (.object pairs) →
      DeclaresItems pairs (.reference ⟨raw⟩) →
      (Document.ofText text).decode decodeItems = .ok (.reference ⟨raw⟩) :=
    fun written items =>
      (decode_items_iff (root_ne_array_of_object written)).mpr ⟨_, written, items⟩
  simp only [List.forall_mem_cons]
  exact ⟨⟨asWritten?_compact (readsAs_shortItems raw),
      fun _ written => decodes written (declaresItems_short raw)⟩,
    ⟨asWritten?_compact (readsAs_longItems raw),
      fun _ written => decodes written (declaresItems_long raw)⟩,
    List.forall_mem_nil _⟩

/-- Items with a null in front of their reference. -/
def burrowItems : Value := .object [("type", .null), ("$ref", .string "Burrow")]

theorem decoded_forms_burrow :
    (burrowItems.compact.toList.dropWhile isGap).head? ≠ some '[' ∧
      (Document.ofText burrowItems.compact).decode decodeItems = .ok (.reference ⟨"Burrow"⟩) := by
  have reads : ReadsAs burrowItems.chars burrowItems :=
    readsAs_chars_object (List.forall_mem_cons.mpr
      ⟨readsAs_null, List.forall_mem_singleton.mpr (readsAs_string "Burrow")⟩)
  have noBracket : (burrowItems.compact.toList.dropWhile isGap).head? ≠ some '[' := by decide
  exact ⟨noBracket, (decoded_forms.2.1 _ noBracket _).mpr ⟨_, asWritten?_compact reads,
    by decide, by decide, .inr ⟨"Burrow", rfl, rfl, rfl⟩⟩⟩

end RpcSchema
