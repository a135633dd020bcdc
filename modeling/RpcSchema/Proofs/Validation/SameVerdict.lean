import RpcSchema.Proofs.Generation.Validated
import RpcSchema.Proofs.Json.Agreement
import RpcSchema.Proofs.Validation.Acceptance
import RpcSchema.Proofs.Validation.Programs

/-!
# One verdict in two languages

Go validates in one pass, field by field: a default is put in, then the field is checked, then its
elements are validated. Rust puts all defaults in first, also those of elements, and validates in a
second pass. A statement touches the place of its own field only, so that a field holds the same
when it is checked, but for the defaults of its elements. Those are put in by then in Rust and not
yet in Go, where they are put in to the copy of an element before that is validated.
-/

namespace RpcSchema

namespace Validating

/-! ## Verdicts in sequence -/

theorem ends_bind {α β : Type} (first : Except Failure α) (next : α → Except Failure β) :
    ends (first >>= next) = ends first >>= fun value => ends (next value) := by
  cases first with
  | error failure => rfl
  | ok value => rfl

theorem map_bind {α β γ : Type} (first : Except Halt α) (change : α → β)
    (next : β → Except Halt γ) :
    first.map change >>= next = first >>= fun value => next (change value) := by
  cases first with
  | error halt => rfl
  | ok value => rfl

/-- An element has one verdict in either language, once its defaults are put in for the second. -/
def Agrees (visit : Content → Except Halt Unit) (change : Content → Except Halt Content)
    (check : Content → Except Halt Unit) (item : Content) : Prop :=
  ∃ changed verdict, change item = .ok changed ∧ visit item = ends verdict ∧
    check changed = ends verdict

section Items

variable {visit : Content → Except Halt Unit} {change : Content → Except Halt Content}
  {check : Content → Except Halt Unit}

/-- The verdicts on elements make one verdict on all of them, wherever their indices start. -/
theorem goOver_agrees {items : List Content}
    (agree : ∀ item ∈ items, Agrees visit change check item) :
    ∃ changed, items.mapM change = .ok changed ∧ changed.length = items.length ∧
      ∀ index, ∃ verdict, goOver visit index items = ends verdict ∧
        goOver check index changed = ends verdict := by
  induction items with
  | nil => exact ⟨[], rfl, rfl, fun _ => ⟨.ok (), rfl, rfl⟩⟩
  | cons item rest ih =>
      obtain ⟨first, verdict, changes, visits, checks⟩ := agree item List.mem_cons_self
      obtain ⟨others, changesRest, sameLength, verdicts⟩ :=
        ih fun other member => agree other (List.mem_cons_of_mem _ member)
      refine ⟨first :: others, ?_, congrArg (· + 1) sameLength, fun index => ?_⟩
      · rw [List.mapM_cons, changes, changesRest]
        rfl
      · rw [goOver, goOver, visits, checks]
        cases verdict with
        | error failure =>
            exact ⟨.error { failure with indices := index :: failure.indices }, rfl, rfl⟩
        | ok _ => exact verdicts (index + 1)

/-- A content is another but for its elements, of which it has as many. -/
def SameButItems (content other : Content) : Prop :=
  content = other ∨ ∃ items others : List Content,
    content = .array items ∧ other = .array others ∧ items.length = others.length

theorem changeItems_agrees {content : Content}
    (agree : ∀ item ∈ content.items, Agrees visit change check item) :
    ∃ changed verdict, changeItems change content = .ok changed ∧ SameButItems changed content ∧
      goOver visit 0 content.items = ends verdict ∧
      goOver check 0 changed.items = ends verdict := by
  cases content with
  | array items =>
      obtain ⟨changed, changes, sameLength, verdicts⟩ := goOver_agrees agree
      obtain ⟨verdict, visits, checks⟩ := verdicts 0
      exact ⟨.array changed, verdict, congrArg (Except.map Content.array) changes,
        .inr ⟨changed, items, rfl, rfl, sameLength⟩, visits, checks⟩
  | missing | text | boolean | integer | float | timestamp | object | record =>
      exact ⟨_, .ok (), rfl, .inl rfl, rfl, rfl⟩

end Items

/-! ## One field -/

/-- The verdict of a check on what its field holds. -/
def judge (notion : Notion) (content : Content) : Check → Except Failure Unit
  | .required field zero => requireSet notion field.name zero content
  | .oneOf field => requireOneOf notion field.name field.enumValues content
  | .default _ _ => .ok ()
  | .elements _ _ => .ok ()

/-- The checks of a field that neither put a default in nor go over elements. -/
def rules (field : Field) : List Check :=
  (if field.required then field.type.zero?.toList.map (Check.required field) else []) ++
    if field.type == .primitive .string && !field.enumValues.isEmpty then [.oneOf field] else []

theorem rule_cases {field : Field} {rule : Check} (listed : rule ∈ rules field) :
    (∃ zero, rule = .required field zero) ∨ rule = .oneOf field := by
  rcases List.mem_append.mp listed with required | oneOf
  · split at required
    · obtain ⟨zero, _, rfl⟩ := List.mem_map.mp required
      exact .inl ⟨zero, rfl⟩
    · cases required
  · split at oneOf
    · exact .inr (List.mem_singleton.mp oneOf)
    · cases oneOf

theorem exists_of_fieldChecks {schema : Schema} {field : Field} {checks : List Check}
    (listed : schema.fieldChecks field = .ok checks) :
    ∃ (value : Option DefaultValue) (element : Option TypeDecl),
      field.defaultCheck = .ok value ∧ schema.element field = .ok element ∧
      checks = value.toList.map (Check.default field) ++ rules field ++
        element.toList.map (Check.elements field) := by
  obtain ⟨value, put, listed⟩ := Json.exists_of_bind_eq_ok listed
  obtain ⟨element, resolved, listed⟩ := Json.exists_of_bind_eq_ok listed
  obtain rfl := Except.ok.inj listed
  exact ⟨value, element, put, resolved, by rw [rules, ← List.append_assoc]⟩

section Rules

variable {notion : Notion} {field : Field} {listed : List Check}
  (areRules : ∀ rule ∈ listed, (∃ zero, rule = .required field zero) ∨ rule = .oneOf field)
include areRules

theorem foldlM_goStep_rules (visit : String → Content → Except Halt Unit) (struct : Struct) :
    (listed.map GoValidation.Statement.ofCheck).foldlM (goStep notion visit) struct =
      (ends (forM listed (judge notion (struct (GoValidation.placeOf field))))).map
        fun _ => struct := by
  induction listed with
  | nil => rfl
  | cons rule rest ih =>
      have step : goStep notion visit struct (.ofCheck rule) =
          (ends (judge notion (struct (GoValidation.placeOf field)) rule)).map fun _ => struct := by
        rcases areRules rule List.mem_cons_self with ⟨zero, rfl⟩ | rfl <;> rfl
      rw [List.map_cons, List.foldlM_cons, step, map_bind,
        ih fun other member => areRules other (List.mem_cons_of_mem _ member), List.forM_cons,
        ends_bind]
      cases judge notion (struct (GoValidation.placeOf field)) rule <;> rfl

theorem forM_checkStep_rules (visit : String → Content → Except Halt Unit) (struct : Struct) :
    forM (listed.flatMap RustValidation.CheckStatement.ofCheck) (checkStep notion visit struct) =
      ends (forM listed (judge notion (struct (RustValidation.placeOf field)))) := by
  induction listed with
  | nil => rfl
  | cons rule rest ih =>
      have step :
          forM (RustValidation.CheckStatement.ofCheck rule) (checkStep notion visit struct) =
            ends (judge notion (struct (RustValidation.placeOf field)) rule) := by
        rcases areRules rule List.mem_cons_self with ⟨zero, rfl⟩ | rfl <;>
          rw [RustValidation.CheckStatement.ofCheck, List.forM_cons, List.forM_nil,
            bind_pure_unit] <;>
          rfl
      rw [List.flatMap_cons, List.forM_append, step,
        ih fun other member => areRules other (List.mem_cons_of_mem _ member), List.forM_cons,
        ends_bind]

theorem flatMap_defaults_rules :
    listed.flatMap RustValidation.DefaultStatement.ofCheck = [] := by
  rw [List.flatMap_eq_nil_iff]
  intro rule member
  rcases areRules rule member with ⟨zero, rfl⟩ | rfl <;> rfl

/-- Rules do not tell contents apart that differ in their elements only. -/
theorem forM_judge_sameButItems {content other : Content} (same : SameButItems content other) :
    forM listed (judge notion content) = forM listed (judge notion other) := by
  induction listed with
  | nil => rfl
  | cons rule rest ih =>
      have sameRule : judge notion content rule = judge notion other rule := by
        rcases same with rfl | ⟨items, others, rfl, rfl, sameLength⟩
        · rfl
        · have sameUnset := fun zero => notion.array_congr zero items others sameLength
          rcases areRules rule List.mem_cons_self with ⟨zero, rfl⟩ | rfl
          · rw [judge, judge, requireSet, requireSet, sameUnset]
          · rw [judge, judge, requireOneOf, requireOneOf, sameUnset]
            rfl
      rw [List.forM_cons, List.forM_cons, sameRule,
        ih fun other member => areRules other (List.mem_cons_of_mem _ member)]

end Rules

section Field

variable {notion : Notion} {field : Field} {visit check : String → Content → Except Halt Unit}
  {change : String → Content → Except Halt Content}

/-- What a field holds after its default, if it has one, is put in. -/
def filled (notion : Notion) (value : Option DefaultValue) (content : Content) : Content :=
  value.elim content fun value => fill notion value content

theorem mem_items_of_mem_items_filled {value : Option DefaultValue} {content item : Content}
    (member : item ∈ (filled notion value content).items) : item ∈ content.items := by
  cases value with
  | none => exact member
  | some value =>
      rw [filled, Option.elim_some, fill] at member
      split at member
      · cases value <;> cases member
      · exact member

theorem foldlM_goStep_default (value : Option DefaultValue) (struct : Struct) :
    ((value.toList.map (Check.default field)).map GoValidation.Statement.ofCheck).foldlM
        (goStep notion visit) struct =
      .ok (Function.update struct (GoValidation.placeOf field)
        (filled notion value (struct (GoValidation.placeOf field)))) := by
  cases value with
  | none => exact congrArg Except.ok (Function.update_eq_self _ struct).symm
  | some value => rfl

theorem foldlM_defaultStep_default (value : Option DefaultValue) (struct : Struct) :
    ((value.toList.map (Check.default field)).flatMap
        RustValidation.DefaultStatement.ofCheck).foldlM (defaultStep notion change) struct =
      .ok (Function.update struct (RustValidation.placeOf field)
        (filled notion value (struct (RustValidation.placeOf field)))) := by
  cases value with
  | none => exact congrArg Except.ok (Function.update_eq_self _ struct).symm
  | some value => rfl

/-- The look at the elements of a field has one verdict in either language, and changes nothing in
them but what the first pass in Rust changes. -/
theorem elements_agree (notion : Notion) {element : Option TypeDecl} {content : Content}
    (agree : element.isSome → ∀ item ∈ content.items,
      Agrees (visit (GoValidation.placeOf field)) (change (RustValidation.placeOf field))
        (check (RustValidation.placeOf field)) item) :
    ∃ changed verdict, SameButItems changed content ∧
      (∀ struct : Struct, struct (GoValidation.placeOf field) = content →
        ((element.toList.map (Check.elements field)).map GoValidation.Statement.ofCheck).foldlM
          (goStep notion visit) struct = (ends verdict).map fun _ => struct) ∧
      (∀ struct : Struct, struct (RustValidation.placeOf field) = content →
        ((element.toList.map (Check.elements field)).flatMap
          RustValidation.DefaultStatement.ofCheck).foldlM (defaultStep notion change) struct =
            .ok (Function.update struct (RustValidation.placeOf field) changed)) ∧
      ∀ struct : Struct, struct (RustValidation.placeOf field) = changed →
        forM ((element.toList.map (Check.elements field)).flatMap
          RustValidation.CheckStatement.ofCheck) (checkStep notion check struct) =
            ends verdict := by
  cases element with
  | none =>
      refine ⟨content, .ok (), .inl rfl, fun _ _ => rfl, ?_, fun _ _ => rfl⟩
      rintro struct rfl
      exact congrArg Except.ok (Function.update_eq_self _ struct).symm
  | some type =>
      obtain ⟨changed, verdict, changes, same, visits, checks⟩ := changeItems_agrees (agree rfl)
      refine ⟨changed, verdict, same, ?_, ?_, ?_⟩
      · rintro struct rfl
        rw [Option.toList_some, List.map_singleton, List.map_singleton, List.foldlM_cons]
        simp only [List.foldlM_nil, bind_pure]
        exact congrArg (Except.map fun _ => struct) visits
      · rintro struct rfl
        rw [Option.toList_some, List.map_singleton, List.flatMap_singleton,
          RustValidation.DefaultStatement.ofCheck, List.foldlM_cons]
        simp only [List.foldlM_nil, bind_pure]
        exact congrArg (Except.map _) changes
      · rintro struct rfl
        rw [Option.toList_some, List.map_singleton, List.flatMap_singleton,
          RustValidation.CheckStatement.ofCheck, List.forM_cons, List.forM_nil, bind_pure_unit]
        exact checks

/-- The calls that go over the elements of a field have one verdict on each of those in a struct. -/
def ElementsAgree (schema : Schema) (visit : String → Content → Except Halt Unit)
    (change : String → Content → Except Halt Content) (check : String → Content → Except Halt Unit)
    (struct : Struct) (field : Field) : Prop :=
  ∀ type, schema.element field = .ok (some type) →
    ∀ item ∈ (struct (GoValidation.placeOf field)).items,
      Agrees (visit (GoValidation.placeOf field)) (change (RustValidation.placeOf field))
        (check (RustValidation.placeOf field)) item

theorem ElementsAgree.congr {schema : Schema} {struct other : Struct}
    (agree : ElementsAgree schema visit change check struct field)
    (same : other (GoValidation.placeOf field) = struct (GoValidation.placeOf field)) :
    ElementsAgree schema visit change check other field := by
  rwa [ElementsAgree, same]

/-- The checks of a field in Go, in the first and in the second pass in Rust: what they leave in the
place of the field, and their one verdict. -/
theorem field_agrees (notion : Notion) {schema : Schema} {checks : List Check}
    (listed : schema.fieldChecks field = .ok checks) {go rust : Struct}
    (same : go (GoValidation.placeOf field) = rust (RustValidation.placeOf field))
    (agree : ElementsAgree schema visit change check go field) :
    ∃ left changed verdict,
      (checks.map GoValidation.Statement.ofCheck).foldlM (goStep notion visit) go =
        (ends verdict).map (fun _ => Function.update go (GoValidation.placeOf field) left) ∧
      (checks.flatMap RustValidation.DefaultStatement.ofCheck).foldlM
          (defaultStep notion change) rust =
        .ok (Function.update rust (RustValidation.placeOf field) changed) ∧
      ∀ later : Struct, later (RustValidation.placeOf field) = changed →
        forM (checks.flatMap RustValidation.CheckStatement.ofCheck) (checkStep notion check later) =
          ends verdict := by
  obtain ⟨value, element, -, resolved, rfl⟩ := exists_of_fieldChecks listed
  have agreeFilled : element.isSome →
      ∀ item ∈ (filled notion value (go (GoValidation.placeOf field))).items,
        Agrees (visit (GoValidation.placeOf field)) (change (RustValidation.placeOf field))
          (check (RustValidation.placeOf field)) item := by
    intro declared item member
    obtain ⟨type, rfl⟩ := Option.isSome_iff_exists.mp declared
    exact agree type resolved item (mem_items_of_mem_items_filled member)
  obtain ⟨changed, elementsVerdict, sameButItems, inGo, inFirst, inSecond⟩ :=
    elements_agree notion agreeFilled
  have areRules : ∀ rule ∈ rules field, (∃ zero, rule = .required field zero) ∨
      rule = .oneOf field := fun rule => rule_cases
  refine ⟨filled notion value (go (GoValidation.placeOf field)), changed,
    forM (rules field) (judge notion (filled notion value (go (GoValidation.placeOf field)))) >>=
      fun _ => elementsVerdict, ?_, ?_, fun later holds => ?_⟩
  · rw [List.map_append, List.map_append, List.foldlM_append, List.foldlM_append,
      foldlM_goStep_default, Json.bind_of_eq_ok rfl, foldlM_goStep_rules areRules,
      Function.update_self, map_bind, inGo _ (Function.update_self _ _ _), ends_bind]
    cases forM (rules field)
      (judge notion (filled notion value (go (GoValidation.placeOf field)))) <;> rfl
  · rw [List.flatMap_append, List.flatMap_append, List.foldlM_append, List.foldlM_append,
      foldlM_defaultStep_default, flatMap_defaults_rules areRules, ← same]
    change List.foldlM _ _ _ = _
    rw [inFirst _ (Function.update_self _ _ _), Function.update_idem]
  · have noDefault : (value.toList.map (Check.default field)).flatMap
        RustValidation.CheckStatement.ofCheck = [] := by cases value <;> rfl
    rw [List.flatMap_append, List.flatMap_append, List.forM_append, List.forM_append, noDefault,
      forM_checkStep_rules areRules, holds, inSecond later holds,
      forM_judge_sameButItems areRules sameButItems, ends_bind]
    rfl

end Field

/-! ## One record -/

/-- A place that is none of some fields' can change without any of them. -/
theorem update_of_new {placeOf : Field → String} {field : Field} {fields : List Field}
    (isNew : placeOf field ∉ fields.map placeOf) (struct : Struct) (content : Content) :
    ∀ other ∈ fields,
      Function.update struct (placeOf field) content (placeOf other) = struct (placeOf other) := by
  intro other member
  refine Function.update_of_ne (fun samePlace => isNew ?_) _ _
  exact List.mem_map.mpr ⟨other, member, samePlace⟩

/-- The checks of the fields of a record, of which no two have one place. -/
theorem fields_agree (notion : Notion) {schema : Schema}
    {visit check : String → Content → Except Halt Unit}
    {change : String → Content → Except Halt Content} {fields : List Field} {checks : List Check}
    (listed : schema.checks fields = .ok checks)
    (goPlaces : (fields.map GoValidation.placeOf).Nodup)
    (rustPlaces : (fields.map RustValidation.placeOf).Nodup) {go rust : Struct}
    (same : ∀ field ∈ fields,
      go (GoValidation.placeOf field) = rust (RustValidation.placeOf field))
    (agree : ∀ field ∈ fields, ElementsAgree schema visit change check go field) :
    ∃ changed verdict,
      ((checks.map GoValidation.Statement.ofCheck).foldlM (goStep notion visit) go).map
          (fun _ => ()) = ends verdict ∧
      (checks.flatMap RustValidation.DefaultStatement.ofCheck).foldlM
          (defaultStep notion change) rust = .ok changed ∧
      (∀ place, place ∉ fields.map RustValidation.placeOf → changed place = rust place) ∧
      ∀ later : Struct,
        (∀ field ∈ fields,
          later (RustValidation.placeOf field) = changed (RustValidation.placeOf field)) →
        forM (checks.flatMap RustValidation.CheckStatement.ofCheck) (checkStep notion check later) =
          ends verdict := by
  induction fields generalizing checks go rust with
  | nil =>
      obtain rfl := Except.ok.inj listed
      exact ⟨rust, .ok (), rfl, rfl, fun _ _ => rfl, fun _ _ => rfl⟩
  | cons field rest ih =>
      obtain ⟨first, firstListed, listed⟩ := Json.exists_of_bind_eq_ok listed
      obtain ⟨others, othersListed, listed⟩ := Json.exists_of_bind_eq_ok listed
      obtain rfl := Except.ok.inj listed
      obtain ⟨goNew, goPlaces⟩ := List.nodup_cons.mp goPlaces
      obtain ⟨rustNew, rustPlaces⟩ := List.nodup_cons.mp rustPlaces
      obtain ⟨left, changedFirst, verdictFirst, inGo, inFirst, inSecond⟩ :=
        field_agrees notion firstListed (same field List.mem_cons_self)
          (agree field List.mem_cons_self)
      have goKeeps := update_of_new goNew go left
      have rustKeeps := update_of_new rustNew rust changedFirst
      have sameRest : ∀ other ∈ rest,
          Function.update go (GoValidation.placeOf field) left (GoValidation.placeOf other) =
            Function.update rust (RustValidation.placeOf field) changedFirst
              (RustValidation.placeOf other) := by
        intro other member
        rw [goKeeps other member, rustKeeps other member]
        exact same other (List.mem_cons_of_mem _ member)
      obtain ⟨changed, verdict, inGoRest, inFirstRest, elsewhere, inSecondRest⟩ :=
        ih othersListed goPlaces rustPlaces sameRest fun other member =>
          (agree other (List.mem_cons_of_mem _ member)).congr (goKeeps other member)
      refine ⟨changed, verdictFirst >>= fun _ => verdict, ?_, ?_, fun place elsewherePlace => ?_,
        fun later holds => ?_⟩
      · rw [List.map_append, List.foldlM_append, inGo, map_bind, ends_bind, ← inGoRest]
        cases verdictFirst <;> rfl
      · rw [List.flatMap_append, List.foldlM_append, inFirst, Json.bind_of_eq_ok rfl, inFirstRest]
      · rw [List.map_cons, List.mem_cons, not_or] at elsewherePlace
        rw [elsewhere place elsewherePlace.2, Function.update_of_ne elsewherePlace.1]
      · have holdsFirst : later (RustValidation.placeOf field) = changedFirst := by
          rw [holds field List.mem_cons_self, elsewhere _ rustNew, Function.update_self]
        rw [List.flatMap_append, List.forM_append, inSecond later holdsFirst,
          inSecondRest later fun other member => holds other (List.mem_cons_of_mem _ member),
          ends_bind]

section Places

variable {placeOf : Field → String} {fields : List Field} (places : (fields.map placeOf).Nodup)
  {field : Field} (member : field ∈ fields)
include places member

theorem toStruct_placeOf (record : Record) :
    toStruct placeOf fields record (placeOf field) = contentOf record field.name := by
  rw [toStruct, fieldAt?, find?_of_nodup places member]

theorem callAt_placeOf {α : Type} {schema : Schema} {type : TypeDecl}
    (resolved : schema.element field = .ok (some type))
    (call : List Field → Record → Except Halt α) (item : Content) :
    callAt placeOf fields schema call (placeOf field) item = call type.properties item.fields := by
  rw [callAt, fieldAt?, find?_of_nodup places member, Option.map_some, resolved]

end Places

/-- A record that is made of a struct holds what the struct does. -/
theorem contentOf_ofStruct {fields : List Field} (names : (fields.map Field.name).Nodup)
    {field : Field} (member : field ∈ fields) (placeOf : Field → String) (struct : Struct) :
    contentOf (ofStruct placeOf fields struct) field.name = struct (placeOf field) := by
  have distinct : ((ofStruct placeOf fields struct).map (·.1)).Nodup := by
    rwa [ofStruct, List.map_map]
  have listed : (field.name, struct (placeOf field)) ∈ ofStruct placeOf fields struct :=
    List.mem_map.mpr ⟨field, member, rfl⟩
  rw [contentOf, Json.lookup_eq_some_of_mem distinct listed, Option.getD_some]

/-- The type of elements is declared. -/
theorem exists_of_element {schema : Schema} {field : Field} {type : TypeDecl}
    (resolved : schema.element field = .ok (some type)) : ∃ name, (name, type) ∈ schema.types := by
  unfold Schema.element at resolved
  split at resolved
  · cases resolved
  · split at resolved
    · next target _ =>
      obtain ⟨decl, found, same⟩ := Json.exists_of_map_eq_ok resolved
      obtain rfl := Option.some.inj same
      exact ⟨target.name, Json.mem_of_lookup_eq_some (Schema.resolve_eq_ok_iff.mp found)⟩
    · cases resolved

theorem depth_le_of_mem {items : List Content} {item : Content} (member : item ∈ items) :
    depth item ≤ depthItems items := by
  induction member with
  | head rest => exact Nat.le_max_left _ _
  | tail first _ ih => exact ih.trans (Nat.le_max_right _ _)

theorem depth_contentOf_le (record : Record) (name : String) :
    depth (contentOf record name) ≤ depthFields record := by
  rw [contentOf]
  induction record with
  | nil => exact Nat.le_refl 0
  | cons first rest ih =>
      obtain ⟨other, content⟩ := first
      rw [Json.lookup_cons_eq, depthFields]
      split
      · exact Nat.le_max_left _ _
      · exact ih.trans (Nat.le_max_right _ _)

theorem depthFields_fields_le (content : Content) : depthFields content.fields ≤ depth content := by
  cases content with
  | record fields => exact Nat.le_succ _
  | missing | text | boolean | integer | float | timestamp | object | array => exact Nat.zero_le _

/-- The elements of what a record holds nest less deep than the record. -/
theorem depthFields_lt_of_mem {record : Record} {name : String} {item : Content}
    (inside : item ∈ (contentOf record name).items) :
    depthFields item.fields < depthFields record := by
  have whole := depth_contentOf_le record name
  cases content : contentOf record name with
  | array items =>
      rw [content] at inside whole
      have within := Nat.lt_succ_of_le (depth_le_of_mem inside)
      exact ((depthFields_fields_le item).trans_lt within).trans_le whole
  | missing | text | boolean | integer | float | timestamp | object | record =>
      rw [content] at inside
      cases inside

/-- Names that have places of their own are distinct. -/
theorem HasDistinctPlaces.nodup_names {schema : Schema} {fields : List Field} {record : Record}
    (distinct : HasDistinctPlaces schema fields record) : (fields.map Field.name).Nodup := by
  obtain ⟨-, rustPlaces, -⟩ := distinct
  refine List.Nodup.of_map Naming.Convention.rust.fieldName ?_
  rwa [List.map_map]

/-- Go and Rust have one verdict on a record, in Rust on what the first pass makes of it. -/
def OneVerdict (notion : Notion) (schema : Schema) (bound : Nat) (fields : List Field)
    (record : Record) : Prop :=
  ∃ changed verdict, applyDefaults notion schema bound fields record = .ok changed ∧
    goValidate notion schema bound fields record = ends verdict ∧
    rustValidate notion schema bound fields changed = ends verdict

/-- One verdict on each element of a field is what the calls that go over them come to. -/
theorem elementsAgree_callAt {notion : Notion} {schema : Schema} {bound : Nat} {fields : List Field}
    (goPlaces : (fields.map GoValidation.placeOf).Nodup)
    (rustPlaces : (fields.map RustValidation.placeOf).Nodup) {field : Field}
    (member : field ∈ fields) {record : Record}
    (agree : ∀ type, schema.element field = .ok (some type) →
      ∀ item ∈ (contentOf record field.name).items,
        OneVerdict notion schema bound type.properties item.fields) :
    ElementsAgree schema
      (callAt GoValidation.placeOf fields schema (goValidate notion schema bound))
      (callAt RustValidation.placeOf fields schema fun fields record =>
        (applyDefaults notion schema bound fields record).map .record)
      (callAt RustValidation.placeOf fields schema (rustValidate notion schema bound))
      (toStruct GoValidation.placeOf fields record) field := by
  intro type resolved item inside
  rw [toStruct_placeOf goPlaces member] at inside
  obtain ⟨changed, verdict, changes, inGo, inRust⟩ := agree type resolved item inside
  refine ⟨.record changed, verdict, ?_, ?_, ?_⟩
  · rw [callAt_placeOf rustPlaces member resolved, changes]
    rfl
  · rw [callAt_placeOf goPlaces member resolved, inGo]
  · rw [callAt_placeOf rustPlaces member resolved]
    exact inRust

/-- A record has one verdict in either language, as long as calls may nest deep enough. -/
theorem record_agrees (notion : Notion) {schema : Schema}
    (emitted : ∀ entry ∈ schema.types, ∃ checks, schema.checks entry.2.properties = .ok checks)
    {fields : List Field} {checks : List Check} (listed : schema.checks fields = .ok checks)
    {record : Record} (distinct : HasDistinctPlaces schema fields record) {bound : Nat}
    (shallow : depthFields record < bound) :
    OneVerdict notion schema bound fields record := by
  induction bound generalizing fields checks record with
  | zero => exact absurd shallow (Nat.not_lt_zero _)
  | succ bound ih =>
      have names := distinct.nodup_names
      obtain ⟨goPlaces, rustPlaces, nested⟩ := distinct
      have same : ∀ field ∈ fields,
          toStruct GoValidation.placeOf fields record (GoValidation.placeOf field) =
            toStruct RustValidation.placeOf fields record (RustValidation.placeOf field) := by
        intro field member
        rw [toStruct_placeOf goPlaces member, toStruct_placeOf rustPlaces member]
      -- Elements nest less deep than the record that they are in.
      have agree : ∀ field ∈ fields, ∀ type, schema.element field = .ok (some type) →
          ∀ item ∈ (contentOf record field.name).items,
            OneVerdict notion schema bound type.properties item.fields := by
        intro field member type resolved item inside
        obtain ⟨name, declared⟩ := exists_of_element resolved
        obtain ⟨elementChecks, elementListed⟩ := emitted _ declared
        exact ih elementListed (nested field member type resolved item inside)
          ((depthFields_lt_of_mem inside).trans_le (Nat.lt_succ_iff.mp shallow))
      obtain ⟨changed, verdict, inGo, inFirst, _, inSecond⟩ :=
        fields_agree notion listed goPlaces rustPlaces same fun field member =>
          elementsAgree_callAt goPlaces rustPlaces member (agree field member)
      refine ⟨ofStruct RustValidation.placeOf fields changed, verdict, ?_, ?_, ?_⟩
      · rw [applyDefaults, listed]
        exact congrArg (Except.map (ofStruct RustValidation.placeOf fields)) inFirst
      · rw [goValidate, listed]
        exact inGo
      · rw [rustValidate, listed]
        refine inSecond _ fun field member => ?_
        rw [toStruct_placeOf rustPlaces member, contentOf_ofStruct names member]

/-! ## Emitted validation -/

theorem emit_of_generate {name : String}
    {emit : Schema → Except GenerateError (List GeneratedFile)} {schema : Schema}
    {files : List GeneratedFile} (done : (Backend.ofEmit name emit).generate schema = .done files) :
    emit schema = .ok files := by
  rw [Backend.generate] at done
  split at done
  · cases emitted : emit schema with
    | error error => simp [Backend.ofEmit, emitted, Outcome.ofExcept] at done
    | ok others =>
        simp only [Backend.ofEmit, emitted, Outcome.ofExcept, Outcome.done.injEq] at done
        rw [done]
  · cases done

/-- The method that Go declares for a record type has a statement for each of its checks. -/
theorem statements_of_declare {config : GoTypes} (validate : config.validate = true)
    {schema : Schema} {model : Model} (checked : model.isChecked = true)
    {declared : GoTypes.Declared} (made : config.declare schema model = .ok declared) :
    ∃ checks, schema.checks model.fields = .ok checks ∧
      declared.statements = some (checks.map GoValidation.Statement.ofCheck) := by
  obtain ⟨_, _, made⟩ := Json.exists_of_bind_eq_ok made
  simp only [validate, checked, Bool.and_self, if_true] at made
  obtain ⟨checks, has, made⟩ := Json.exists_of_bind_eq_ok made
  obtain rfl := Except.ok.inj made
  exact ⟨checks, has, rfl⟩

/-- The methods that Rust declares for a record type have the statements of its checks. -/
theorem validation_of_declare {config : RustTypes} (validate : config.validate = true)
    {schema : Schema} {model : Model} (checked : model.isChecked = true)
    {declared : RustTypes.Declared} (made : config.declare schema model = .ok declared) :
    ∃ checks, schema.checks model.fields = .ok checks ∧
      declared.validation = some (.ofChecks checks) := by
  obtain ⟨_, _, made⟩ := Json.exists_of_bind_eq_ok made
  simp only [validate, checked, Bool.and_self, if_true] at made
  obtain ⟨checks, has, made⟩ := Json.exists_of_bind_eq_ok made
  obtain rfl := Except.ok.inj made
  exact ⟨checks, has, rfl⟩

/-- Where types are generated with validation, every record type that is read from requests has its
checks. -/
theorem exists_checks_of_done {target : Target} (validates : target.validates = true)
    {schema : Schema} {files : List GeneratedFile}
    (done : target.backend.generate schema = .done files) {model : Model}
    (listed : model ∈ schema.models) (checked : model.isChecked = true) :
    ∃ checks, schema.checks model.fields = .ok checks := by
  cases target with
  | goTypes config =>
      obtain ⟨_, made, _⟩ := Json.exists_of_bind_eq_ok (emit_of_generate done)
      obtain ⟨_, made, _⟩ := Json.exists_of_bind_eq_ok made
      obtain ⟨_, made⟩ := exists_of_mapM_eq_ok made model listed
      obtain ⟨checks, has, _⟩ := statements_of_declare validates checked made
      exact ⟨checks, has⟩
  | rustTypes config =>
      obtain ⟨_, made, _⟩ := Json.exists_of_bind_eq_ok (emit_of_generate done)
      obtain ⟨_, made, _⟩ := Json.exists_of_bind_eq_ok made
      obtain ⟨_, made⟩ := exists_of_mapM_eq_ok made model listed
      obtain ⟨checks, has, _⟩ := validation_of_declare validates checked made
      exact ⟨checks, has⟩
  | _ => cases validates

/-- The types that are generated with validation have the checks of their fields. -/
theorem checks_of_done {target : Target} (validates : target.validates = true)
    {schema : Schema} {files : List GeneratedFile}
    (done : target.backend.generate schema = .done files) :
    ∀ entry ∈ schema.types, ∃ checks, schema.checks entry.2.properties = .ok checks := by
  intro entry declared
  have listed : Model.type entry.2 ∈ schema.models :=
    List.mem_append_left _ (List.mem_map.mpr ⟨entry, declared, rfl⟩)
  exact exists_checks_of_done validates done listed rfl

/-- A card in one of two states, the first of which is put in. -/
def card : TypeDecl :=
  { name := "card"
    properties := [
      { name := "state", type := .primitive .string, required := true,
        defaultValue := some (.string "open"), enumValues := ["open", "done"] }] }

def addCards : Method :=
  { name := "add_cards"
    inputs := [
      { name := "cards", type := .primitive .array, required := true,
        items := some (.reference (.toType "card")) }] }

def board : Schema :=
  { name := "board", version := "1", methods := [addCards], types := [("card", card)] }

theorem mem_models_board : Model.input addCards ∈ board.models := by
  simp [Schema.models, board, Method.models, addCards, Method.hasInputs]

theorem hasDistinctPlaces_board (record : Record) :
    HasDistinctPlaces board addCards.inputs record := by
  refine .intro (by decide) (by decide) fun field member type resolved item _ => ?_
  obtain rfl := List.mem_singleton.mp member
  obtain rfl : card = type := Option.some.inj (Except.ok.inj resolved)
  refine .intro (by decide) (by decide) fun field member type resolved => ?_
  obtain rfl := List.mem_singleton.mp member
  cases resolved

/-- Two cards, the second in a state that there is not. -/
def cards : Record := [("cards", .array [.record [], .record [("state", .text "lost")]])]

end Validating

end RpcSchema
