import RpcSchema.Proofs.Generation.Outlines
import RpcSchema.Proofs.Validation.SameVerdict

/-!
# What validation leaves behind

Validation changes the value it is given: it puts defaults in. In Rust this is a pass of its own
that goes over elements where they are, so that it reaches every depth. In Go the loop over an array
has a copy of each element in its variable. `Validate` puts defaults into the copy, which is dropped
at the end of its turn, and the array keeps its elements as they were read.
-/

namespace RpcSchema

namespace Validating

/-! ## Defaults at every depth -/

/-- The default that is put into a field. -/
def defaultOf (field : Field) : Option DefaultValue := field.defaultCheck.toOption.join

/-- The type of a field's elements, when that is a declared type. -/
def elementOf (schema : Schema) (field : Field) : Option TypeDecl :=
  (schema.element field).toOption.join

section Defaulted

variable (notion : Notion) (schema : Schema)

mutual
/-- A record with the defaults of its fields put in, and with those of its elements. -/
def defaulted (fields : List Field) : Record → Record
  | [] => []
  | (name, content) :: rest =>
    (name,
      match fields.find? fun field => field.name == name with
      | some field =>
        filled notion (defaultOf field) (contentDefaulted (elementOf schema field) content)
      | none => content) :: defaulted fields rest

/-- What a field holds with the defaults of its elements put in. -/
def contentDefaulted (type : Option TypeDecl) : Content → Content
  | .array items => .array (itemsDefaulted type items)
  | content => content

def itemsDefaulted (type : Option TypeDecl) : List Content → List Content
  | [] => []
  | item :: rest => itemDefaulted type item :: itemsDefaulted type rest

/-- An element, of a declared type if there is one, with its defaults put in. -/
def itemDefaulted : Option TypeDecl → Content → Content
  | some type, .record fields => .record (defaulted type.properties fields)
  | _, item => item
end

/-- What a field holds after all defaults are put in. -/
def settled (field : Field) (content : Content) : Content :=
  filled notion (defaultOf field) (contentDefaulted notion schema (elementOf schema field) content)

end Defaulted

/-- A value of a record type: it holds something for each field, in order, and the elements of its
arrays are values of the types that they are declared to have. -/
inductive IsValue (schema : Schema) : List Field → Record → Prop
  | intro {fields : List Field} {record : Record} :
      record.map (·.1) = fields.map Field.name →
      (∀ field ∈ fields, ∀ type, schema.element field = .ok (some type) →
        ∀ item ∈ (contentOf record field.name).items, item = .record item.fields) →
      (∀ field ∈ fields, ∀ type, schema.element field = .ok (some type) →
        ∀ item ∈ (contentOf record field.name).items, IsValue schema type.properties item.fields) →
      IsValue schema fields record

/-- What the `Validate` method of a Go type leaves in its receiver, with calls nested up to a depth.
The elements of an array are validated as copies, of which nothing is left. -/
def goLeaves (notion : Notion) (schema : Schema) :
    Nat → List Field → Record → Except Halt Record
  | 0, _, _ => .error .stuck
  | depth + 1, fields, record =>
    match schema.checks fields with
    | .error _ => .error .stuck
    | .ok checks =>
      ((checks.map GoValidation.Statement.ofCheck).foldlM
        (goStep notion fun place item =>
          (callAt GoValidation.placeOf fields schema (goLeaves notion schema depth) place item).map
            fun _ => ())
        (toStruct GoValidation.placeOf fields record)).map (ofStruct GoValidation.placeOf fields)

section

variable {notion : Notion} {schema : Schema}

theorem map_callAt {α β : Type} {call : List Field → Record → Except Halt α} {change : α → β}
    (placeOf : Field → String) (fields : List Field) (place : String) (item : Content) :
    (callAt placeOf fields schema call place item).map change =
      callAt placeOf fields schema (fun fields record => (call fields record).map change) place
        item := by
  unfold callAt
  split <;> rfl

/-- A method leaves something exactly when its verdict is that the value is accepted. -/
theorem goLeaves_verdict (depth : Nat) (fields : List Field) (record : Record) :
    (goLeaves notion schema depth fields record).map (fun _ => ()) =
      goValidate notion schema depth fields record := by
  induction depth generalizing fields record with
  | zero => rfl
  | succ depth ih =>
      rw [goLeaves, goValidate]
      cases schema.checks fields with
      | error refusal => rfl
      | ok checks =>
          simp only [map_callAt, ih]
          cases List.foldlM (goStep notion _) _ _ <;> rfl

/-! ## Statements of one field -/

theorem defaultOf_of_element {field : Field} {type : TypeDecl}
    (resolved : schema.element field = .ok (some type)) : defaultOf field = none := by
  unfold Schema.element at resolved
  split at resolved
  · cases resolved
  · next isArray =>
    have array : field.type = .primitive .array := by simpa [Field.isArray] using isArray
    unfold defaultOf Field.defaultCheck
    rw [array]
    cases field.defaultValue <;> rfl

theorem itemsDefaulted_eq_map (type : Option TypeDecl) (items : List Content) :
    itemsDefaulted notion schema type items = items.map (itemDefaulted notion schema type) := by
  induction items with
  | nil => rfl
  | cons item rest ih => rw [itemsDefaulted, ih, List.map_cons]

/-- Without a declared type the elements have no defaults. -/
theorem contentDefaulted_none (content : Content) :
    contentDefaulted notion schema none content = content := by
  cases content with
  | array items =>
      have same : itemDefaulted notion schema none = id := by
        funext item
        cases item <;> rfl
      rw [contentDefaulted, itemsDefaulted_eq_map, same, List.map_id]
  | missing | text | boolean | integer | float | timestamp | object | record => rfl

section Field

variable {field : Field} {checks : List Check} (listed : schema.fieldChecks field = .ok checks)
  {struct left : Struct}
include listed

/-- The checks of a field leave its default in Go, and its elements as they are. -/
theorem goStep_leaves {visit : String → Content → Except Halt Unit}
    (done : (checks.map GoValidation.Statement.ofCheck).foldlM (goStep notion visit) struct =
      .ok left) :
    left = Function.update struct (GoValidation.placeOf field)
      (filled notion (defaultOf field) (struct (GoValidation.placeOf field))) := by
  obtain ⟨value, element, put, -, rfl⟩ := exists_of_fieldChecks listed
  have default : defaultOf field = value := by rw [defaultOf, put]; rfl
  rw [List.map_append, List.map_append, List.foldlM_append, List.foldlM_append,
    foldlM_goStep_default, Json.bind_of_eq_ok rfl,
    foldlM_goStep_rules fun rule => rule_cases] at done
  obtain ⟨between, ruled, done⟩ := Json.exists_of_bind_eq_ok done
  obtain ⟨-, -, rfl⟩ := Json.exists_of_map_eq_ok ruled
  rw [default]
  cases element with
  | none =>
      rw [Option.toList_none, List.map_nil, List.map_nil, List.foldlM_nil] at done
      exact eq_of_pure_eq_ok done
  | some type =>
      rw [Option.toList_some, List.map_singleton, List.map_singleton, List.foldlM_cons] at done
      obtain ⟨after, stepped, done⟩ := Json.exists_of_bind_eq_ok done
      rw [GoValidation.Statement.ofCheck, goStep] at stepped
      obtain ⟨-, -, rfl⟩ := Json.exists_of_map_eq_ok stepped
      rw [List.foldlM_nil] at done
      exact eq_of_pure_eq_ok done

/-- The first pass in Rust leaves in a field its default, and in its elements theirs. -/
theorem defaultStep_leaves {change : String → Content → Except Halt Content}
    (each : ∀ type, schema.element field = .ok (some type) →
      ∀ item ∈ (struct (RustValidation.placeOf field)).items,
        ∀ changed, change (RustValidation.placeOf field) item = .ok changed →
          changed = itemDefaulted notion schema (some type) item)
    (done : (checks.flatMap RustValidation.DefaultStatement.ofCheck).foldlM
      (defaultStep notion change) struct = .ok left) :
    left = Function.update struct (RustValidation.placeOf field)
      (settled notion schema field (struct (RustValidation.placeOf field))) := by
  obtain ⟨value, element, put, resolved, rfl⟩ := exists_of_fieldChecks listed
  have default : defaultOf field = value := by rw [defaultOf, put]; rfl
  have ofElements : elementOf schema field = element := by rw [elementOf, resolved]; rfl
  rw [List.flatMap_append, List.flatMap_append, List.foldlM_append, List.foldlM_append,
    foldlM_defaultStep_default, flatMap_defaults_rules fun rule => rule_cases] at done
  change List.foldlM _ _ _ = _ at done
  rw [settled, ofElements]
  cases element with
  | none =>
      rw [contentDefaulted_none, default]
      exact eq_of_pure_eq_ok done
  | some type =>
      -- Arrays have no defaults of their own, so the elements are those that were read.
      rw [defaultOf_of_element resolved] at default ⊢
      subst default
      rw [Option.toList_some, List.map_singleton, List.flatMap_singleton,
        RustValidation.DefaultStatement.ofCheck, List.foldlM_cons] at done
      obtain ⟨after, stepped, done⟩ := Json.exists_of_bind_eq_ok done
      cases done
      obtain ⟨changed, changes, rfl⟩ := Json.exists_of_map_eq_ok stepped
      simp only [filled, Option.elim_none, Function.update_eq_self] at changes ⊢
      refine congrArg (Function.update struct _) ?_
      cases content : struct (RustValidation.placeOf field) with
      | array items =>
          rw [content] at each changes
          obtain ⟨results, mapped, rfl⟩ := Json.exists_of_map_eq_ok changes
          have same : results.map id = items.map _ := map_of_mapM_of_mem (each type resolved) mapped
          rw [← List.map_id results, same, contentDefaulted, itemsDefaulted_eq_map]
      | missing | text | boolean | integer | float | timestamp | object | record =>
          rw [content] at changes
          exact (Except.ok.inj changes).symm

end Field

/-! ## Records -/

/-- When the statements of each field change its own place only, and that in a way that is known,
all of them together leave in its place what they leave there alone. -/
theorem left_of_foldlM {σ : Type} {step : Struct → σ → Except Halt Struct}
    {statements : Check → List σ} {placeOf : Field → String} (known : Field → Content → Content)
    {fields : List Field} {checks : List Check} (listed : schema.checks fields = .ok checks)
    (places : (fields.map placeOf).Nodup) {struct left : Struct}
    (own : ∀ field ∈ fields, ∀ checks, schema.fieldChecks field = .ok checks →
      ∀ before after : Struct, before (placeOf field) = struct (placeOf field) →
        (checks.flatMap statements).foldlM step before = .ok after →
        after = Function.update before (placeOf field) (known field (before (placeOf field))))
    (done : (checks.flatMap statements).foldlM step struct = .ok left) :
    (∀ field ∈ fields, left (placeOf field) = known field (struct (placeOf field))) ∧
      ∀ place, place ∉ fields.map placeOf → left place = struct place := by
  induction fields generalizing checks struct with
  | nil =>
      obtain rfl := Except.ok.inj listed
      rw [List.flatMap_nil, List.foldlM_nil] at done
      obtain rfl := eq_of_pure_eq_ok done
      exact ⟨fun field member => absurd member List.not_mem_nil, fun _ _ => rfl⟩
  | cons field rest ih =>
      obtain ⟨first, firstListed, listed⟩ := Json.exists_of_bind_eq_ok listed
      obtain ⟨others, othersListed, listed⟩ := Json.exists_of_bind_eq_ok listed
      obtain rfl := Except.ok.inj listed
      obtain ⟨isNew, places⟩ := List.nodup_cons.mp places
      rw [List.flatMap_append, List.foldlM_append] at done
      obtain ⟨between, firstDone, done⟩ := Json.exists_of_bind_eq_ok done
      obtain rfl := own field List.mem_cons_self first firstListed struct between rfl firstDone
      have keeps := update_of_new isNew struct (known field (struct (placeOf field)))
      obtain ⟨inRest, elsewhere⟩ := ih othersListed places
        (fun other member checks listed before after same =>
          own other (List.mem_cons_of_mem _ member) checks listed before after
            (same.trans (keeps other member))) done
      refine ⟨fun other member => ?_, fun place outside => ?_⟩
      · rcases List.mem_cons.mp member with rfl | later
        · rw [elsewhere _ isNew, Function.update_self]
        · rw [inRest other later, keeps other later]
      · rw [List.map_cons, List.mem_cons, not_or] at outside
        rw [elsewhere place outside.2, Function.update_of_ne outside.1]

/-- What Go leaves of a record: each field has its default, and the elements are as they were. -/
theorem eq_of_goLeaves {depth : Nat} {fields : List Field} {record left : Record}
    (places : (fields.map GoValidation.placeOf).Nodup)
    (done : goLeaves notion schema depth fields record = .ok left) :
    left = fields.map fun field =>
      (field.name, filled notion (defaultOf field) (contentOf record field.name)) := by
  cases depth with
  | zero => cases done
  | succ depth =>
      rw [goLeaves] at done
      cases listed : schema.checks fields with
      | error refusal => simp only [listed, reduceCtorEq] at done
      | ok checks =>
          simp only [listed, List.map_eq_flatMap] at done
          obtain ⟨struct, run, rfl⟩ := Json.exists_of_map_eq_ok done
          obtain ⟨left, -⟩ := left_of_foldlM
            (fun field => filled notion (defaultOf field)) listed places
            (fun field _ checks listed before after _ done =>
              goStep_leaves listed (by rwa [List.map_eq_flatMap])) run
          refine List.map_congr_left fun field member => ?_
          rw [left field member, toStruct_placeOf places member]

/-- A record is told by what it holds for each of its fields. -/
theorem IsValue.eq_map {fields : List Field} {record : Record} (value : IsValue schema fields record)
    (names : (fields.map Field.name).Nodup) :
    record = fields.map fun field => (field.name, contentOf record field.name) := by
  obtain ⟨keys, -, -⟩ := value
  have entries : record.map (fun entry => (entry.1, contentOf record entry.1)) = record := by
    refine (List.map_congr_left fun entry member => ?_).trans (List.map_id record)
    rw [contentOf, Json.lookup_eq_some_of_mem (keys ▸ names) member, Option.getD_some, id]
  calc record
      = (record.map (·.1)).map fun name => (name, contentOf record name) := by
        rw [List.map_map]; exact entries.symm
    _ = fields.map fun field => (field.name, contentOf record field.name) := by
        rw [keys, List.map_map]; rfl

theorem defaulted_eq_map (fields : List Field) (record : Record) :
    defaulted notion schema fields record = record.map fun entry =>
      (entry.1, match fields.find? fun field => field.name == entry.1 with
        | some field => settled notion schema field entry.2
        | none => entry.2) := by
  induction record with
  | nil => rfl
  | cons entry rest ih =>
      rw [defaulted, ih, List.map_cons]
      rfl

theorem IsValue.defaulted_eq {fields : List Field} {record : Record}
    (value : IsValue schema fields record) (names : (fields.map Field.name).Nodup) :
    defaulted notion schema fields record = fields.map fun field =>
      (field.name, settled notion schema field (contentOf record field.name)) := by
  rw [defaulted_eq_map]
  nth_rewrite 1 [value.eq_map names]
  rw [List.map_map]
  refine List.map_congr_left fun field member => ?_
  rw [Function.comp_apply, find?_of_nodup names member]

/-- What the first pass in Rust leaves of a record: the defaults are put in at every depth. -/
theorem eq_of_applyDefaults {bound : Nat} {fields : List Field} {record changed : Record}
    (value : IsValue schema fields record) (distinct : HasDistinctPlaces schema fields record)
    (done : applyDefaults notion schema bound fields record = .ok changed) :
    changed = defaulted notion schema fields record := by
  induction bound generalizing fields record changed with
  | zero => cases done
  | succ bound ih =>
      have names := distinct.nodup_names
      obtain ⟨-, places, nested⟩ := distinct
      rw [value.defaulted_eq names]
      obtain ⟨-, areRecords, areValues⟩ := value
      rw [applyDefaults] at done
      cases listed : schema.checks fields with
      | error refusal => simp only [listed, reduceCtorEq] at done
      | ok checks =>
          simp only [listed] at done
          obtain ⟨struct, run, rfl⟩ := Json.exists_of_map_eq_ok done
          have each : ∀ field ∈ fields, ∀ type, schema.element field = .ok (some type) →
              ∀ item ∈ (toStruct RustValidation.placeOf fields record
                (RustValidation.placeOf field)).items,
                ∀ changed, callAt RustValidation.placeOf fields schema
                  (fun fields record =>
                    (applyDefaults notion schema bound fields record).map .record)
                  (RustValidation.placeOf field) item = .ok changed →
                changed = itemDefaulted notion schema (some type) item := by
            intro field member type resolved item inside changed done
            rw [toStruct_placeOf places member] at inside
            rw [callAt_placeOf places member resolved] at done
            obtain ⟨fieldsLeft, elementDone, rfl⟩ := Json.exists_of_map_eq_ok done
            rw [ih (areValues field member type resolved item inside)
              (nested field member type resolved item inside) elementDone,
              areRecords field member type resolved item inside]
            rfl
          obtain ⟨left, -⟩ := left_of_foldlM (settled notion schema) listed places
            (fun field member checks listed before after same =>
              defaultStep_leaves listed (same ▸ each field member)) run
          refine List.map_congr_left fun field member => ?_
          rw [left field member, toStruct_placeOf places member]

/-- Putting in the defaults of elements changes nothing exactly when none of them lacks one. -/
theorem contentDefaulted_eq_iff {type : TypeDecl} {content : Content} :
    contentDefaulted notion schema (some type) content = content ↔
      ∀ item ∈ content.items, itemDefaulted notion schema (some type) item = item := by
  cases content with
  | array items =>
      rw [contentDefaulted, itemsDefaulted_eq_map, Content.array.injEq]
      nth_rewrite 2 [← List.map_id items]
      exact List.map_inj_left
  | missing | text | boolean | integer | float | timestamp | object | record =>
      exact ⟨fun _ item member => absurd member List.not_mem_nil, fun _ => rfl⟩

/-- A field is left the same in either language exactly when none of its elements lacks a default. -/
theorem filled_eq_settled_iff (field : Field) (content : Content) :
    filled notion (defaultOf field) content = settled notion schema field content ↔
      ∀ type, schema.element field = .ok (some type) →
        ∀ item ∈ content.items, itemDefaulted notion schema (some type) item = item := by
  unfold settled elementOf
  rcases resolved : schema.element field with refusal | _ | type
  · simp only [Except.toOption, Option.join_none, contentDefaulted_none, reduceCtorEq,
      IsEmpty.forall_iff, implies_true]
  · simp only [Except.toOption, Option.join_some, contentDefaulted_none, Except.ok.injEq,
      reduceCtorEq, IsEmpty.forall_iff, implies_true]
  · rw [defaultOf_of_element resolved]
    simp only [filled, Option.elim_none, Except.toOption, Option.join_some, Except.ok.injEq,
      Option.some.injEq, forall_eq', ← contentDefaulted_eq_iff]
    exact eq_comm

end

/-- What validation leaves of a value that it accepts. In Rust the defaults are put in at every
depth. In Go they are put into the fields of the value itself, and the elements of its arrays are as
they were read. So the two are the same exactly when no element, at any depth, lacks a default. -/
theorem values_left (notion : Notion) {target : Target} (validates : target.validates = true)
    {schema : Schema} {files : List GeneratedFile}
    (done : target.backend.generate schema = .done files) {model : Model}
    (listed : model ∈ schema.models) (checked : model.isChecked = true) {record : Record}
    (value : IsValue schema model.fields record)
    (distinct : HasDistinctPlaces schema model.fields record) {bound : Nat}
    (enough : depthFields record < bound)
    (accepted : goValidate notion schema bound model.fields record = .ok ()) :
    applyDefaults notion schema bound model.fields record =
        .ok (defaulted notion schema model.fields record) ∧
      ∃ left, goLeaves notion schema bound model.fields record = .ok left ∧
        (left = model.fields.map fun field =>
          (field.name, filled notion (defaultOf field) (contentOf record field.name))) ∧
        (left = defaulted notion schema model.fields record ↔
          ∀ field ∈ model.fields, ∀ type, schema.element field = .ok (some type) →
            ∀ item ∈ (contentOf record field.name).items,
              itemDefaulted notion schema (some type) item = item) := by
  obtain ⟨checks, made⟩ := exists_checks_of_done validates done listed checked
  obtain ⟨changed, -, changes, -, -⟩ :=
    record_agrees notion (checks_of_done validates done) made distinct enough
  have names := distinct.nodup_names
  obtain ⟨goPlaces, -, -⟩ := id distinct
  obtain ⟨left, leaves, -⟩ := Json.exists_of_map_eq_ok ((goLeaves_verdict _ _ _).trans accepted)
  obtain rfl := eq_of_applyDefaults value distinct changes
  refine ⟨changes, left, leaves, eq_of_goLeaves goPlaces leaves, ?_⟩
  rw [eq_of_goLeaves goPlaces leaves, value.defaulted_eq names, List.map_inj_left]
  simp only [Prod.mk.injEq, true_and, filled_eq_settled_iff]

/-- A card without a state, for which there is a default. -/
def newCards : Record := [("cards", .array [.record [("state", .missing)]])]

theorem values_left_newCards :
    IsValue board addCards.inputs newCards ∧ HasDistinctPlaces board addCards.inputs newCards ∧
      applyDefaults .usual board 3 addCards.inputs newCards =
        .ok [("cards", .array [.record [("state", .text "open")]])] ∧
      ∃ left, goLeaves .usual board 3 addCards.inputs newCards = .ok left ∧ left = newCards := by
  have value : IsValue board addCards.inputs newCards := by
    refine .intro rfl (fun field member type resolved item inside => ?_)
      fun field member type resolved item inside => ?_
    all_goals
      obtain rfl := List.mem_singleton.mp member
      obtain rfl : card = type := Option.some.inj (Except.ok.inj resolved)
      obtain rfl := List.mem_singleton.mp inside
    · rfl
    · refine .intro rfl (fun field member type resolved => ?_) fun field member type resolved => ?_
      all_goals
        obtain rfl := List.mem_singleton.mp member
        cases resolved
  have distinct := hasDistinctPlaces_board newCards
  obtain ⟨files, done⟩ : ∃ files,
      (Target.goTypes { validate := true }).backend.generate board = .done files := ⟨_, rfl⟩
  obtain ⟨changes, left, leaves, isLeft, -⟩ :=
    values_left .usual rfl done mem_models_board rfl value distinct
      (by decide : depthFields newCards < 3) rfl
  exact ⟨value, distinct, changes, left, leaves, isLeft⟩

/-- The two do differ: the card that Go leaves has no state, and the one that Rust leaves has. -/
theorem values_differ_newCards :
    (∃ files, (Target.goTypes { validate := true }).backend.generate board = .done files) ∧
      goValidate .usual board 3 addCards.inputs newCards = .ok () ∧
      ∃ left changed, goLeaves .usual board 3 addCards.inputs newCards = .ok left ∧
        applyDefaults .usual board 3 addCards.inputs newCards = .ok changed ∧ left ≠ changed := by
  refine ⟨⟨_, rfl⟩, rfl, newCards, [("cards", .array [.record [("state", .text "open")]])],
    rfl, rfl, fun same => ?_⟩
  simp [newCards] at same

end Validating

end RpcSchema
