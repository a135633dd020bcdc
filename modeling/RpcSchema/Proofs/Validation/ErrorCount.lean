import Mathlib.Algebra.BigOperators.Group.Finset.Basic
import RpcSchema.Pipeline.Run
import RpcSchema.Proofs.Schema.Owners

/-!
# How many errors the standard lints find

The faults of a schema are counted without the lints: references that lead nowhere, names that
occur again, enums on fields that are no strings, arrays without items. Each standard lint records
one error for each fault of its kind, so the validation phase records exactly as many errors as
there are faults, and it succeeds exactly when there are none.
-/

namespace RpcSchema

open Finset

/-! ## Faults -/

/-- How often names occur beyond their first time: over all names, the occurrences less one. -/
def surplus (names : List String) : Nat := ∑ name ∈ names.toFinset, (names.count name - 1)

namespace Field

/-- Whether the field has an enum and is no string. -/
def hasMisplacedEnum (field : Field) : Bool :=
  decide (field.enumValues ≠ [] ∧ field.type ≠ .primitive .string)

/-- Whether the field is an array that does not declare its items. -/
def lacksItems (field : Field) : Bool :=
  decide (field.type = .primitive .array ∧ field.items = none)

end Field

namespace Schema

/-- The references of all fields that name no declared type; the reference of a field's own type
and that of its items count one each. -/
def danglingCount (schema : Schema) : Nat :=
  (schema.allFields.flatMap Field.references).countP fun target =>
    decide (target.name ∉ schema.typeKeys)

/-- The method names that occur again. -/
def surplusMethods (schema : Schema) : Nat := surplus (schema.methods.map Method.name)

/-- The field names that occur again within their owner. -/
def surplusFields (schema : Schema) : Nat :=
  (schema.owners.map fun fields => surplus (fields.map Field.name)).sum

/-- Everything that is wrong with a schema. -/
def faultCount (schema : Schema) : Nat :=
  schema.danglingCount + schema.surplusMethods + schema.surplusFields +
    schema.allFields.countP Field.hasMisplacedEnum + schema.allFields.countP Field.lacksItems

end Schema

/-! ## Repeated names -/

/-- A name is reported once for each time it occurs, but for the first time unless it was seen
before. -/
theorem count_repeatedAfter (seen names : List String) (name : String) :
    (repeatedAfter seen names).count name =
      names.count name - if name ∈ seen then 0 else 1 := by
  induction names generalizing seen with
  | nil => simp [repeatedAfter]
  | cons head rest ih =>
      -- A new head is seen by the rest, which then reports every further time.
      by_cases known : head ∈ seen
      · by_cases same : head = name
        · subst same
          simp [repeatedAfter, known, ih]
        · simp [repeatedAfter, known, ih, same]
      · by_cases same : head = name
        · subst same
          simp [repeatedAfter, known, ih]
        · simp [repeatedAfter, known, ih, same, Ne.symm same]

theorem count_repeated (names : List String) (name : String) :
    (repeated names).count name = names.count name - 1 := by
  simp [repeated, count_repeatedAfter]

theorem mem_of_mem_repeated {names : List String} {name : String}
    (member : name ∈ repeated names) : name ∈ names := by
  have positive := List.count_pos_iff.mpr member
  rw [count_repeated] at positive
  exact List.count_pos_iff.mp (by omega)

theorem length_repeated (names : List String) : (repeated names).length = surplus names := by
  have covered : ∀ name ∈ (repeated names : Multiset String), name ∈ names.toFinset := by
    intro name member
    exact List.mem_toFinset.mpr (mem_of_mem_repeated (Multiset.mem_coe.mp member))
  calc
    (repeated names).length
        = ∑ name ∈ names.toFinset, (repeated names : Multiset String).count name := by
          rw [Multiset.sum_count_eq_card covered, Multiset.coe_card]
    _ = surplus names := by
          simp only [Multiset.coe_count, count_repeated, surplus]

example : surplus ["id", "age", "id", "id", "age"] = 3 := by decide

/-! ## Errors of each lint -/

/-- The number of errors among some remarks. -/
def errorCount (diagnostics : List Diagnostic) : Nat := diagnostics.countP Diagnostic.isError

@[simp] theorem errorCount_append (before after : List Diagnostic) :
    errorCount (before ++ after) = errorCount before + errorCount after :=
  List.countP_append

@[simp] theorem errorCount_flatMap {α : Type} (items : List α) (remarks : α → List Diagnostic) :
    errorCount (items.flatMap remarks) = (items.map fun item => errorCount (remarks item)).sum :=
  List.countP_flatMap

/-- Where every item gives an error, there are as many errors as items. -/
theorem errorCount_map_error {α : Type} (items : List α) (message location : α → String) :
    errorCount (items.map fun item => remark .error (message item) (location item)) =
      items.length := by
  rw [errorCount, List.countP_map, List.countP_eq_length]
  exact fun _ _ => rfl

theorem errorCount_map_warning {α : Type} (items : List α) (message location : α → String) :
    errorCount (items.map fun item => remark .warning (message item) (location item)) = 0 := by
  rw [errorCount, List.countP_map, List.countP_eq_zero]
  exact fun _ _ refused => Bool.noConfusion refused

/-- What is added up over the located fields is added up over the fields. -/
theorem sum_fields (schema : Schema) (weight : Field → Nat) :
    (schema.fields.map fun entry => weight entry.2).sum = (schema.allFields.map weight).sum := by
  rw [← Schema.map_snd_fields, List.map_map]
  rfl

theorem errorCount_danglingReference (schema : Schema) :
    errorCount (Lint.danglingReference.check schema) = schema.danglingCount := by
  have leadsNowhere : (fun target => (schema.lookup? target).isNone) =
      fun target => decide (target.name ∉ schema.typeKeys) := by
    funext target
    rw [Bool.eq_iff_iff, decide_eq_true_iff]
    exact schema.lookup?_isNone_iff target
  calc
    errorCount (Lint.danglingReference.check schema)
        = schema.danglingReferences.length := errorCount_map_error _ _ _
    _ = (schema.fields.map fun entry =>
          entry.2.references.countP fun target => (schema.lookup? target).isNone).sum := by
          simp only [Schema.danglingReferences, List.length_flatMap, List.length_map,
            List.countP_eq_length_filter]
    _ = schema.danglingCount := by
          rw [leadsNowhere, sum_fields schema fun field => field.references.countP _,
            Schema.danglingCount, List.countP_flatMap]
          rfl

theorem errorCount_unknownGroup_omit (schema : Schema) :
    errorCount ((Lint.unknownGroup .omit).check schema) = 0 :=
  errorCount_map_warning _ _ _

theorem errorCount_duplicateMethod (schema : Schema) :
    errorCount (Lint.duplicateMethod.check schema) = schema.surplusMethods := by
  rw [Schema.surplusMethods, ← length_repeated]
  exact errorCount_map_error _ _ _

theorem errorCount_duplicateFields (owner : String) (fields : List Field) :
    errorCount (Lint.duplicateFields owner fields) = surplus (fields.map Field.name) := by
  rw [← length_repeated]
  exact errorCount_map_error _ _ _

theorem errorCount_duplicateProperty (schema : Schema) :
    errorCount (Lint.duplicateProperty.check schema) = schema.surplusFields := by
  rw [Schema.surplusFields, Schema.sum_owners schema fun fields => surplus (fields.map Field.name)]
  simp only [Lint.duplicateProperty, errorCount_append, errorCount_flatMap,
    errorCount_duplicateFields]

theorem sum_map_one {α : Type} (items : List α) (counts : α → Bool) :
    (items.map fun item => if counts item then 1 else 0).sum = items.countP counts := by
  induction items with
  | nil => rfl
  | cons item rest ih => simp [List.countP_cons, ih, Nat.add_comm]

theorem errorCount_fieldShapeRemarks (location : String) (field : Field) :
    errorCount (Lint.fieldShapeRemarks location field) =
      (if field.hasMisplacedEnum then 1 else 0) + if field.lacksItems then 1 else 0 := by
  have misplaced : (!field.enumValues.isEmpty && field.type != .primitive .string) =
      field.hasMisplacedEnum := by
    rw [Bool.eq_iff_iff]
    simp [Field.hasMisplacedEnum]
  have lacking : (field.isArray && field.items.isNone) = field.lacksItems := by
    rw [Bool.eq_iff_iff]
    simp [Field.isArray, Field.lacksItems]
  rw [Lint.fieldShapeRemarks, misplaced, lacking, errorCount_append]
  congr 1 <;> split <;> rfl

theorem errorCount_fieldShape (schema : Schema) :
    errorCount (Lint.fieldShape.check schema) =
      schema.allFields.countP Field.hasMisplacedEnum +
        schema.allFields.countP Field.lacksItems := by
  rw [Lint.fieldShape, errorCount_flatMap]
  simp only [errorCount_fieldShapeRemarks]
  rw [sum_fields schema fun field =>
      (if field.hasMisplacedEnum then 1 else 0) + if field.lacksItems then 1 else 0,
    List.sum_map_add, sum_map_one, sum_map_one]

theorem errorCount_emptyDescription (schema : Schema) :
    errorCount (Lint.emptyDescription.check schema) = 0 := by
  rw [Lint.emptyDescription, errorCount_append, errorCount_map_warning, errorCount_map_warning]

/-! ## The whole phase -/

/-- No lint hides a fault from another: the errors of the standard lints add up. -/
theorem errorCount_standard (schema : Schema) :
    errorCount (Lint.standard.flatMap fun lint => lint.check schema) = schema.faultCount := by
  simp only [Lint.standard, errorCount_flatMap, List.map_cons, List.map_nil, List.sum_cons,
    List.sum_nil, errorCount_danglingReference, errorCount_unknownGroup_omit,
    errorCount_duplicateMethod, errorCount_duplicateProperty, errorCount_fieldShape,
    errorCount_emptyDescription, Schema.faultCount]
  omega

/-- The errors of a context are those that were there before the phase and those of its lints. -/
theorem ValidatePhase.length_errors_run (phase : ValidatePhase) (context : Context) :
    (phase.toPhase.run context).1.errors.length =
      context.errors.length +
        errorCount (phase.lints.flatMap fun lint => lint.check context.schema) := by
  simp only [ValidatePhase.toPhase, Context.errors, List.filter_append, List.length_append,
    errorCount, List.countP_eq_length_filter]

/-- The phase succeeds exactly when its context ends without errors; warnings do not matter. -/
theorem ValidatePhase.run_eq_none_iff (phase : ValidatePhase) (context : Context) :
    (phase.toPhase.run context).2 = none ↔ (phase.toPhase.run context).1.errors.length = 0 := by
  have decided : (phase.toPhase.run context).2 = failure? (phase.toPhase.run context).1 := rfl
  rw [decided, failure?, Context.hasErrors, List.length_eq_zero_iff]
  cases (phase.toPhase.run context).1.errors with
  | nil => simp
  | cons diagnostic rest => simp

/-- The standard validation records one error for each fault of a schema, and it succeeds exactly
when the schema has no fault. -/
theorem standard_validation_counts_faults (schema : Schema) :
    (ValidatePhase.standard.toPhase.run (.ofSchema schema)).1.errors.length = schema.faultCount ∧
      ((ValidatePhase.standard.toPhase.run (.ofSchema schema)).2 = none ↔
        schema.faultCount = 0) := by
  have counted : (ValidatePhase.standard.toPhase.run (.ofSchema schema)).1.errors.length =
      schema.faultCount := by
    rw [ValidatePhase.length_errors_run, ValidatePhase.standard, Context.ofSchema,
      errorCount_standard]
    exact Nat.zero_add _
  exact ⟨counted, by rw [ValidatePhase.run_eq_none_iff, counted]⟩

end RpcSchema
