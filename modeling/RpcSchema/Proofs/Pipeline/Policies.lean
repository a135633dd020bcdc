import RpcSchema.Proofs.Pipeline.Visits

/-!
# Policies for undeclared groups

A validation can be told several times what becomes of methods whose group is not declared, and
lints may have judged that before. The last word counts: one lint remains that judges groups, it is
behind all others, and these stay as they are. So two validations that differ in their words on
groups make the same remarks, up to the severity of those on undeclared groups, and a schema that the
lenient one lets pass is held up by the strict one exactly when a method of it names such a group.
-/

namespace RpcSchema

/-! ## One choice after another -/

namespace ValidatePhase

variable (phase : ValidatePhase)

/-- The lints that do not judge undeclared groups. -/
def otherLints : List Lint :=
  phase.lints.filter fun lint => lint.name != Lint.unknownGroupName

/-- The phase after some choices of a policy and a last one. -/
def choosing (earlier : List GroupPolicy) (last : GroupPolicy) : ValidatePhase :=
  (earlier.foldl groupPolicy phase).groupPolicy last

/-- A choice leaves the other lints as they are, in their order. -/
theorem otherLints_groupPolicy (policy : GroupPolicy) :
    (phase.groupPolicy policy).otherLints = phase.otherLints := by
  show (phase.otherLints ++ [Lint.unknownGroup policy]).filter _ = phase.otherLints
  unfold otherLints
  rw [List.filter_append, List.filter_filter]
  simp [Lint.unknownGroup]

theorem otherLints_foldl (policies : List GroupPolicy) :
    (policies.foldl groupPolicy phase).otherLints = phase.otherLints := by
  induction policies generalizing phase with
  | nil => rfl
  | cons policy rest ih => rw [List.foldl_cons, ih, otherLints_groupPolicy]

variable (earlier : List GroupPolicy) (last : GroupPolicy)

theorem lints_choosing :
    (phase.choosing earlier last).lints = phase.otherLints ++ [Lint.unknownGroup last] := by
  show (earlier.foldl groupPolicy phase).otherLints ++ [Lint.unknownGroup last] = _
  rw [otherLints_foldl]

theorem filter_lints_choosing :
    ((phase.choosing earlier last).lints.filter fun lint =>
      lint.name == Lint.unknownGroupName) = [Lint.unknownGroup last] := by
  have noOther : (phase.otherLints.filter fun lint => lint.name == Lint.unknownGroupName) = [] := by
    rw [List.filter_eq_nil_iff]
    intro lint member
    simpa using (List.mem_filter.mp member).2
  rw [lints_choosing, List.filter_append, noOther]
  simp [Lint.unknownGroup]

/-- The remarks on groups come behind those of the other lints. -/
theorem remarks_choosing (schema : Schema) :
    (phase.choosing earlier last).remarks schema =
      (phase.otherLints.flatMap fun lint => lint.check schema) ++
        (Lint.unknownGroup last).check schema := by
  unfold remarks
  rw [lints_choosing, List.flatMap_append, List.flatMap_singleton]

theorem diagnostics_choosing (context : Context) :
    ((phase.choosing earlier last).toPhase.run context).1.diagnostics =
      context.diagnostics ++ (phase.otherLints.flatMap fun lint => lint.check context.schema) ++
        (Lint.unknownGroup last).check context.schema := by
  show context.diagnostics ++ (phase.choosing earlier last).remarks context.schema = _
  rw [remarks_choosing, List.append_assoc]

end ValidatePhase

/-! ## Remarks on groups -/

/-- The remark, judged to be an error. -/
def Diagnostic.asError (diagnostic : Diagnostic) : Diagnostic :=
  { diagnostic with severity := .error }

/-- Every method that names a group names one that is declared. -/
def Schema.GroupsDeclared (schema : Schema) : Prop :=
  ∀ method ∈ schema.methods, method.group ≠ "" →
    ∃ group ∈ schema.groups, group.name = method.group

namespace Lint

variable (schema : Schema)

theorem check_unknownGroup_reject :
    (unknownGroup .reject).check schema =
      ((unknownGroup .omit).check schema).map Diagnostic.asError := by
  unfold unknownGroup
  rw [List.map_map]
  rfl

theorem severity_of_mem_unknownGroup {policy : GroupPolicy} {diagnostic : Diagnostic}
    (member : diagnostic ∈ (unknownGroup policy).check schema) :
    diagnostic.severity = policy.severity := by
  obtain ⟨method, -, rfl⟩ := List.mem_map.mp member
  rfl

theorem check_unknownGroup_eq_nil_iff (policy : GroupPolicy) :
    (unknownGroup policy).check schema = [] ↔ schema.GroupsDeclared := by
  show List.map _ _ = [] ↔ _
  rw [List.map_eq_nil_iff, List.filter_eq_nil_iff]
  unfold Schema.GroupsDeclared Schema.groupNamed?
  refine forall₂_congr fun method _ => ?_
  simp [List.find?_eq_none]

theorem errorCount_unknownGroup_reject :
    errorCount ((unknownGroup .reject).check schema) = 0 ↔ schema.GroupsDeclared := by
  rw [← check_unknownGroup_eq_nil_iff schema .reject, ← List.length_eq_zero_iff]
  unfold unknownGroup
  rw [List.length_map]
  exact Eq.congr_left (errorCount_map_error _ _ _)

end Lint

/-! ## A lenient and a strict validation -/

namespace ValidatePhase

variable (phase : ValidatePhase) (earlier others : List GroupPolicy)

/-- Where all groups are declared, the policy does not matter. -/
theorem run_choosing_of_declared {context : Context} (declared : context.schema.GroupsDeclared)
    (policy other : GroupPolicy) :
    (phase.choosing earlier policy).toPhase.run context =
      (phase.choosing others other).toPhase.run context := by
  have same : (phase.choosing earlier policy).remarks context.schema =
      (phase.choosing others other).remarks context.schema := by
    rw [remarks_choosing, remarks_choosing,
      (Lint.check_unknownGroup_eq_nil_iff _ policy).mpr declared,
      (Lint.check_unknownGroup_eq_nil_iff _ other).mpr declared]
  have run_eq : ∀ validation : ValidatePhase, validation.toPhase.run context =
      ({ context with diagnostics := context.diagnostics ++ validation.remarks context.schema },
        failure? { context with
          diagnostics := context.diagnostics ++ validation.remarks context.schema }) :=
    fun _ => rfl
  rw [run_eq, run_eq, same]

theorem run_choosing_reject_iff (context : Context) :
    ((phase.choosing others .reject).toPhase.run context).2 = none ↔
      ((phase.choosing earlier .omit).toPhase.run context).2 = none ∧
        context.schema.GroupsDeclared := by
  have strict := (phase.choosing others .reject).length_errors_run context
  have lenient := (phase.choosing earlier .omit).length_errors_run context
  rw [← remarks, remarks_choosing, errorCount_append] at strict lenient
  rw [errorCount_unknownGroup_omit] at lenient
  rw [run_eq_none_iff, run_eq_none_iff, strict, lenient,
    ← Lint.errorCount_unknownGroup_reject context.schema]
  omega

end ValidatePhase

theorem Pipeline.run_choosing_reject_iff (phase : ValidatePhase)
    (earlier others : List GroupPolicy) (phases : List Phase) (schema : Schema)
    (context : Context) :
    Pipeline.run ⟨phase.choosing others .reject, phases⟩ schema = .ok context ↔
      Pipeline.run ⟨phase.choosing earlier .omit, phases⟩ schema = .ok context ∧
        schema.GroupsDeclared := by
  by_cases declared : schema.GroupsDeclared
  · have same : (phase.choosing others .reject).toPhase.run (.ofSchema schema) =
        (phase.choosing earlier .omit).toPhase.run (.ofSchema schema) :=
      phase.run_choosing_of_declared others earlier declared .reject .omit
    rw [and_iff_left declared]
    unfold Pipeline.run runPhases
    rw [same]
  · -- The strict validation fails, so the phases behind it do not matter.
    have fails : ((phase.choosing others .reject).toPhase.run (.ofSchema schema)).2 ≠ none :=
      fun passes => declared ((phase.run_choosing_reject_iff earlier others _).mp passes).2
    obtain ⟨reason, failed⟩ := Option.ne_none_iff_exists'.mp fails
    unfold Pipeline.run
    rw [runPhases_cons_of_failure failed]
    constructor
    · intro ended
      cases ended
    · rintro ⟨-, isDeclared⟩
      exact absurd isDeclared declared

/-- However often a validation is told what becomes of methods whose group is not declared, one lint
judges that in the end, behind all others and by the last policy, and the others are as they were.
A lenient and a strict validation make the same remarks in one order, but that remarks on groups are
warnings of the one and errors of the other; and the strict one lets exactly those schemas pass that
the lenient one lets pass and whose methods name declared groups only, whatever was remarked before
and whatever phases come behind. -/
theorem group_policies_compared (phase : ValidatePhase) (earlier : List GroupPolicy) :
    (∀ last, (phase.choosing earlier last).lints =
        phase.otherLints ++ [Lint.unknownGroup last] ∧
      ((phase.choosing earlier last).lints.filter fun lint =>
        lint.name == Lint.unknownGroupName) = [Lint.unknownGroup last]) ∧
    ∀ (others : List GroupPolicy) (context : Context),
      (((phase.choosing earlier .omit).toPhase.run context).1.diagnostics =
          context.diagnostics ++ (phase.otherLints.flatMap fun lint => lint.check context.schema) ++
            (Lint.unknownGroup .omit).check context.schema ∧
        ((phase.choosing others .reject).toPhase.run context).1.diagnostics =
          context.diagnostics ++ (phase.otherLints.flatMap fun lint => lint.check context.schema) ++
            ((Lint.unknownGroup .omit).check context.schema).map Diagnostic.asError ∧
        ∀ diagnostic ∈ (Lint.unknownGroup .omit).check context.schema,
          diagnostic.severity = .warning) ∧
      (((phase.choosing others .reject).toPhase.run context).2 = none ↔
        ((phase.choosing earlier .omit).toPhase.run context).2 = none ∧
          context.schema.GroupsDeclared) ∧
      ∀ phases schema,
        Pipeline.run ⟨phase.choosing others .reject, phases⟩ schema = .ok context ↔
          Pipeline.run ⟨phase.choosing earlier .omit, phases⟩ schema = .ok context ∧
            schema.GroupsDeclared := by
  refine ⟨fun last => ⟨phase.lints_choosing earlier last,
    phase.filter_lints_choosing earlier last⟩, fun others context => ⟨⟨?_, ?_, ?_⟩, ?_, ?_⟩⟩
  · exact phase.diagnostics_choosing earlier .omit context
  · rw [← Lint.check_unknownGroup_reject]
    exact phase.diagnostics_choosing others .reject context
  · exact fun diagnostic member => Lint.severity_of_mem_unknownGroup context.schema member
  · exact phase.run_choosing_reject_iff earlier others context
  · intro phases schema
    exact Pipeline.run_choosing_reject_iff phase earlier others phases schema context

end RpcSchema
