import RpcSchema.Proofs.Validation.Acceptance

/-!
# Runs of a pipeline

A pipeline visits its phases in order, each with the context that the one before left, and no phase
behind one that fails. Where phases only add remarks, a run that comes to its end has the schema it
started from and the remarks of all phases in order. Remarks are judged by the validation alone: an
error that a later phase records and does not fail on is passed over.
-/

namespace RpcSchema

/-- A phase at work, and the context that it finds. -/
structure Visit where
  phase : Phase
  context : Context

namespace Visit

/-- Why the phase failed, if it did. -/
def failure? (visit : Visit) : Option String := (visit.phase.run visit.context).2

/-- The remarks that the phase added. -/
def added (visit : Visit) : List Diagnostic :=
  (visit.phase.run visit.context).1.diagnostics.drop visit.context.diagnostics.length

end Visit

/-- The phases that are visited from a context on. Behind a phase that fails there is none. -/
def visits : List Phase → Context → List Visit
  | [], _ => []
  | phase :: rest, context =>
    match phase.run context with
    | (_, some _) => [⟨phase, context⟩]
    | (left, none) => ⟨phase, context⟩ :: visits rest left

/-- A phase that adds remarks to the context and leaves what is there. -/
def Phase.OnlyAdds (phase : Phase) : Prop :=
  ∀ context, ∃ added,
    (phase.run context).1 = { context with diagnostics := context.diagnostics ++ added }

theorem Phase.onlyAdds_recording (name : String) (diagnostics : List Diagnostic)
    (failure : Option String) : (Phase.recording name diagnostics failure).OnlyAdds := by
  intro context
  refine ⟨diagnostics, ?_⟩
  show diagnostics.foldl Context.add context = _
  induction diagnostics generalizing context with
  | nil => rw [List.append_nil, List.foldl_nil]
  | cons diagnostic rest ih =>
      rw [List.foldl_cons, ih, Context.add, List.append_assoc, List.singleton_append]

theorem ValidatePhase.onlyAdds_toPhase (phase : ValidatePhase) : phase.toPhase.OnlyAdds :=
  fun context => ⟨phase.lints.flatMap fun lint => lint.check context.schema, rfl⟩

/-- What a phase leaves that only adds. -/
theorem Phase.OnlyAdds.run_eq {phase : Phase} (adds : phase.OnlyAdds) (context : Context) :
    (phase.run context).1 =
      { context with diagnostics := context.diagnostics ++ (Visit.mk phase context).added } := by
  obtain ⟨added, left⟩ := adds context
  have same : (Visit.mk phase context).added = added := by
    rw [Visit.added, left, List.drop_left]
  rw [same, left]

/-! ## One phase after another -/

section Phases

variable {phase : Phase} {rest : List Phase} {context : Context}

theorem visits_cons_of_failure {reason : String} (failed : (phase.run context).2 = some reason) :
    visits (phase :: rest) context = [⟨phase, context⟩] := by
  rw [visits]
  split
  · rfl
  · next passed => simp [passed] at failed

theorem visits_cons_of_success (passed : (phase.run context).2 = none) :
    visits (phase :: rest) context = ⟨phase, context⟩ :: visits rest (phase.run context).1 := by
  rw [visits]
  split
  · next failed => simp [failed] at passed
  · next ran => rw [ran]

theorem runPhases_cons_of_failure {reason : String}
    (failed : (phase.run context).2 = some reason) :
    runPhases (phase :: rest) context = .error reason := by
  rw [runPhases]
  split
  · next ran => simpa [ran] using failed
  · next passed => simp [passed] at failed

theorem runPhases_cons_of_success (passed : (phase.run context).2 = none) :
    runPhases (phase :: rest) context = runPhases rest (phase.run context).1 := by
  rw [runPhases]
  split
  · next failed => simp [failed] at passed
  · next ran => rw [ran]

end Phases

variable {phases : List Phase} {context : Context}

theorem map_phase_visits_isPrefix (phases : List Phase) (context : Context) :
    (visits phases context).map Visit.phase <+: phases := by
  induction phases generalizing context with
  | nil => exact List.nil_prefix
  | cons phase rest ih =>
      cases ran : (phase.run context).2 with
      | some reason =>
          rw [visits_cons_of_failure ran, List.map_singleton]
          exact ⟨rest, rfl⟩
      | none =>
          rw [visits_cons_of_success ran, List.map_cons]
          exact List.cons_prefix_cons.mpr ⟨rfl, ih _⟩

/-- A phase that fails is the last one that is visited. -/
theorem eq_nil_of_failure {before after : List Visit} {visit : Visit}
    (visited : visits phases context = before ++ visit :: after)
    (failed : visit.failure?.isSome) : after = [] := by
  induction phases generalizing context before with
  | nil => simp [visits] at visited
  | cons phase rest ih =>
      cases ran : (phase.run context).2 with
      | some reason =>
          rw [visits_cons_of_failure ran] at visited
          cases before with
          | nil => exact (List.cons.inj visited).2.symm
          | cons first before => simp at visited
      | none =>
          rw [visits_cons_of_success ran] at visited
          cases before with
          | nil =>
              obtain rfl := (List.cons.inj visited).1
              rw [Visit.failure?, ran] at failed
              cases failed
          | cons first before => exact ih (List.cons.inj visited).2

/-- A run comes to its end exactly when no phase fails, and then every phase was visited. -/
theorem exists_runPhases_eq_ok_iff (phases : List Phase) (context : Context) :
    (∃ final, runPhases phases context = .ok final) ↔
      ∀ visit ∈ visits phases context, visit.failure? = none := by
  induction phases generalizing context with
  | nil => simp [runPhases, visits]
  | cons phase rest ih =>
      cases ran : (phase.run context).2 with
      | some reason =>
          rw [runPhases_cons_of_failure ran, visits_cons_of_failure ran]
          simp [Visit.failure?, ran]
      | none =>
          rw [runPhases_cons_of_success ran, visits_cons_of_success ran, ih,
            List.forall_mem_cons]
          exact (and_iff_right ran).symm

theorem map_phase_visits_of_ok {final : Context} (ended : runPhases phases context = .ok final) :
    (visits phases context).map Visit.phase = phases := by
  induction phases generalizing context with
  | nil => rfl
  | cons phase rest ih =>
      cases ran : (phase.run context).2 with
      | some reason =>
          rw [runPhases_cons_of_failure ran] at ended
          cases ended
      | none =>
          rw [runPhases_cons_of_success ran] at ended
          rw [visits_cons_of_success ran, List.map_cons, ih ended]

/-- Phases that only add leave their remarks in order behind those that are there. -/
theorem runPhases_of_onlyAdds (adds : ∀ phase ∈ phases, phase.OnlyAdds) {final : Context}
    (ended : runPhases phases context = .ok final) :
    final = { context with
      diagnostics := context.diagnostics ++ (visits phases context).flatMap Visit.added } := by
  induction phases generalizing context with
  | nil =>
      cases ended
      rw [visits, List.flatMap_nil, List.append_nil]
  | cons phase rest ih =>
      obtain ⟨here, later⟩ := List.forall_mem_cons.mp adds
      cases ran : (phase.run context).2 with
      | some reason =>
          rw [runPhases_cons_of_failure ran] at ended
          cases ended
      | none =>
          rw [runPhases_cons_of_success ran] at ended
          rw [ih later ended, visits_cons_of_success ran, List.flatMap_cons, ← List.append_assoc,
            here.run_eq]

/-! ## The whole pipeline -/

/-- The remarks of the lints of a validation. -/
def ValidatePhase.remarks (phase : ValidatePhase) (schema : Schema) : List Diagnostic :=
  phase.lints.flatMap fun lint => lint.check schema

theorem ValidatePhase.added_toPhase (phase : ValidatePhase) (schema : Schema) :
    (Visit.mk phase.toPhase (.ofSchema schema)).added = phase.remarks schema := rfl

/-- A validation succeeds exactly when none of its remarks is an error. -/
theorem ValidatePhase.failure?_eq_none_iff (phase : ValidatePhase) (schema : Schema) :
    (Visit.mk phase.toPhase (.ofSchema schema)).failure? = none ↔
      ∀ diagnostic ∈ phase.remarks schema, diagnostic.isError = false := by
  have counted := phase.length_errors_run (.ofSchema schema)
  rw [Visit.failure?, phase.run_eq_none_iff, counted, errorCount, ← remarks]
  simp [Context.ofSchema, Context.errors, List.countP_eq_zero]

/-- The phases that a pipeline visits on a schema. -/
def Pipeline.visits (pipeline : Pipeline) (schema : Schema) : List Visit :=
  RpcSchema.visits (pipeline.validate.toPhase :: pipeline.phases) (.ofSchema schema)

/-- A pipeline whose phases only add remarks answers exactly when its validation has no error among
its remarks and no phase fails. No phase is visited behind one that fails. The answer has the schema
as it was and the remarks of all phases, those of the validation first. -/
theorem pipeline_run_of_onlyAdds (pipeline : Pipeline) (schema : Schema)
    (adds : ∀ phase ∈ pipeline.phases, phase.OnlyAdds) :
    ((∃ context, pipeline.run schema = .ok context) ↔
      (∀ diagnostic ∈ pipeline.validate.remarks schema, diagnostic.isError = false) ∧
        ∀ visit ∈ pipeline.visits schema, visit.failure? = none) ∧
    (pipeline.visits schema).map Visit.phase <+:
      pipeline.validate.toPhase :: pipeline.phases ∧
    (∀ before visit after, pipeline.visits schema = before ++ visit :: after →
      visit.failure?.isSome → after = []) ∧
    ∀ context, pipeline.run schema = .ok context →
      context.schema = schema ∧
      ∃ later, pipeline.visits schema = ⟨pipeline.validate.toPhase, .ofSchema schema⟩ :: later ∧
        later.map Visit.phase = pipeline.phases ∧
        context.diagnostics = pipeline.validate.remarks schema ++ later.flatMap Visit.added := by
  have answered := exists_runPhases_eq_ok_iff
    (pipeline.validate.toPhase :: pipeline.phases) (.ofSchema schema)
  have first : (⟨pipeline.validate.toPhase, .ofSchema schema⟩ : Visit) ∈ pipeline.visits schema := by
    rw [Pipeline.visits, visits]
    split <;> exact List.mem_cons_self
  refine ⟨⟨fun ended => ?_, fun ⟨_, passed⟩ => answered.mpr passed⟩,
    map_phase_visits_isPrefix _ _, fun _ _ _ => eq_nil_of_failure, fun context ended => ?_⟩
  · have passed := answered.mp ended
    exact ⟨(pipeline.validate.failure?_eq_none_iff schema).mp (passed _ first), passed⟩
  · have passed := answered.mp ⟨context, ended⟩
    have split : pipeline.visits schema = ⟨pipeline.validate.toPhase, .ofSchema schema⟩ ::
        RpcSchema.visits pipeline.phases (pipeline.validate.toPhase.run (.ofSchema schema)).1 :=
      visits_cons_of_success (passed _ first)
    have all : (pipeline.visits schema).map Visit.phase =
        pipeline.validate.toPhase :: pipeline.phases := map_phase_visits_of_ok ended
    have left := runPhases_of_onlyAdds
      (List.forall_mem_cons.mpr ⟨pipeline.validate.onlyAdds_toPhase, adds⟩) ended
    rw [left]
    refine ⟨rfl, _, split, ?_, ?_⟩
    · rw [split, List.map_cons] at all
      exact (List.cons.inj all).2
    · change [] ++ (pipeline.visits schema).flatMap Visit.added = _
      rw [split, List.nil_append, List.flatMap_cons, pipeline.validate.added_toPhase]

/-- A schema whose only method lacks a description. -/
def undocumented : Schema where
  name := "todo"
  version := "1"
  methods := [{ name := "ping" }]

/-- What the standard validation remarks on it. -/
def undocumentedRemark : Diagnostic :=
  remark .warning "method 'ping' has no description" "methods.ping"

/-- Two phases behind the standard validation: one that notes something, and one that is silent. -/
def reviewed : Pipeline where
  validate := .standard
  phases := [
    .recording "review" [⟨.info, "review", "seen", none⟩] none,
    .recording "budget" [] none]

theorem pipeline_run_reviewed :
    (∀ phase ∈ reviewed.phases, phase.OnlyAdds) ∧
      ∃ context, reviewed.run undocumented = .ok context ∧ context.schema = undocumented ∧
        context.diagnostics = [undocumentedRemark, ⟨.info, "review", "seen", none⟩] := by
  have adds : ∀ phase ∈ reviewed.phases, phase.OnlyAdds := by
    simp [reviewed, Phase.onlyAdds_recording]
  have exact := pipeline_run_of_onlyAdds reviewed undocumented adds
  obtain ⟨context, ended⟩ := exact.1.mpr ⟨by decide, by decide⟩
  obtain ⟨same, later, visited, -, diagnostics⟩ := exact.2.2.2 context ended
  refine ⟨adds, context, ended, same, ?_⟩
  have rest : later.flatMap Visit.added = [⟨.info, "review", "seen", none⟩] := by
    rw [← List.tail_eq_of_cons_eq visited]
    decide
  rw [diagnostics, rest]
  decide

/-- A phase that records an error and does not fail. -/
def lenient : Pipeline where
  validate := .standard
  phases := [.recording "review" [⟨.error, "review", "not approved", none⟩] none]

/-- An error that no phase fails on is passed over. -/
theorem pipeline_run_lenient :
    ∃ context, lenient.run undocumented = .ok context ∧ context.hasErrors = true := by
  refine ⟨⟨undocumented, [undocumentedRemark, ⟨.error, "review", "not approved", none⟩]⟩, ?_, ?_⟩
  · rfl
  · decide

end RpcSchema
