import Mathlib.Data.List.Forall2
import Mathlib.Data.List.Nodup
import Mathlib.Data.List.Perm.Subperm
import RpcSchema.Generate.Threads
import RpcSchema.Sample.TodoSchema

/-!
# Backends on threads

However the threads of the backends get on, their answer is the one of running the backends one
after the other: the result of a thread depends on its backend alone, and results are joined in the
order of the backends. A run is a list of events, and what has happened so far determines the
threads (`ThreadScope.Follows`).
-/

namespace RpcSchema

/-! ## Running backends in order -/

namespace Backend

variable {schema : Schema} {backend : Backend}

theorem output_of_done {files : List GeneratedFile} (done : backend.generate schema = .done files) :
    backend.output schema = .ok ⟨backend.name, files⟩ := by
  rw [output, done]
  rfl

theorem output_of_failed {error : GenerateError}
    (failed : backend.generate schema = .failed error) :
    backend.output schema = .error error := by
  rw [output, failed]
  rfl

theorem output_of_crashed (crashed : backend.generate schema = .crashed) :
    backend.output schema = .error (.crashed backend.name) := by
  rw [output, crashed]
  rfl

end Backend

theorem generateAll_nil (schema : Schema) : generateAll schema [] = .ok [] := rfl

theorem generateAll_cons (schema : Schema) (backend : Backend) (backends : List Backend) :
    generateAll schema (backend :: backends) = (do
      let output ← backend.output schema
      return output :: (← generateAll schema backends)) := by
  rw [generateAll, List.map_cons, joinOutcomes, Backend.output]
  cases (backend.generate schema).files backend.name <;> rfl

theorem mapM_output (schema : Schema) (backends : List Backend) :
    (backends.map (Backend.output schema)).mapM id = generateAll schema backends := by
  induction backends with
  | nil => rfl
  | cons backend backends ih =>
      rw [List.map_cons, List.mapM_cons, ih, generateAll_cons]
      rfl

/-- When all backends have files, they are the outputs, in order. -/
theorem generateAll_of_done {schema : Schema} {backends : List Backend}
    (done : ∀ backend ∈ backends, ∃ files, backend.generate schema = .done files) :
    ∃ outputs, generateAll schema backends = .ok outputs ∧
      List.Forall₂ (fun backend output =>
        output.backend = backend.name ∧ backend.generate schema = .done output.files)
        backends outputs := by
  induction backends with
  | nil => exact ⟨[], generateAll_nil schema, .nil⟩
  | cons backend backends ih =>
      obtain ⟨⟨files, first⟩, others⟩ := List.forall_mem_cons.mp done
      obtain ⟨outputs, rest, matching⟩ := ih others
      refine ⟨⟨backend.name, files⟩ :: outputs, ?_, .cons ⟨rfl, first⟩ matching⟩
      rw [generateAll_cons, Backend.output_of_done first, rest]
      rfl

/-- The first backend without files decides. -/
theorem generateAll_of_error {schema : Schema} {front rest : List Backend} {backend : Backend}
    {error : GenerateError}
    (done : ∀ other ∈ front, ∃ files, other.generate schema = .done files)
    (stops : backend.output schema = .error error) :
    generateAll schema (front ++ backend :: rest) = .error error := by
  induction front with
  | nil =>
      rw [List.nil_append, generateAll_cons, stops]
      rfl
  | cons other front ih =>
      obtain ⟨⟨files, first⟩, others⟩ := List.forall_mem_cons.mp done
      rw [List.cons_append, generateAll_cons, Backend.output_of_done first, ih others]
      rfl

/-! ## Events -/

namespace ThreadEvent

def ending? : ThreadEvent → Option Nat
  | .finish index => some index
  | _ => none

/-- The threads that end, in the order of the events. -/
def endings (events : List ThreadEvent) : List Nat := events.filterMap ending?

@[simp]
theorem endings_append (events others : List ThreadEvent) :
    endings (events ++ others) = endings events ++ endings others :=
  List.filterMap_append

@[simp]
theorem endings_start : endings [.start] = [] := rfl

@[simp]
theorem endings_finish (index : Nat) : endings [.finish index] = [index] := rfl

@[simp]
theorem endings_join : endings [.join] = [] := rfl

theorem endings_replicate {event : ThreadEvent} (other : event.ending? = none) (count : Nat) :
    endings (List.replicate count event) = [] :=
  List.filterMap_eq_nil_iff.mpr fun _ member => List.eq_of_mem_replicate member ▸ other

theorem endings_map_finish (order : List Nat) : endings (order.map .finish) = order := by
  rw [endings, List.filterMap_map]
  exact List.filterMap_some

end ThreadEvent

open ThreadEvent

namespace ThreadScope

variable {schema : Schema} {backends : List Backend} {scope next : ThreadScope}
  {event : ThreadEvent} {events past : List ThreadEvent}

/-- All that an event can do. -/
inductive Step (schema : Schema) (scope : ThreadScope) : ThreadEvent → ThreadScope → Prop
  | start {backend : Backend} {waiting : List Backend}
      (waits : scope.waiting = backend :: waiting) :
      Step schema scope .start
        { scope with
          waiting := waiting
          threads := scope.threads ++ [{ backend := backend }] }
  | finish {index : Nat} {backend : Backend}
      (running : scope.threads[index]? = some ⟨backend, none⟩) :
      Step schema scope (.finish index)
        { scope with threads := scope.threads.set index ⟨backend, some (backend.generate schema)⟩ }
  | join {backend : Backend} {outcome : Outcome} (started : scope.waiting = [])
      (ended : scope.threads[scope.joined.length]? = some ⟨backend, some outcome⟩) :
      Step schema scope .join
        { scope with
          joined := scope.joined ++
            [(outcome.files backend.name).map (BackendOutput.mk backend.name)] }

theorem step?_eq_some_iff :
    scope.step? schema event = some next ↔ Step schema scope event next := by
  constructor
  · intro steps
    cases event with
    | start =>
        rw [step?] at steps
        split at steps
        · next waits =>
          cases steps
          exact .start waits
        · cases steps
    | finish index =>
        rw [step?] at steps
        split at steps
        · next running =>
          cases steps
          exact .finish running
        · cases steps
    | join =>
        rw [step?] at steps
        split at steps
        · next started ended =>
          cases steps
          exact .join started ended
        · cases steps
  · intro steps
    cases steps with
    | start waits => simp only [step?, waits]
    | finish running => simp only [step?, running]
    | join started ended => simp only [step?, started, ended]

theorem run_cons_eq_some_iff {final : ThreadScope} :
    scope.run schema (event :: events) = some final ↔
      ∃ next, Step schema scope event next ∧ next.run schema events = some final := by
  simp only [run, Option.bind_eq_some_iff, step?_eq_some_iff]

theorem run_append_of_run {middle final : ThreadScope}
    (first : scope.run schema past = some middle) (later : middle.run schema events = some final) :
    scope.run schema (past ++ events) = some final := by
  induction past generalizing scope with
  | nil =>
      cases first
      exact later
  | cons event past ih =>
      obtain ⟨next, steps, runs⟩ := run_cons_eq_some_iff.mp first
      exact run_cons_eq_some_iff.mpr ⟨next, steps, ih runs⟩

/-- All threads are started. -/
theorem exists_run_start (schema : Schema) (scope : ThreadScope) :
    ∃ next, scope.run schema (List.replicate scope.waiting.length .start) = some next ∧
      next.waiting = [] ∧ next.joined = scope.joined := by
  induction waits : scope.waiting generalizing scope with
  | nil => exact ⟨scope, rfl, waits, rfl⟩
  | cons backend waiting ih =>
      obtain ⟨next, runs, started, joined⟩ := ih
        { scope with waiting := waiting, threads := scope.threads ++ [{ backend := backend }] } rfl
      exact ⟨next, run_cons_eq_some_iff.mpr ⟨_, .start waits, runs⟩, started, joined⟩

/-! ## What the events so far determine -/

/-- The threads of backends after some events. -/
structure Follows (schema : Schema) (backends : List Backend) (events : List ThreadEvent)
    (scope : ThreadScope) : Prop where
  started : scope.threads.map Thread.backend ++ scope.waiting = backends
  /-- A thread that has ended has the outcome of its backend. -/
  ended : ∀ index thread, scope.threads[index]? = some thread → index ∈ endings events →
    thread.outcome = some (thread.backend.generate schema)
  running : ∀ index thread, scope.threads[index]? = some thread → index ∉ endings events →
    thread.outcome = none
  endings_nodup : (endings events).Nodup
  ending_lt : ∀ index ∈ endings events, index < scope.threads.length
  joined : scope.joined = (backends.take scope.joined.length).map (Backend.output schema)
  joined_ended : ∀ index < scope.joined.length, index ∈ endings events
  length : events.length =
    scope.threads.length + (endings events).length + scope.joined.length

theorem follows_init (schema : Schema) (backends : List Backend) :
    Follows schema backends [] (ofBackends backends) where
  started := rfl
  ended := by simp [ofBackends]
  running := by simp [ofBackends]
  endings_nodup := List.nodup_nil
  ending_lt := by simp [endings]
  joined := rfl
  joined_ended := by simp [ofBackends]
  length := rfl

namespace Follows

section Scope

variable (follows : Follows schema backends past scope)
include follows

theorem started_length : scope.threads.length + scope.waiting.length = backends.length := by
  rw [← follows.started, List.length_append, List.length_map]

theorem joined_length_le : scope.joined.length ≤ scope.threads.length := by
  cases count : scope.joined.length with
  | zero => exact Nat.zero_le _
  | succ last => exact follows.ending_lt last (follows.joined_ended last (by omega))

theorem endings_length_le : (endings past).length ≤ scope.threads.length := by
  have within : endings past ⊆ List.range scope.threads.length :=
    fun index member => List.mem_range.mpr (follows.ending_lt index member)
  have shorter := (follows.endings_nodup.subperm within).length_le
  rwa [List.length_range] at shorter

/-- The backend of a thread is the one at its place. -/
theorem backend_eq {index : Nat} {thread : Thread}
    (found : scope.threads[index]? = some thread) : backends[index]? = some thread.backend := by
  have within := (List.getElem?_eq_some_iff.mp found).1
  rw [← follows.started, List.getElem?_append_left (by rwa [List.length_map]), List.getElem?_map,
    found]
  rfl

theorem of_start {backend : Backend} {waiting : List Backend}
    (waits : scope.waiting = backend :: waiting) :
    Follows schema backends (past ++ [.start])
      { scope with
        waiting := waiting
        threads := scope.threads ++ [{ backend := backend }] } where
  started := by
    rw [← follows.started, waits, List.map_append, List.append_assoc]
    rfl
  ended := by
    intro index thread found member
    have member : index ∈ endings past := by simpa using member
    rw [List.getElem?_append_left (follows.ending_lt index member)] at found
    exact follows.ended index thread found member
  running := by
    intro index thread found absent
    rw [List.getElem?_append] at found
    split at found
    · exact follows.running index thread found (by simpa using absent)
    · rw [List.getElem?_singleton] at found
      obtain ⟨-, fresh⟩ := Option.ite_none_right_eq_some.mp found
      rw [← Option.some.inj fresh]
  endings_nodup := by simpa using follows.endings_nodup
  ending_lt := by
    intro index member
    have before := follows.ending_lt index (by simpa using member)
    rw [List.length_append]
    omega
  joined := follows.joined
  joined_ended := by simpa using follows.joined_ended
  length := by
    have before := follows.length
    simp only [List.length_append, List.length_singleton, endings_append, endings_start,
      List.append_nil]
    omega

theorem of_finish {index : Nat} {backend : Backend}
    (runs : scope.threads[index]? = some ⟨backend, none⟩) :
    Follows schema backends (past ++ [.finish index])
      { scope with
        threads := scope.threads.set index ⟨backend, some (backend.generate schema)⟩ } where
  started := by
    obtain ⟨within, found⟩ := List.getElem?_eq_some_iff.mp runs
    have same : (scope.threads.map Thread.backend).set index backend =
        scope.threads.map Thread.backend := calc
      _ = (scope.threads.set index scope.threads[index]).map Thread.backend := by
        rw [List.map_set, found]
      _ = scope.threads.map Thread.backend := by rw [List.set_getElem_self]
    rw [List.map_set, same, follows.started]
  ended := by
    intro other thread found member
    rw [List.getElem?_set] at found
    split at found
    · obtain ⟨-, here⟩ := Option.ite_none_right_eq_some.mp found
      rw [← Option.some.inj here]
    · next elsewhere =>
      exact follows.ended other thread found (by simpa [Ne.symm elsewhere] using member)
  running := by
    intro other thread found absent
    obtain ⟨before, elsewhere⟩ : other ∉ endings past ∧ other ≠ index := by simpa using absent
    rw [List.getElem?_set_ne elsewhere.symm] at found
    exact follows.running other thread found before
  endings_nodup := by
    have absent : index ∉ endings past := by
      intro member
      cases follows.ended index _ runs member
    rw [endings_append, endings_finish, List.nodup_append_comm, List.singleton_append]
    exact List.nodup_cons.mpr ⟨absent, follows.endings_nodup⟩
  ending_lt := by
    have within := (List.getElem?_eq_some_iff.mp runs).1
    simp only [endings_append, endings_finish, List.length_set, List.forall_mem_append,
      List.forall_mem_singleton]
    exact ⟨follows.ending_lt, within⟩
  joined := follows.joined
  joined_ended := by
    intro other isJoined
    rw [endings_append]
    exact List.mem_append_left _ (follows.joined_ended other isJoined)
  length := by
    have before := follows.length
    simp only [List.length_append, List.length_singleton, endings_append, endings_finish,
      List.length_set]
    omega

theorem of_join {backend : Backend} {outcome : Outcome}
    (found : scope.threads[scope.joined.length]? = some ⟨backend, some outcome⟩) :
    Follows schema backends (past ++ [.join])
      { scope with
        joined := scope.joined ++
          [(outcome.files backend.name).map (BackendOutput.mk backend.name)] } := by
  have member : scope.joined.length ∈ endings past := by
    by_contra absent
    cases follows.running _ _ found absent
  have own : outcome = backend.generate schema :=
    Option.some.inj (follows.ended _ _ found member)
  exact {
    started := follows.started
    ended := by simpa using follows.ended
    running := by simpa using follows.running
    endings_nodup := by simpa using follows.endings_nodup
    ending_lt := by simpa using follows.ending_lt
    joined := by
      rw [List.length_append, List.length_singleton, List.take_add_one, follows.backend_eq found,
        List.map_append, ← follows.joined, own]
      rfl
    joined_ended := by
      intro index isJoined
      rw [endings_append, endings_join, List.append_nil]
      rw [List.length_append, List.length_singleton] at isJoined
      rcases Nat.lt_succ_iff_lt_or_eq.mp isJoined with before | rfl
      · exact follows.joined_ended index before
      · exact member
    length := by
      have before := follows.length
      simp only [List.length_append, List.length_singleton, endings_append, endings_join,
        List.append_nil]
      omega }

theorem step (steps : Step schema scope event next) :
    Follows schema backends (past ++ [event]) next := by
  cases steps with
  | start waits => exact follows.of_start waits
  | finish runs => exact follows.of_finish runs
  | join started ended => exact follows.of_join ended

end Scope

theorem run {final : ThreadScope} (follows : Follows schema backends past scope)
    (runs : scope.run schema events = some final) :
    Follows schema backends (past ++ events) final := by
  induction events generalizing past scope with
  | nil =>
      cases runs
      rwa [List.append_nil]
  | cons event events ih =>
      obtain ⟨next, steps, rest⟩ := run_cons_eq_some_iff.mp runs
      have later := ih (follows.step steps) rest
      rwa [List.append_assoc, List.singleton_append] at later

section Scope

variable (follows : Follows schema backends past scope)
include follows

/-! ### Getting on -/

theorem exists_finish {index : Nat} (within : index < scope.threads.length)
    (absent : index ∉ endings past) : ∃ next, Step schema scope (.finish index) next := by
  obtain ⟨⟨backend, outcome⟩, found⟩ : ∃ thread, scope.threads[index]? = some thread :=
    ⟨_, List.getElem?_eq_getElem within⟩
  obtain rfl : outcome = none := follows.running _ _ found absent
  exact ⟨_, .finish found⟩

theorem exists_join (started : scope.waiting = [])
    (member : scope.joined.length ∈ endings past) : ∃ next, Step schema scope .join next := by
  obtain ⟨⟨backend, outcome⟩, found⟩ :
      ∃ thread, scope.threads[scope.joined.length]? = some thread :=
    ⟨_, List.getElem?_eq_getElem (follows.ending_lt _ member)⟩
  obtain rfl : outcome = some (backend.generate schema) := follows.ended _ _ found member
  exact ⟨_, .join started found⟩

/-- As long as not all threads are joined, something can happen. -/
theorem exists_step (unfinished : scope.isDone = false) :
    ∃ event next, Step schema scope event next := by
  cases waits : scope.waiting with
  | cons backend waiting => exact ⟨.start, _, .start waits⟩
  | nil =>
      have unjoined : scope.joined.length < scope.threads.length := by
        have atMost := follows.joined_length_le
        simp only [isDone, waits, List.isEmpty_nil, Bool.true_and,
          beq_eq_false_iff_ne] at unfinished
        omega
      by_cases member : scope.joined.length ∈ endings past
      · exact ⟨.join, follows.exists_join waits member⟩
      · exact ⟨.finish _, follows.exists_finish unjoined member⟩

theorem length_le : past.length ≤ 3 * backends.length := by
  have counts := follows.length
  have started := follows.started_length
  have joined := follows.joined_length_le
  have ended := follows.endings_length_le
  omega

theorem of_isDone (done : scope.isDone = true) :
    (endings past).Perm (List.range backends.length) ∧
      scope.answer = generateAll schema backends := by
  obtain ⟨started, all⟩ : scope.waiting = [] ∧ scope.joined.length = scope.threads.length := by
    simpa [isDone] using done
  have threads : scope.threads.length = backends.length := by
    rw [← follows.started_length, started, List.length_nil, Nat.add_zero]
  constructor
  · refine (List.perm_ext_iff_of_nodup follows.endings_nodup List.nodup_range).mpr fun index => ?_
    rw [List.mem_range, ← threads]
    exact ⟨follows.ending_lt index, fun within => follows.joined_ended index (all ▸ within)⟩
  · rw [answer, follows.joined, all, threads, List.take_length, mapM_output]

end Scope

/-! ### Any order -/

/-- Running threads end in any order. -/
theorem exists_run_finish {order : List Nat} (follows : Follows schema backends past scope)
    (distinct : order.Nodup) (within : ∀ index ∈ order, index < scope.threads.length)
    (absent : ∀ index ∈ order, index ∉ endings past) :
    ∃ next, scope.run schema (order.map .finish) = some next ∧
      next.waiting = scope.waiting ∧ next.joined = scope.joined := by
  induction order generalizing past scope with
  | nil => exact ⟨scope, rfl, rfl, rfl⟩
  | cons index order ih =>
      obtain ⟨isLast, distinct⟩ := List.nodup_cons.mp distinct
      obtain ⟨isThread, areThreads⟩ := List.forall_mem_cons.mp within
      obtain ⟨isRunning, areRunning⟩ := List.forall_mem_cons.mp absent
      obtain ⟨middle, steps⟩ := follows.exists_finish isThread isRunning
      have after := follows.step steps
      cases steps with
      | finish runs =>
          have later : ∀ other ∈ order, other ∉ endings (past ++ [.finish index]) := by
            intro other member
            have differs : other ≠ index := fun same => isLast (same ▸ member)
            simp [areRunning other member, differs]
          obtain ⟨next, rest, waits, joined⟩ := ih after distinct (by simpa using areThreads) later
          exact ⟨next, run_cons_eq_some_iff.mpr ⟨_, .finish runs, rest⟩, waits, joined⟩

/-- Threads that have ended are joined. -/
theorem exists_run_join {count : Nat} (follows : Follows schema backends past scope)
    (started : scope.waiting = []) (remaining : scope.joined.length + count = scope.threads.length)
    (ended : ∀ index < scope.threads.length, index ∈ endings past) :
    ∃ next, scope.run schema (List.replicate count .join) = some next ∧ next.isDone = true := by
  induction count generalizing past scope with
  | zero => exact ⟨scope, rfl, by simpa [isDone, started] using remaining⟩
  | succ count ih =>
      obtain ⟨middle, steps⟩ := follows.exists_join started (ended _ (by omega))
      have after := follows.step steps
      cases steps with
      | join _ found =>
          obtain ⟨next, rest, done⟩ := ih after started
            (by simp only [List.length_append, List.length_singleton]; omega)
            (by simpa using ended)
          exact ⟨next, run_cons_eq_some_iff.mpr ⟨_, .join started found, rest⟩, done⟩

end Follows

/-- The threads can end in any order. -/
theorem exists_run_of_order (schema : Schema) (backends : List Backend) {order : List Nat}
    (isOrder : order.Perm (List.range backends.length)) :
    ∃ events scope, (ofBackends backends).run schema events = some scope ∧
      scope.isDone = true ∧ endings events = order := by
  have mem_order : ∀ index, index ∈ order ↔ index < backends.length := fun index => by
    rw [isOrder.mem_iff, List.mem_range]
  obtain ⟨all, starts, started, joined⟩ := exists_run_start schema (ofBackends backends)
  have begun : Follows schema backends (List.replicate backends.length .start) all :=
    (follows_init schema backends).run starts
  have noEndings : endings (List.replicate backends.length .start) = [] := endings_replicate rfl _
  have allThreads : all.threads.length = backends.length := by
    rw [← begun.started_length, started, List.length_nil, Nat.add_zero]
  obtain ⟨ended, finishes, waits, unjoined⟩ := begun.exists_run_finish
    (isOrder.nodup_iff.mpr List.nodup_range)
    (fun index member => allThreads ▸ (mem_order index).mp member)
    (fun index _ => noEndings ▸ List.not_mem_nil)
  have finished := begun.run finishes
  have endThreads : ended.threads.length = backends.length := by
    rw [← finished.started_length, waits, started, List.length_nil, Nat.add_zero]
  have ordered : endings (List.replicate backends.length .start ++ order.map .finish) = order := by
    rw [endings_append, noEndings, endings_map_finish, List.nil_append]
  have remaining : ended.joined.length + backends.length = ended.threads.length := by
    rw [unjoined, joined, endThreads]
    exact Nat.zero_add _
  obtain ⟨final, joins, done⟩ := finished.exists_run_join (waits.trans started) remaining
    fun index within => by
      rw [ordered, mem_order, ← endThreads]
      exact within
  refine ⟨_, final, run_append_of_run (run_append_of_run starts finishes) joins, done, ?_⟩
  rw [endings_append, endings_replicate rfl, List.append_nil]
  exact ordered

end ThreadScope

open ThreadScope

/-- Backends on threads answer as if they ran one after the other. Threads get on until all are
joined, whatever happens in between, and they may end in any order. Whatever that was, the answer is
the same: when all backends have files these are the outputs, under the names of their backends and
in their order, and otherwise there is no output, but the error of the first backend that has one or
has crashed. -/
theorem threads_answer_in_order (schema : Schema) (backends : List Backend) :
    (∀ events scope, (ofBackends backends).run schema events = some scope →
      events.length ≤ 3 * backends.length ∧
      (scope.isDone = false → ∃ event next, scope.step? schema event = some next) ∧
      (scope.isDone = true →
        (endings events).Perm (List.range backends.length) ∧
          scope.answer = generateAll schema backends)) ∧
    (∀ order : List Nat, order.Perm (List.range backends.length) →
      ∃ events scope, (ofBackends backends).run schema events = some scope ∧
        scope.isDone = true ∧ endings events = order) ∧
    ((∀ backend ∈ backends, ∃ files, backend.generate schema = .done files) →
      ∃ outputs, generateAll schema backends = .ok outputs ∧
        List.Forall₂ (fun backend output =>
          output.backend = backend.name ∧ backend.generate schema = .done output.files)
          backends outputs) ∧
    ∀ front backend rest, backends = front ++ backend :: rest →
      (∀ other ∈ front, ∃ files, other.generate schema = .done files) →
      (∀ error, backend.generate schema = .failed error →
        generateAll schema backends = .error error) ∧
      (backend.generate schema = .crashed →
        generateAll schema backends = .error (.crashed backend.name)) := by
  refine ⟨fun events scope runs => ?_,
    fun order isOrder => exists_run_of_order schema backends isOrder, generateAll_of_done, ?_⟩
  · have follows : Follows schema backends events scope := (follows_init schema backends).run runs
    refine ⟨follows.length_le, fun unfinished => ?_, follows.of_isDone⟩
    obtain ⟨event, next, steps⟩ := follows.exists_step unfinished
    exact ⟨event, next, step?_eq_some_iff.mpr steps⟩
  · rintro front backend rest rfl done
    exact ⟨fun error failed => generateAll_of_error done (Backend.output_of_failed failed),
      fun crashed => generateAll_of_error done (Backend.output_of_crashed crashed)⟩

/-- A backend that has files, one that has an error and one that crashes. -/
def crew : List Backend := [
  ⟨"notes", fun schema => .done [{ path := "notes.txt", content := schema.name }]⟩,
  ⟨"broken", fun _ => .failed (.missingItems "items")⟩,
  ⟨"lost", fun _ => .crashed⟩]

/-- The second thread ends before the third is started, and the first ends last. -/
def crewEvents : List ThreadEvent :=
  [.start, .start, .finish 1, .start, .finish 2, .finish 0, .join, .join, .join]

theorem threads_answer_crew :
    ∃ scope, (ofBackends crew).run Schema.todo crewEvents = some scope ∧ scope.isDone = true ∧
      endings crewEvents = [1, 2, 0] ∧ scope.answer = .error (.missingItems "items") := by
  obtain ⟨ofRun, -, -, ofError⟩ := threads_answer_in_order Schema.todo crew
  have runs : ∃ scope, (ofBackends crew).run Schema.todo crewEvents = some scope ∧
      scope.isDone = true := ⟨_, rfl, rfl⟩
  obtain ⟨scope, runs, done⟩ := runs
  have notes : ∃ files, crew[0].generate Schema.todo = .done files := ⟨_, rfl⟩
  have stops := (ofError [crew[0]] crew[1] [crew[2]] rfl (by simpa using notes)).1 _ rfl
  exact ⟨scope, runs, done, rfl, (((ofRun _ _ runs).2.2 done).2).trans stops⟩

end RpcSchema
