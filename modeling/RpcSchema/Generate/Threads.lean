import RpcSchema.Generate.Backend

/-!
Running backends concurrently. Each backend has a thread of its own; they are started in order and
end in any order. Once all are started, their results are joined in the order of the backends, each
when its thread has ended.
-/

namespace RpcSchema

/-- What a backend contributes to the answer: its output, or why there is none. -/
def Backend.output (schema : Schema) (backend : Backend) : Except GenerateError BackendOutput :=
  ((backend.generate schema).files backend.name).map (BackendOutput.mk backend.name)

/-- The thread of a backend, with its outcome once it has ended. -/
structure Thread where
  backend : Backend
  outcome : Option Outcome := none

/-- The threads of a run. -/
structure ThreadScope where
  /-- The backends that have no thread yet. -/
  waiting : List Backend
  threads : List Thread := []
  /-- The results of the threads that are joined, in order. -/
  joined : List (Except GenerateError BackendOutput) := []

/-- What can happen next. -/
inductive ThreadEvent
  /-- The next backend gets a thread. -/
  | start
  /-- A thread ends. -/
  | finish (index : Nat)
  /-- The next thread is joined. -/
  | join
deriving DecidableEq

namespace ThreadScope

def ofBackends (backends : List Backend) : ThreadScope := { waiting := backends }

/-- The scope after an event, if the event can happen. -/
def step? (schema : Schema) (scope : ThreadScope) : ThreadEvent → Option ThreadScope
  | .start =>
    match scope.waiting with
    | backend :: waiting =>
      some { scope with waiting := waiting, threads := scope.threads ++ [{ backend := backend }] }
    | [] => none
  | .finish index =>
    match scope.threads[index]? with
    | some ⟨backend, none⟩ =>
      let ended : Thread := ⟨backend, some (backend.generate schema)⟩
      some { scope with threads := scope.threads.set index ended }
    | _ => none
  | .join =>
    match scope.waiting, scope.threads[scope.joined.length]? with
    | [], some ⟨backend, some outcome⟩ =>
      let result := (outcome.files backend.name).map (BackendOutput.mk backend.name)
      some { scope with joined := scope.joined ++ [result] }
    | _, _ => none

/-- The scope after some events, if they can happen one after the other. -/
def run (schema : Schema) (scope : ThreadScope) : List ThreadEvent → Option ThreadScope
  | [] => some scope
  | event :: events => (scope.step? schema event).bind fun next => next.run schema events

/-- All threads are joined. -/
def isDone (scope : ThreadScope) : Bool :=
  scope.waiting.isEmpty && scope.joined.length == scope.threads.length

/-- The outputs of the threads in order; the first that is no output is the answer. -/
def answer (scope : ThreadScope) : Except GenerateError (List BackendOutput) := scope.joined.mapM id

end ThreadScope

end RpcSchema
