import RpcSchema.Generate.File
import RpcSchema.Schema.Resolve

/-!
Backends, and running several of them on one schema.
-/

namespace RpcSchema

/-- What comes of running a backend. -/
inductive Outcome
  | done (files : List GeneratedFile)
  | failed (error : GenerateError)
  /-- The backend gave up without an answer. -/
  | crashed

/-- A named generator. -/
structure Backend where
  name : String
  run : Schema → Outcome

namespace Outcome

def ofExcept : Except GenerateError (List GeneratedFile) → Outcome
  | .ok files => .done files
  | .error error => .failed error

/-- The files of an outcome, under the name of its backend. -/
def files (name : String) : Outcome → Except GenerateError (List GeneratedFile)
  | .done files => .ok files
  | .failed error => .error error
  | .crashed => .error (.crashed name)

end Outcome

namespace Backend

def ofEmit (name : String) (emit : Schema → Except GenerateError (List GeneratedFile)) :
    Backend :=
  ⟨name, fun schema => .ofExcept (emit schema)⟩

/-- Runs a backend on a schema whose references all resolve; on any other it does not start. -/
def generate (backend : Backend) (schema : Schema) : Outcome :=
  match schema.checkReferences with
  | .ok _ => backend.run schema
  | .error error => .failed error

end Backend

/-- The files of one backend. -/
structure BackendOutput where
  backend : String
  files : List GeneratedFile

/-- The outputs of outcomes in order; the first that is no output is the answer. -/
def joinOutcomes : List (String × Outcome) → Except GenerateError (List BackendOutput)
  | [] => .ok []
  | (name, outcome) :: rest => do
    let files ← outcome.files name
    return ⟨name, files⟩ :: (← joinOutcomes rest)

/-- Runs backends on a schema. Each runs on its own; the answer is put together in their order. -/
def generateAll (schema : Schema) (backends : List Backend) :
    Except GenerateError (List BackendOutput) :=
  joinOutcomes (backends.map fun backend => (backend.name, backend.generate schema))

end RpcSchema
