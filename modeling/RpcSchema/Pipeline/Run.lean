import RpcSchema.Pipeline.Lint

/-!
The phases a schema goes through before code is generated from it.
-/

namespace RpcSchema

/-- A schema under way, and the remarks made on it so far. -/
structure Context where
  schema : Schema
  diagnostics : List Diagnostic

namespace Context

def ofSchema (schema : Schema) : Context := ⟨schema, []⟩

def add (context : Context) (diagnostic : Diagnostic) : Context :=
  { context with diagnostics := context.diagnostics ++ [diagnostic] }

def errors (context : Context) : List Diagnostic := context.diagnostics.filter Diagnostic.isError

def warnings (context : Context) : List Diagnostic :=
  context.diagnostics.filter Diagnostic.isWarning

def hasErrors (context : Context) : Bool := !context.errors.isEmpty

def hasWarnings (context : Context) : Bool := !context.warnings.isEmpty

end Context

/-- A step of the pipeline: it leaves a context, and says why it failed when it did. -/
structure Phase where
  name : String
  description : String
  run : Context → Context × Option String

/-- A phase that makes given remarks, and fails when a reason is given. -/
def Phase.recording (name : String) (diagnostics : List Diagnostic) (failure : Option String) :
    Phase where
  name := name
  description := ""
  run context := (diagnostics.foldl Context.add context, failure)

/-- The phase that runs lints. -/
structure ValidatePhase where
  lints : List Lint

namespace ValidatePhase

def standard : ValidatePhase := ⟨Lint.standard⟩

def empty : ValidatePhase := ⟨[]⟩

def withLint (phase : ValidatePhase) (lint : Lint) : ValidatePhase := ⟨phase.lints ++ [lint]⟩

/-- Judges undeclared groups by one policy, after all other lints. -/
def groupPolicy (phase : ValidatePhase) (policy : GroupPolicy) : ValidatePhase :=
  withLint ⟨phase.lints.filter fun lint => lint.name != Lint.unknownGroupName⟩
    (Lint.unknownGroup policy)

/-- Why the phase fails on a context: the report of its errors. -/
def failure? (context : Context) : Option String :=
  if context.hasErrors then
    some ("validation failed with " ++ toString context.errors.length ++ " error(s)\n" ++
      "\n".intercalate (context.errors.map Diagnostic.report))
  else none

/-- Every lint runs; errors fail the phase, warnings do not. -/
def toPhase (phase : ValidatePhase) : Phase where
  name := "validate"
  description := "Check schema integrity and collect diagnostics"
  run context :=
    let context := { context with
      diagnostics := context.diagnostics ++
        phase.lints.flatMap fun lint => lint.check context.schema }
    (context, failure? context)

end ValidatePhase

/-- Lints first, then further phases. -/
structure Pipeline where
  validate : ValidatePhase
  phases : List Phase

/-- Runs phases until one fails. -/
def runPhases : List Phase → Context → Except String Context
  | [], context => .ok context
  | phase :: rest, context =>
    match phase.run context with
    | (_, some reason) => .error reason
    | (context, none) => runPhases rest context

def Pipeline.run (pipeline : Pipeline) (schema : Schema) : Except String Context :=
  runPhases (pipeline.validate.toPhase :: pipeline.phases) (.ofSchema schema)

end RpcSchema
