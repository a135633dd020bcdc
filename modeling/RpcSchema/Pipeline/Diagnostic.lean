/-!
Remarks on a schema.
-/

namespace RpcSchema

inductive Severity
  | error
  | warning
  | info
deriving DecidableEq

def Severity.name : Severity → String
  | .error => "error"
  | .warning => "warning"
  | .info => "info"

/-- The severity's name in structured output. -/
def Severity.title : Severity → String
  | .error => "Error"
  | .warning => "Warning"
  | .info => "Info"

/-- A remark of a phase, and where in the schema it belongs. -/
structure Diagnostic where
  severity : Severity
  phase : String
  message : String
  location : Option String
deriving DecidableEq

namespace Diagnostic

def isError (diagnostic : Diagnostic) : Bool := diagnostic.severity == .error

def isWarning (diagnostic : Diagnostic) : Bool := diagnostic.severity == .warning

/-- The remark on one line. -/
def display (diagnostic : Diagnostic) : String :=
  diagnostic.severity.name ++ ": " ++ diagnostic.message ++
    match diagnostic.location with
    | some location => " (at " ++ location ++ ")"
    | none => ""

/-- The remark in the report of a failed phase. -/
def report (diagnostic : Diagnostic) : String :=
  "error: " ++ diagnostic.message ++
    match diagnostic.location with
    | some location => "\n  --> " ++ location
    | none => ""

end Diagnostic

end RpcSchema
