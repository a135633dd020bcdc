import RpcSchema.Schema.Field

/-!
Why no code can be generated from a schema.
-/

namespace RpcSchema

inductive GenerateError
  /-- A reference, as written, that names no declared type. -/
  | unresolvedReference (reference : String) (location : Option String)
  /-- A kind that a target has no type for. -/
  | unmappedKind (target : String) (kind : Kind)
  | missingItems (field : String)
  /-- A default of another kind than the named one. -/
  | invalidDefault (field kind : String)
  | crashed (target : String)
deriving DecidableEq

namespace GenerateError

def message : GenerateError → String
  | .unresolvedReference reference none => "reference to undefined type \"" ++ reference ++ "\""
  | .unresolvedReference reference (some location) =>
    "reference to undefined type \"" ++ reference ++ "\" (at " ++ location ++ ")"
  | .unmappedKind target kind => target ++ ": no type mapping for kind \"" ++ kind.name ++ "\""
  | .missingItems field => "array field " ++ field ++ " does not declare its items"
  | .invalidDefault field kind => "default value of " ++ field ++ " is not a valid " ++ kind
  | .crashed target => "backend " ++ target ++ " panicked"

/-- The error at a location; only an unresolved reference has one. -/
def located (location : String) : GenerateError → GenerateError
  | .unresolvedReference reference _ => .unresolvedReference reference (some location)
  | error => error

end GenerateError

end RpcSchema
