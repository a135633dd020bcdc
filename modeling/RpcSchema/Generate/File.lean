/-!
Generated files.
-/

namespace RpcSchema

/-- What happens to a file that is already there. -/
inductive Overwrite
  | always
  | ifMissing
deriving DecidableEq

structure GeneratedFile where
  path : String
  content : String
  overwrite : Overwrite := .always
deriving DecidableEq

end RpcSchema
