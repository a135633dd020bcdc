/-!
Sets of names in their order.
-/

namespace RpcSchema.Code

/-- Puts a name into an ordered list, once. -/
def insertName (name : String) : List String → List String
  | [] => [name]
  | other :: rest =>
    if name < other then name :: other :: rest
    else if name = other then other :: rest
    else other :: insertName name rest

/-- Puts names into an ordered list. -/
def insertNames (names set : List String) : List String :=
  names.foldl (fun set name => insertName name set) set

example : insertNames ["b", "a", "b"] [] = ["a", "b"] := by decide

end RpcSchema.Code
