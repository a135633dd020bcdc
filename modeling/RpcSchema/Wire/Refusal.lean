/-!
Why a request is not answered with what it asks for.
-/

namespace RpcSchema.Wire

/-- A field that breaks a rule of its schema. -/
structure FieldFault where
  field : String
  message : String
deriving DecidableEq

namespace FieldFault

def text (fault : FieldFault) : String := fault.field ++ " " ++ fault.message

/-- The fault as one of an element of an array. -/
def atElement (index : Nat) (fault : FieldFault) : FieldFault :=
  { fault with field := "element " ++ toString index ++ ": " ++ fault.field }

end FieldFault

/-- An answer without a result: a status, a kind that programs tell apart, and a message for people. -/
structure Refusal where
  status : Nat
  kind : String
  message : String
deriving DecidableEq

namespace Refusal

/-- The request is malformed. -/
def badRequest (message : String) : Refusal := ⟨400, "bad_request", message⟩

/-- The request breaks a rule of the schema. -/
def invalid (message : String) : Refusal := ⟨400, "invalid", message⟩

/-- Anything else. -/
def internal (message : String) : Refusal := ⟨500, "internal", message⟩

def ofFieldFault (fault : FieldFault) : Refusal := invalid fault.text

end Refusal

example : (FieldFault.atElement 2 ⟨"text", "is required"⟩).text = "element 2: text is required" := by
  decide

end RpcSchema.Wire
