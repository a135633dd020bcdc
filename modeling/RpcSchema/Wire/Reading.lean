import RpcSchema.Json.Decoding
import RpcSchema.Wire.Payload
import RpcSchema.Wire.Refusal
import RpcSchema.Wire.Request
import RpcSchema.Wire.Response

/-!
Reading the inputs of a method from a request.

A body counts only under the one content type that is accepted, whatever it holds. Behind that,
everything that keeps a body from being an object of the right form is the same fault.
-/

namespace RpcSchema.Wire

/-- The defaults and rules of a type of inputs. -/
structure Rules (α : Type) where
  withDefaults : α → α := id
  /-- The first rule that a value breaks. -/
  fault? : α → Option FieldFault := fun _ => none

def unsupportedContentType : Refusal :=
  .badRequest "Unsupported request Content-Type, must be application/json"

def malformedBody : Refusal :=
  .badRequest "Failed to parse malformed request body, must be a valid JSON object"

/-- The JSON object that a body holds, if it holds one. -/
def bodyObject? (body : ByteArray) : Option Json.Value := do
  let text ← String.fromUTF8? body
  match Json.Value.ofText text with
  | .ok (.object members) => some (.object members)
  | _ => none

namespace Request

variable {α : Type}

/-- The inputs in the body of a request. -/
def read (payload : Payload α) (request : Request) : Except Refusal α :=
  if request.header? "content-type" = some jsonContentType then
    match bodyObject? request.body >>= payload with
    | some inputs => .ok inputs
    | none => .error malformedBody
  else .error unsupportedContentType

/-- Puts in the defaults, then judges the result. -/
def checked (rules : Rules α) (inputs : α) : Except Refusal α :=
  let inputs := rules.withDefaults inputs
  match rules.fault? inputs with
  | none => .ok inputs
  | some fault => .error (.ofFieldFault fault)

/-- The inputs in the body of a request, with their defaults, when they keep the rules. -/
def readChecked (payload : Payload α) (rules : Rules α) (request : Request) : Except Refusal α :=
  request.read payload >>= checked rules

end Request

end RpcSchema.Wire
