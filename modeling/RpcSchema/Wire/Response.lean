import RpcSchema.Json.Printer
import RpcSchema.Wire.Refusal

/-!
Responses of a generated server.
-/

namespace RpcSchema.Wire

/-- The only content type of requests, and that of every answer with a JSON body. -/
def jsonContentType : String := "application/json"

structure Response where
  status : Nat
  /-- Names, in lower case, and values. -/
  headers : List (String × String) := []
  body : String := ""
deriving DecidableEq

/-- What a method answers. -/
inductive Reply
  /-- The method has no outputs. -/
  | empty
  /-- The outputs as JSON, unless they cannot be written. -/
  | outputs (value : Option Json.Value)

namespace Response

/-- A response with a JSON body, spread over lines that all end in a line feed. -/
def ofJson (status : Nat) (value : Json.Value) : Response where
  status := status
  headers := [("content-type", jsonContentType)]
  body := value.pretty ++ "\n"

/-- The body of a refusal. -/
def refusalBody (refusal : Refusal) : Json.Value :=
  .object [("type", .string refusal.kind), ("message", .string refusal.message)]

def ofRefusal (refusal : Refusal) : Response := ofJson refusal.status (refusalBody refusal)

/-- The answer with a method's outputs. -/
def ofOutputs : Option Json.Value → Response
  | some value => ofJson 200 value
  | none => ofRefusal (.internal "Failed to serialize response")

def noContent : Response where
  status := 204

def ofReply : Reply → Response
  | .empty => noContent
  | .outputs value => ofOutputs value

/-- The answer to a call. -/
def ofResult : Except Refusal Reply → Response
  | .ok reply => ofReply reply
  | .error refusal => ofRefusal refusal

/-- The answer to a health check. Why a check failed is not told. -/
def ofHealth (isHealthy : Bool) : Response where
  status := if isHealthy then 200 else 500
  headers := [("content-type", "text/plain; charset=utf-8")]
  body := if isHealthy then "OK\n" else "Health check failed\n"

def contentType? (response : Response) : Option String := response.headers.lookup "content-type"

end Response

end RpcSchema.Wire
