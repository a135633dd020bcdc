import RpcSchema.Wire.Request

/-!
What a request asks for.
-/

namespace RpcSchema.Wire

/-- The path of the health check. -/
def healthPath : String := "/_health"

inductive Route
  | health
  /-- A call of the named method. -/
  | call (name : String)
  | invalid
deriving DecidableEq

/-- The method name in a path: what follows its leading slashes. -/
def calledName (path : String) : String := String.ofList (path.toList.dropWhile (· == '/'))

/-- Methods are called by `POST`; the health check is the only thing to `GET`. -/
def Request.route (request : Request) : Route :=
  if request.verb = "POST" then .call (calledName request.path)
  else if request.verb = "GET" ∧ request.path = healthPath then .health
  else .invalid

end RpcSchema.Wire
