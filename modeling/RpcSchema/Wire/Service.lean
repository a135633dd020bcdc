import RpcSchema.Wire.Reading
import RpcSchema.Wire.Route

/-!
Services: what answers the requests that are routed to a method.
-/

namespace RpcSchema.Wire

/-- A method of a service whose state is a `σ`. -/
structure Endpoint (σ : Type) where
  /-- The name that requests call it by. -/
  name : String
  Inputs : Type
  /-- How the inputs are read; a method without inputs does not look at the body. -/
  read : Request → Except Refusal Inputs
  /-- What the method does, and the state it leaves. -/
  run : Request → Inputs → σ → Except Refusal Reply × σ

/-- The answer of a method to a request. Inputs that cannot be read never reach the method. -/
def Endpoint.answer {σ : Type} (endpoint : Endpoint σ) (request : Request) (state : σ) :
    Response × σ :=
  match endpoint.read request with
  | .ok inputs =>
    let (result, next) := endpoint.run request inputs state
    (.ofResult result, next)
  | .error refusal => (.ofRefusal refusal, state)

structure Service (σ : Type) where
  isHealthy : σ → Bool := fun _ => true
  endpoints : List (Endpoint σ)

def invalidMethod : Refusal := .badRequest "Invalid method"

namespace Service

variable {σ : Type}

def endpoint? (service : Service σ) (name : String) : Option (Endpoint σ) :=
  service.endpoints.find? fun endpoint => endpoint.name == name

/-- The answer to a request, and the state behind it. -/
def serve (service : Service σ) (request : Request) (state : σ) : Response × σ :=
  match request.route with
  | .health => (.ofHealth (service.isHealthy state), state)
  | .invalid => (.ofRefusal invalidMethod, state)
  | .call name =>
    match service.endpoint? name with
    | some endpoint => endpoint.answer request state
    | none => (.ofRefusal invalidMethod, state)

/-- The answers to requests one after another, each with the state behind it. -/
def serveAll (service : Service σ) : List Request → σ → List (Response × σ)
  | [], _ => []
  | request :: rest, state =>
    let (response, next) := service.serve request state
    (response, next) :: service.serveAll rest next

end Service

end RpcSchema.Wire
