import RpcSchema.Proofs.Validation.Acceptance
import RpcSchema.Sample.TodoSchema
import RpcSchema.Sample.TodoService
import RpcSchema.Target.RustServer
import RpcSchema.Wire.Service

/-!
# What the dispatch of a server does

The meaning of the arms that a server's dispatch is written from, for any service behind it: which
functions of the service are called, with what, and what is answered. The functions of a service are
told by their names, so methods whose names come out the same would share one; apart from that, a
request is answered once and calls one function at most.
-/

namespace RpcSchema

open Naming Wire

namespace Dispatching

/-! ## Services and what happens in them -/

/-- A service with a state. -/
structure Implementation (σ : Type) where
  /-- The values of a type of inputs. -/
  Inputs : String → Type
  payload : (type : String) → Payload (Inputs type)
  rules : (type : String) → Rules (Inputs type)
  isHealthy : σ → Bool
  /-- What the function of a name does. Its outputs are given as JSON, unless they cannot be written;
  those of a function without outputs are not looked at. -/
  call : String → Request → Option (Sigma Inputs) → σ → Except Refusal (Option Json.Value) × σ

variable {σ : Type}

/-- What a service function is called with besides the request: inputs of a type, if it has any. -/
abbrev Implementation.Argument (service : Implementation σ) : Type := Option (Sigma service.Inputs)

/-- What happens while a request is dispatched. -/
inductive Event (service : Implementation σ)
  | called (function : String) (argument : service.Argument)
  | answered (response : Response)

section Meaning

variable (service : Implementation σ)

/-- The inputs that an arm reads before it calls its function. -/
def readInputs (arm : RustServer.Arm) (request : Request) : Except Refusal service.Argument :=
  match arm.input with
  | some (type, .plain) =>
    (request.read (service.payload type)).map fun inputs => some ⟨type, inputs⟩
  | some (type, .validated) =>
    (request.readChecked (service.payload type) (service.rules type)).map fun inputs =>
      some ⟨type, inputs⟩
  | none => .ok none

/-- What the result of a call means to an arm. -/
def reply (responder : RustServer.Responder) (outputs : Option Json.Value) : Reply :=
  match responder with
  | .body => .outputs outputs
  | .empty => .empty

/-- What an arm does: inputs that cannot be read are answered right away. -/
def runArm (arm : RustServer.Arm) (request : Request) (state : σ) : List (Event service) × σ :=
  match readInputs service arm request with
  | .error refusal => ([.answered (.ofRefusal refusal)], state)
  | .ok argument =>
    let (result, next) := service.call arm.function request argument state
    ([.called arm.function argument, .answered (.ofResult (result.map (reply arm.responder)))], next)

/-- The health of the service is asked for and answered. -/
def runHealth (state : σ) : List (Event service) × σ :=
  ([.called RustServer.healthFunc.name none, .answered (.ofHealth (service.isHealthy state))], state)

def refuse (state : σ) : List (Event service) × σ :=
  ([.answered (.ofRefusal invalidMethod)], state)

/-- What the dispatch does that is written from some arms; the first arm of the routed name is
taken. -/
def run (arms : List RustServer.Arm) (request : Request) (state : σ) : List (Event service) × σ :=
  if arms.isEmpty then
    match request.route with
    | .health => runHealth service state
    | _ => refuse service state
  else
    match request.route with
    | .health => runHealth service state
    | .invalid => refuse service state
    | .call name =>
      match arms.find? fun arm => arm.route == name with
      | some arm => runArm service arm request state
      | none => refuse service state

/-- The endpoint that an arm stands for. -/
def endpoint (arm : RustServer.Arm) : Endpoint σ where
  name := arm.route
  Inputs := service.Argument
  read := readInputs service arm
  run request argument state :=
    let (result, next) := service.call arm.function request argument state
    (result.map (reply arm.responder), next)

def endpoints (arms : List RustServer.Arm) : Service σ where
  isHealthy := service.isHealthy
  endpoints := arms.map (endpoint service)

end Meaning

/-! ## What is expected -/

section Expected

variable (service : Implementation σ) (config : RustServer) (method : Method) (request : Request)

/-- The name of the service function of a method. -/
abbrev functionName (method : Method) : String := Convention.rust.methodName method.name

abbrev inputType (method : Method) : String := Convention.rust.inputType method.name

/-- The body of a request is an object that holds the inputs, and it says so. -/
def Decodes {type : String} (inputs : service.Inputs type) : Prop :=
  request.header? "content-type" = some "application/json" ∧
    ∃ body, bodyObject? request.body = some body ∧ service.payload type body = some inputs

/-- What a method is called with: nothing if it has no inputs, or what the body holds. With
validation, that is with its defaults put in and keeps the rules. -/
def Receives (argument : service.Argument) : Prop :=
  if method.hasInputs then
    ∃ decoded, Decodes service request decoded ∧
      if config.validate then
        (service.rules (inputType method)).fault?
            ((service.rules (inputType method)).withDefaults decoded) = none ∧
          argument = some ⟨inputType method,
            (service.rules (inputType method)).withDefaults decoded⟩
      else argument = some ⟨inputType method, decoded⟩
  else argument = none

/-- The body of a request holds inputs that break a rule, and that matters. -/
def BreaksRules : Prop :=
  config.validate = true ∧ method.hasInputs = true ∧
    ∃ decoded, Decodes service request decoded ∧
      (service.rules (inputType method)).fault?
        ((service.rules (inputType method)).withDefaults decoded) ≠ none

/-- What is answered when the function of a method has come to a result. -/
def Answers (result : Except Refusal (Option Json.Value)) (response : Response) : Prop :=
  match result with
  | .error refusal => response = .ofRefusal refusal
  | .ok outputs =>
    if method.hasOutputs then ∃ value, outputs = some value ∧ response = .ofJson 200 value
    else response = .noContent

/-- What a request is answered that calls no method. -/
def AnswersUncalled (schema : Schema) (state : σ) (response : Response) : Prop :=
  if request.verb = "GET" ∧ request.path = "/_health" then
    response = .ofHealth (service.isHealthy state)
  else
    ∃ refusal, response = .ofRefusal refusal ∧ refusal.status = 400 ∧
      ((∃ method ∈ schema.methods, request.route = .call method.name ∧
          BreaksRules service config method request) ∧ refusal.kind = "invalid" ∨
        (¬∃ method ∈ schema.methods, request.route = .call method.name ∧
          BreaksRules service config method request) ∧ refusal.kind = "bad_request")

end Expected

/-- What is promised of the calls that a request leads to, of its answer and of the state behind
it. -/
structure Dispatched (service : Implementation σ) (config : RustServer) (schema : Schema)
    (request : Request) (state : σ) (calls : List (String × service.Argument))
    (response : Response) (next : σ) : Prop where
  atMostOnce : calls.length ≤ 1
  called_iff : ∀ method ∈ schema.methods, ∀ argument, (functionName method, argument) ∈ calls ↔
    request.route = .call method.name ∧ Receives service config method request argument
  ofCall : ∀ method ∈ schema.methods, ∀ argument, (functionName method, argument) ∈ calls →
    next = (service.call (functionName method) request argument state).2 ∧
      Answers method (service.call (functionName method) request argument state).1 response
  ofNoCall : (∀ method ∈ schema.methods, ∀ argument, (functionName method, argument) ∉ calls) →
    next = state ∧ AnswersUncalled service config request schema state response

/-- The outputs of the methods of a schema can be written as JSON. -/
def Implementation.Writes (service : Implementation σ) (schema : Schema) : Prop :=
  ∀ method ∈ schema.methods, method.hasOutputs = true → ∀ request argument state outputs,
    (service.call (functionName method) request argument state).1 = .ok outputs → outputs.isSome

section Reading

variable {service : Implementation σ} {config : RustServer} {method : Method} {request : Request}

theorem read_eq_ok_iff {type : String} {inputs : service.Inputs type} :
    request.read (service.payload type) = .ok inputs ↔ Decodes service request inputs := by
  rw [Request.read, Decodes, jsonContentType]
  by_cases json : request.header? "content-type" = some "application/json"
  · rw [if_pos json, ← Option.bind_eq_some_iff]
    cases held : bodyObject? request.body >>= service.payload type with
    | none =>
        rw [Option.bind_eq_bind] at held
        simp [held]
    | some other =>
        rw [Option.bind_eq_bind] at held
        simp [held, json]
  · simp [json]

/-- Whatever keeps a body from being read is the request's fault. -/
theorem refusal_of_read_eq_error {type : String} {refusal : Refusal}
    (refused : request.read (service.payload type) = .error refusal) :
    refusal.status = 400 ∧ refusal.kind = "bad_request" := by
  rw [Request.read] at refused
  split at refused
  · split at refused
    · cases refused
    · cases refused
      exact ⟨rfl, rfl⟩
  · cases refused
    exact ⟨rfl, rfl⟩

/-- How the inputs of a method are read, step by step. -/
theorem readInputs_ofMethod :
    readInputs service (.ofMethod config method) request =
      if method.hasInputs then
        request.read (service.payload (inputType method)) >>= fun decoded =>
          if config.validate then
            (Request.checked (service.rules (inputType method)) decoded).map fun inputs =>
              some ⟨inputType method, inputs⟩
          else .ok (some ⟨inputType method, decoded⟩)
      else .ok none := by
  rw [readInputs, RustServer.Arm.ofMethod, RustServer.reader]
  cases method.hasInputs with
  | false => rfl
  | true =>
      cases config.validate with
      | false =>
          change (request.read (service.payload (inputType method))).map _ = _
          cases request.read (service.payload (inputType method)) <;> rfl
      | true =>
          change (request.readChecked (service.payload (inputType method)) _).map _ = _
          rw [Request.readChecked]
          cases request.read (service.payload (inputType method)) <;> rfl

theorem readInputs_spec :
    match readInputs service (.ofMethod config method) request with
    | .ok argument => ∀ other, Receives service config method request other ↔ other = argument
    | .error refusal => (∀ other, ¬Receives service config method request other) ∧
      refusal.status = 400 ∧
        (BreaksRules service config method request ∧ refusal.kind = "invalid" ∨
          ¬BreaksRules service config method request ∧ refusal.kind = "bad_request") := by
  rw [readInputs_ofMethod]
  simp only [Receives, BreaksRules, ← read_eq_ok_iff]
  cases method.hasInputs with
  | false => simp
  | true =>
    cases read : request.read (service.payload (inputType method)) with
    | error refusal =>
        have facts := refusal_of_read_eq_error read
        simp [bind, Except.bind, facts]
    | ok decoded =>
        cases config.validate with
        | false => simp [bind, Except.bind]
        | true =>
            simp only [bind, Except.bind, Request.checked]
            cases fault : (service.rules (inputType method)).fault?
              ((service.rules (inputType method)).withDefaults decoded) with
            | none => simp [Except.map, fault]
            | some broken => simp [Except.map, fault, Refusal.ofFieldFault, Refusal.invalid]

end Reading

/-! ## What a request leads to -/

section Running

variable {service : Implementation σ} {config : RustServer} {schema : Schema} {request : Request}
  {state : σ}

theorem route_eq_health_iff :
    request.route = .health ↔ request.verb = "GET" ∧ request.path = "/_health" := by
  rw [Request.route, healthPath]
  split
  · next isPost => simp [isPost]
  · split
    · next isHealth => simpa using isHealth
    · next other => simpa using other

/-- Without arms no name is found among them either. -/
theorem run_eq (arms : List RustServer.Arm) :
    run service arms request state =
      match request.route with
      | .health => runHealth service state
      | .invalid => refuse service state
      | .call name =>
        match arms.find? fun arm => arm.route == name with
        | some arm => runArm service arm request state
        | none => refuse service state := by
  cases arms with
  | nil =>
      rw [run, List.isEmpty_nil, if_pos rfl]
      cases request.route <;> rfl
  | cons arm rest => rw [run, if_neg (by simp)]

/-- The answer and the state are those that the endpoints of the arms give. -/
theorem serve_endpoints (arms : List RustServer.Arm) :
    ∃ before, run service arms request state =
      (before ++ [.answered ((endpoints service arms).serve request state).1],
        ((endpoints service arms).serve request state).2) := by
  rw [run_eq, Service.serve]
  cases request.route with
  | health => exact ⟨[.called RustServer.healthFunc.name none], rfl⟩
  | invalid => exact ⟨[], rfl⟩
  | call name =>
      have found : (endpoints service arms).endpoint? name =
          (arms.find? fun arm => arm.route == name).map (endpoint service) := by
        rw [Service.endpoint?, endpoints, List.find?_map]
        rfl
      simp only [found]
      cases arms.find? fun arm => arm.route == name with
      | none => exact ⟨[], rfl⟩
      | some arm =>
          simp only [Option.map_some, endpoint, Endpoint.answer, runArm]
          cases readInputs service arm request with
          | error refusal => exact ⟨[], rfl⟩
          | ok argument => exact ⟨[.called arm.function argument], rfl⟩

theorem serve_of_run {arms : List RustServer.Arm} {before : List (Event service)}
    {response : Response} {next : σ}
    (ran : run service arms request state = (before ++ [.answered response], next)) :
    (endpoints service arms).serve request state = (response, next) := by
  obtain ⟨other, served⟩ := @serve_endpoints _ service request state arms
  rw [ran, Prod.mk.injEq] at served
  have sameAnswer := List.cons.inj (List.append_inj' served.1 rfl).2
  exact Prod.ext (Event.answered.inj sameAnswer.1).symm served.2.symm

theorem find?_arms (names : (schema.methods.map Method.name).Nodup) {method : Method}
    (declared : method ∈ schema.methods) :
    ((config.arms schema).find? fun arm => arm.route == method.name) =
      some (.ofMethod config method) := by
  rw [RustServer.arms, List.find?_map]
  exact congrArg (Option.map _) (find?_of_nodup names declared)

theorem exists_of_find?_arms {name : String} {arm : RustServer.Arm}
    (found : ((config.arms schema).find? fun arm => arm.route == name) = some arm) :
    ∃ method ∈ schema.methods, method.name = name ∧ arm = .ofMethod config method := by
  obtain ⟨method, declared, rfl⟩ := List.mem_map.mp (List.mem_of_find?_eq_some found)
  have sameName := List.find?_some found
  exact ⟨method, declared, eq_of_beq sameName, rfl⟩

theorem answers_of_writes (written : service.Writes schema) {method : Method}
    (declared : method ∈ schema.methods) (argument : service.Argument) :
    Answers method (service.call (functionName method) request argument state).1
      (.ofResult ((service.call (functionName method) request argument state).1.map
        (reply (RustServer.responder method)))) := by
  cases ended : (service.call (functionName method) request argument state).1 with
  | error refusal => rfl
  | ok outputs =>
      rw [RustServer.responder]
      cases hasOutputs : method.hasOutputs with
      | false => simp [Answers, hasOutputs, Except.map, reply, Response.ofResult, Response.ofReply]
      | true =>
          obtain ⟨value, rfl⟩ := Option.isSome_iff_exists.mp
            (written method declared hasOutputs _ _ _ _ ended)
          simp [Answers, hasOutputs, Except.map, reply, Response.ofResult, Response.ofReply,
            Response.ofOutputs]

/-- The health check calls the function that no method has. -/
theorem dispatched_health (notHealth : ∀ method ∈ schema.methods,
      functionName method ≠ RustServer.healthFunc.name) (asked : request.route = .health) :
    Dispatched service config schema request state [(RustServer.healthFunc.name, none)]
      (.ofHealth (service.isHealthy state)) state := by
  have noneCalled : ∀ method ∈ schema.methods, ∀ argument : service.Argument,
      (functionName method, argument) ∉ [(RustServer.healthFunc.name, none)] := by
    intro method declared argument member
    exact notHealth method declared (congrArg Prod.fst (List.mem_singleton.mp member))
  refine ⟨Nat.le_refl 1, fun method declared argument => ?_,
    fun method declared argument called => absurd called (noneCalled method declared argument),
    fun _ => ⟨rfl, ?_⟩⟩
  · rw [asked]
    exact ⟨fun called => absurd called (noneCalled method declared argument),
      fun routed => nomatch routed.1⟩
  · rw [AnswersUncalled, if_pos (route_eq_health_iff.mp asked)]

theorem dispatched_refused
    (unread : ∀ method ∈ schema.methods, request.route = .call method.name → ∀ argument,
      ¬Receives service config method request argument)
    {response : Response}
    (answers : AnswersUncalled service config request schema state response) :
    Dispatched service config schema request state [] response state where
  atMostOnce := Nat.zero_le 1
  called_iff method declared argument := by
    refine ⟨fun called => absurd called List.not_mem_nil, fun routed => ?_⟩
    exact absurd routed.2 (unread method declared routed.1 argument)
  ofCall _ _ _ called := absurd called List.not_mem_nil
  ofNoCall _ := ⟨rfl, answers⟩

theorem answersUncalled_of_refusal (notHealth : request.route ≠ .health) {refusal : Refusal}
    (status : refusal.status = 400)
    (kind : (∃ method ∈ schema.methods, request.route = .call method.name ∧
        BreaksRules service config method request) ∧ refusal.kind = "invalid" ∨
      (¬∃ method ∈ schema.methods, request.route = .call method.name ∧
        BreaksRules service config method request) ∧ refusal.kind = "bad_request") :
    AnswersUncalled service config request schema state (.ofRefusal refusal) := by
  rw [AnswersUncalled, if_neg (route_eq_health_iff.not.mp notHealth)]
  exact ⟨refusal, rfl, status, kind⟩

theorem dispatched_unrouted (notHealth : request.route ≠ .health)
    (unrouted : ∀ method ∈ schema.methods, request.route ≠ .call method.name) :
    Dispatched service config schema request state [] (.ofRefusal invalidMethod) state := by
  refine dispatched_refused
    (fun method declared routed => absurd routed (unrouted method declared))
    (answersUncalled_of_refusal notHealth rfl (.inr ⟨?_, rfl⟩))
  rintro ⟨method, declared, routed, _⟩
  exact unrouted method declared routed

theorem eq_of_routed (names : (schema.methods.map Method.name).Nodup) {method other : Method}
    (declared : method ∈ schema.methods) (routed : request.route = .call method.name)
    (otherDeclared : other ∈ schema.methods) (otherRouted : request.route = .call other.name) :
    other = method := by
  rw [routed] at otherRouted
  exact List.inj_on_of_nodup_map names otherDeclared declared (Route.call.inj otherRouted).symm

/-- A method whose inputs could not be read is not called. -/
theorem dispatched_unread (names : (schema.methods.map Method.name).Nodup) {method : Method}
    (declared : method ∈ schema.methods) (routed : request.route = .call method.name)
    (unread : ∀ argument, ¬Receives service config method request argument) {refusal : Refusal}
    (status : refusal.status = 400)
    (kind : BreaksRules service config method request ∧ refusal.kind = "invalid" ∨
      ¬BreaksRules service config method request ∧ refusal.kind = "bad_request") :
    Dispatched service config schema request state [] (.ofRefusal refusal) state := by
  have breaks_iff : (∃ other ∈ schema.methods, request.route = .call other.name ∧
      BreaksRules service config other request) ↔ BreaksRules service config method request := by
    refine ⟨?_, fun breaks => ⟨method, declared, routed, breaks⟩⟩
    rintro ⟨other, otherDeclared, otherRouted, breaks⟩
    obtain rfl := eq_of_routed names declared routed otherDeclared otherRouted
    exact breaks
  refine dispatched_refused (fun other otherDeclared otherRouted => ?_)
    (answersUncalled_of_refusal (by simp [routed]) status (by rwa [breaks_iff]))
  obtain rfl := eq_of_routed names declared routed otherDeclared otherRouted
  exact unread

theorem dispatched_called (names : (schema.methods.map Method.name).Nodup)
    (functions : (schema.methods.map functionName).Nodup) (written : service.Writes schema)
    {method : Method} (declared : method ∈ schema.methods)
    (routed : request.route = .call method.name) {argument : service.Argument}
    (receives : ∀ other, Receives service config method request other ↔ other = argument) :
    Dispatched service config schema request state [(functionName method, argument)]
      (.ofResult ((service.call (functionName method) request argument state).1.map
        (reply (RustServer.responder method))))
      (service.call (functionName method) request argument state).2 := by
  have isCalled : ∀ other ∈ schema.methods, ∀ given,
      (functionName other, given) ∈ [(functionName method, argument)] →
        other = method ∧ given = argument := by
    intro other otherDeclared given member
    have same := List.mem_singleton.mp member
    exact ⟨List.inj_on_of_nodup_map functions otherDeclared declared (congrArg Prod.fst same),
      congrArg Prod.snd same⟩
  refine ⟨Nat.le_refl 1, fun other otherDeclared given => ⟨fun called => ?_, ?_⟩,
    fun other otherDeclared given called => ?_, fun none => ?_⟩
  · obtain ⟨rfl, rfl⟩ := isCalled other otherDeclared given called
    exact ⟨routed, (receives given).mpr rfl⟩
  · rintro ⟨otherRouted, otherReceives⟩
    obtain rfl := eq_of_routed names declared routed otherDeclared otherRouted
    rw [(receives given).mp otherReceives]
    exact List.mem_singleton_self _
  · obtain ⟨rfl, rfl⟩ := isCalled other otherDeclared given called
    exact ⟨rfl, answers_of_writes written declared given⟩
  · exact absurd (List.mem_singleton_self _) (none method declared argument)

end Running

end Dispatching

open Dispatching

/-- A to-do list behind a dispatch; items are added to it and listed, and none is ever found. -/
def todoImplementation : Implementation TodoList where
  Inputs _ := Json.Value
  payload _ := Payload.object
  rules _ := {
    fault? := fun value =>
      if (value.member? "item").isNone then some ⟨"item", requiredMessage⟩ else none }
  isHealthy _ := true
  call function _ argument todo :=
    if function = "add_item" then
      match argument >>= fun inputs => TodoList.textInput inputs.2 with
      | some text => (.ok none, todo.add text)
      | none => (.error (.internal "no text"), todo)
    else if function = "get_items" then
      (.ok (some (.object [("items", .array (todo.items.map TodoList.itemValue))])), todo)
    else (.error ⟨404, "not_found", "item not found"⟩, todo)

/-- A request that adds an item. -/
def addMilk : Request where
  target := "/add_item"
  headers := [("Content-Type", "application/json")]
  body := "\x7b\"item\":\"Buy milk\"\x7d".toUTF8

end RpcSchema
