import RpcSchema.Generate.Backend
import RpcSchema.Naming.Convention
import RpcSchema.Target.RustCode
import RpcSchema.Text.Quoted

/-!
Rust servers: a service trait, the dispatch of requests to it, and a stub that implements it.
-/

namespace RpcSchema

open Code Naming RustCode Text

/-- The module that generated Rust takes its types from unless told otherwise. -/
def RustCode.defaultTypes : String := "super::types"

structure RustServer where
  types : String := RustCode.defaultTypes
  /-- Whether inputs are validated. -/
  validate : Bool := false
  /-- Whether calls are traced. -/
  tracing : Bool := false

namespace RustServer

/-- How an arm of the dispatch reads a request. -/
inductive Reader
  | plain
  | validated
deriving DecidableEq

def Reader.function : Reader → String
  | .plain => "read_request"
  | .validated => "read_validated_request"

/-- How an arm of the dispatch answers. -/
inductive Responder
  | body
  | empty
deriving DecidableEq

def Responder.function : Responder → String
  | .body => "respond"
  | .empty => "respond_empty"

/-- An arm of the dispatch. -/
structure Arm where
  /-- The routed name that selects the arm. -/
  route : String
  /-- The service function that it calls. -/
  function : String
  /-- The type of the inputs and how they are read, if there are any. -/
  input : Option (String × Reader)
  responder : Responder
  /-- The fields of the span that traces the call, if it is traced. -/
  span : Option String

def reader (config : RustServer) : Reader := if config.validate then .validated else .plain

def responder (method : Method) : Responder := if method.hasOutputs then .body else .empty

/-- The fields of the span of a method's calls. -/
def spanFields (method : Method) : String :=
  ", ".intercalate ("\"rpc\"" :: ("method = " ++ quoted method.name) ::
    method.inputs.map fun field =>
      quoted field.name ++ " = ?input." ++ Convention.rust.fieldName field.name)

def Arm.ofMethod (config : RustServer) (method : Method) : Arm where
  route := method.name
  function := Convention.rust.methodName method.name
  input :=
    if method.hasInputs then some (Convention.rust.inputType method.name, config.reader) else none
  responder := RustServer.responder method
  span := if config.tracing then some (spanFields method) else none

/-- The arms of a schema's dispatch. -/
def arms (config : RustServer) (schema : Schema) : List Arm :=
  schema.methods.map (Arm.ofMethod config)

namespace Arm

def readFragments (arm : Arm) : List Fragment :=
  match arm.input with
  | some (type, reader) =>
    [block ("let input: " ++ type ++ " = match " ++ reader.function ++ "(&req) \x7b")
      [.line "Ok(input) => input,", .line "Err(err) => return write_error(&err),"] "\x7d;"]
  | none => []

def spanFragments (arm : Arm) : List Fragment :=
  arm.span.toList.map fun fields =>
    .line ("let span = tracing::info_span!(" ++ fields ++ ");")

def call (arm : Arm) : String :=
  "service." ++ arm.function ++ (if arm.input.isSome then "(&ctx, input)" else "(&ctx)") ++
    if arm.span.isSome then ".instrument(span)" else ""

def fragment (arm : Arm) : Fragment :=
  block (quoted arm.route ++ " => \x7b")
    (arm.readFragments ++ arm.spanFragments ++
      [.line (arm.responder.function ++ "(" ++ arm.call ++ ".await)")]) "\x7d"

end Arm

/-- The arm for everything that no other arm takes. -/
def otherwise : Fragment :=
  .line "_ => write_error(&Error::bad_request(\"Invalid method\")),"

/-- The body of the dispatch; without arms only the health of the service is answered. -/
def dispatchBody (arms : List Arm) : List Fragment :=
  if arms.isEmpty then
    [block "match route(&req) \x7b"
      [.line "Route::Health => write_health(service.health().await),", otherwise] "\x7d"]
  else
    [block "let name = match route(&req) \x7b"
        [.line "Route::Health => return write_health(service.health().await),",
          .line ("Route::Invalid => return write_error(&Error::bad_request(" ++
            "\"Invalid method\")),"),
          .line "Route::Call(name) => name,"] "\x7d;",
      .line "let ctx = RequestContext::new(&req);",
      .blank,
      block "match name.as_str() \x7b" (arms.map Arm.fragment ++ [otherwise]) "\x7d"]

def dispatch (arms : List Arm) : Func where
  name := "dispatch"
  doc := some "Dispatch routes a request to the service method named by its path."
  isAsync := true
  generics := some "S: Service"
  params := [{ name := "service", type := "&S" }, { name := "req", type := "Request<Bytes>" }]
  returns := some "Response<String>"
  body := dispatchBody arms

/-- The result type of a service function. -/
def resultType (method : Method) : String :=
  "Result<" ++ (if method.hasOutputs then Convention.rust.outputType method.name else "()") ++
    ", Error>"

/-- The parameters of a service function under given names. -/
def serviceParams (method : Method) (context input : String) : List Param :=
  [selfParam, { name := context, type := "&RequestContext" }] ++
    if method.hasInputs then
      [{ name := input, type := Convention.rust.inputType method.name }]
    else []

/-- The function that tells whether the service can take requests. -/
def healthFunc : Func where
  name := "health"
  doc := some "Health reports whether the service can take requests."
  params := [selfParam]
  returns := some "impl Future<Output = Result<(), Error>> + Send"
  body := [.line "async \x7b Ok(()) \x7d"]

def serviceFunc (method : Method) : Func :=
  let name := Convention.rust.methodName method.name
  { name := name
    doc := if method.description.isEmpty then none else some (name ++ " " ++ method.description)
    isDeclaration := true
    params := serviceParams method "ctx" "input"
    returns := some ("impl Future<Output = " ++ resultType method ++ "> + Send") }

def serviceTrait (schema : Schema) : Trait where
  name := "Service"
  doc :=
    let doc := "Service implements the " ++ schema.name ++ " API."
    some (if schema.description.isEmpty then doc else doc ++ "\n\n" ++ schema.description)
  bounds := some "Send + Sync"
  items := healthFunc :: schema.methods.map serviceFunc

/-- The types that the inputs and outputs of a schema's methods have. -/
def methodTypes (schema : Schema) : List String :=
  schema.methods.flatMap fun method =>
    (if method.hasInputs then [Convention.rust.inputType method.name] else []) ++
      if method.hasOutputs then [Convention.rust.outputType method.name] else []

def runtimeModule : String := "rpcgen_runtime"

def uses (config : RustServer) (schema : Schema) : Uses :=
  let hasMethods := !schema.methods.isEmpty
  let fixed := ((((({} : Uses).add "std::future" "Future").addAll "http"
    ["Request", "Response"]).add "bytes" "Bytes").addAll runtimeModule
      ["Error", "Route", "route", "write_error", "write_health"])
  let fixed := fixed.addIf hasMethods runtimeModule "RequestContext"
  let fixed := fixed.addIf (config.tracing && hasMethods) "tracing" "Instrument"
  let readers := if schema.methods.any Method.hasInputs then [config.reader.function] else []
  let responders := schema.methods.map fun method => (responder method).function
  (fixed.addAll runtimeModule (readers ++ responders)).addAll config.types (methodTypes schema)

def serverFile (config : RustServer) (schema : Schema) : File where
  uses := config.uses schema
  decls := [.interface (serviceTrait schema), .func (dispatch (config.arms schema))]

/-! ## The stub -/

def stubFunc (method : Method) : Func :=
  let name := Convention.rust.methodName method.name
  { name := name
    isPublic := false
    isAsync := true
    params := serviceParams method "_ctx" "_input"
    returns := some (resultType method)
    body := [.line ("Err(Error::internal(" ++ quoted (name ++ " is not implemented") ++ "))")] }

def stubUses (config : RustServer) (schema : Schema) : Uses :=
  let uses : Uses :=
    if schema.methods.isEmpty then {}
    else ({} : Uses).addAll runtimeModule ["Error", "RequestContext"]
  (uses.add "super::server" "Service").addAll config.types (methodTypes schema)

def stubFile (config : RustServer) (schema : Schema) : File where
  isEditable := true
  uses := config.stubUses schema
  decls := [
    .struct {
      name := "ServiceImpl"
      doc := some ("ServiceImpl implements the " ++ schema.name ++ " API.")
      derives := ["Debug", "Clone", "Default"] },
    .impl {
      type := "ServiceImpl"
      interface := some "Service"
      methods := schema.methods.map stubFunc }]

/-- The stub is written once and then left to whoever edits it. -/
def emit (config : RustServer) (schema : Schema) : List GeneratedFile :=
  [{ path := "server.rs", content := (config.serverFile schema).text },
    { path := "service_impl.rs", content := (config.stubFile schema).text,
      overwrite := .ifMissing }]

def backend (config : RustServer) : Backend :=
  .ofEmit "rust-server" fun schema => .ok (config.emit schema)

end RustServer

end RpcSchema
