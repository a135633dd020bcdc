import RpcSchema.Generate.Backend
import RpcSchema.Json.Printer
import RpcSchema.Naming.Convention
import RpcSchema.Target.GoTypes

/-!
Go servers: a router over the request path, and a wrapper for each method.
-/

namespace RpcSchema

open Code GoCode Naming

structure GoServer where
  package : String := "api"
  /-- The import path of the types, when they are in another package. -/
  types : Option String := none
  /-- Whether calls are logged. -/
  tracing : Bool := false
  runtime : String := GoCode.defaultRuntime

namespace GoServer

def logImport : String := "github.com/apex/log"

/-- The name under which the runtime package is used. -/
def rpc (config : GoServer) : String := packageQualifier config.runtime

/-- The type of a method's inputs, as the server refers to it. -/
def inputType (config : GoServer) (method : Method) : String :=
  let name := Convention.go.inputType method.name
  match config.types with
  | some path => packageQualifier path ++ "." ++ name
  | none => name

/-- The name of a method's wrapper. -/
def wrapperName (method : Method) : String := Convention.go.memberName method.name

def switchOn (subject : String) (cases : List Fragment) : List Fragment :=
  .line ("switch " ++ subject ++ " \x7b") :: cases ++ [.line "\x7d"]

/-- The case of a method: it matches the path, reads the inputs if the method has any, and calls
the wrapper. -/
def methodCase (config : GoServer) (method : Method) : List Fragment :=
  let wrapper := wrapperName method
  [.line ("case \"/" ++ method.name ++ "\":"),
    .indent
      (if method.hasInputs then
        [.line ("var in " ++ config.inputType method),
          .line ("err = " ++ config.rpc ++ ".ReadRequest(r, &in)"),
          block "if err != nil \x7b" [.line "break"] "\x7d",
          .line ("res, err = s." ++ wrapper ++ "(ctx, in)")]
      else [.line ("res, err = s." ++ wrapper ++ "(ctx)")])]

/-- What is answered where nothing matches. -/
def invalidMethod (config : GoServer) : Fragment :=
  .line (config.rpc ++ ".WriteError(w, " ++ config.rpc ++ ".BadRequest(\"Invalid method\"))")

def getBlock (config : GoServer) : Fragment :=
  block "if r.Method == \"GET\" \x7b"
    (switchOn "r.URL.Path"
        [.line "case \"/_health\":",
          .indent [.line (config.rpc ++ ".WriteHealth(w, s)")],
          .line "default:",
          .indent [config.invalidMethod]] ++
      [.line "return"]) "\x7d"

def postBlock (config : GoServer) (methods : List Method) : Fragment :=
  block "if r.Method == \"POST\" \x7b"
    ([.line ("ctx := " ++ config.rpc ++ ".NewRequestContext(r.Context(), r)"),
        .line "var res any",
        .line "var err error"] ++
      switchOn "r.URL.Path"
        (methods.flatMap config.methodCase ++
          [.line "default:",
            .indent [.line ("err = " ++ config.rpc ++ ".BadRequest(\"Invalid method\")")]]) ++
      [.blank,
        block "if err != nil \x7b"
          [.line (config.rpc ++ ".WriteError(w, err)"), .line "return"] "\x7d",
        .blank,
        .line (config.rpc ++ ".WriteResponse(w, res)"),
        .line "return"]) "\x7d"

def router (config : GoServer) (methods : List Method) : Func where
  name := "ServeHTTP"
  doc := some "ServeHTTP implementation."
  receiver := some "s *Server"
  params := ["w http.ResponseWriter", "r *http.Request"]
  body := [config.getBlock, .blank, config.postBlock methods, .blank, config.invalidMethod]

/-- The lines that log a call. -/
def logLines (method : Method) : List Fragment :=
  .line ("logs := log.FromContext(ctx).WithField(\"method\", " ++
      Json.stringText method.name ++ ")") ::
    (if method.hasInputs then
      [.blank,
        block "logs = logs.WithFields(log.Fields\x7b"
          (method.inputs.map fun field =>
            .line (Json.stringText field.name ++ ": in." ++
              Convention.go.fieldName field.name ++ ","))
          "\x7d)"]
    else []) ++ [.blank]

/-- The wrapper of a method: it calls the service and returns its result, if it has one. -/
def wrapper (config : GoServer) (method : Method) : Func where
  name := wrapperName method
  doc := some (Text.trimEnd (wrapperName method ++ " " ++ method.description))
  receiver := some "s *Server"
  params :=
    "ctx context.Context" ::
      if method.hasInputs then ["in " ++ config.inputType method] else []
  returns := some "(any, error)"
  body :=
    let context := if config.tracing then "log.NewContext(ctx, logs)" else "ctx"
    let arguments := if method.hasInputs then context ++ ", in" else context
    let call := "s." ++ Convention.go.methodName method.name ++ "(" ++ arguments ++ ")"
    (if config.tracing then logLines method else []) ++
      if method.hasOutputs then [.line ("res, err := " ++ call), .line "return res, err"]
      else [.line ("err := " ++ call), .line "return nil, err"]

def imports (config : GoServer) (schema : Schema) : Imports :=
  let hasMethods := !schema.methods.isEmpty
  let imports := ((({} : Imports).addIf hasMethods "context").add "net/http").add config.runtime
  let imports := imports.addIf (config.tracing && hasMethods) logImport
  match config.types with
  | some path => imports.addIf (schema.methods.any Method.hasInputs) path
  | none => imports

def file (config : GoServer) (schema : Schema) : GoCode.File where
  package := config.package
  imports := config.imports schema
  decls := .func (config.router schema.methods) ::
    schema.methods.map fun method => .func (config.wrapper method)

def emit (config : GoServer) (schema : Schema) : List GeneratedFile :=
  [{ path := "server.go", content := (config.file schema).text }]

def backend (config : GoServer) : Backend :=
  .ofEmit "go-server" fun schema => .ok (config.emit schema)

end GoServer

end RpcSchema
