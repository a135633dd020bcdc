import RpcSchema.Code.NameSet
import RpcSchema.Generate.Backend
import RpcSchema.Target.TsRevivers

/-!
TypeScript clients: a class with a method for each method of the schema.
-/

namespace RpcSchema

open Code Naming TsCode

structure TsClient where
  /-- The module that the types are imported from. -/
  types : String := "./types"

namespace TsClient

/-- The error class of clients. -/
def clientError : List String := [
  "/**",
  " * ClientError is an error returned by the API.",
  " */",
  "export class ClientError extends Error \x7b",
  "  readonly status: number;",
  "  readonly type?: string;",
  "",
  "  constructor(status: number, message: string, type?: string) \x7b",
  "    super(message);",
  "    this.name = \"ClientError\";",
  "    this.status = status;",
  "    this.type = type;",
  "  \x7d",
  "\x7d"]

/-- The function that makes a call. -/
def callHelper : List String := [
  "/**",
  " * Call method with params via a POST request.",
  " */",
  "async function call(url: string, authToken: string | undefined, method: string, params?: unknown): Promise<string> \x7b",
  "  const headers: Record<string, string> = \x7b \"Content-Type\": \"application/json\" \x7d;",
  "  if (authToken) \x7b",
  "    headers[\"Authorization\"] = `Bearer $\x7bauthToken\x7d`;",
  "  \x7d",
  "",
  "  const res = await fetch(`$\x7burl\x7d/$\x7bmethod\x7d`, \x7b",
  "    method: \"POST\",",
  "    body: params === undefined ? undefined : JSON.stringify(params),",
  "    headers,",
  "  \x7d);",
  "",
  "  // prefer the well-formed JSON error, fall back to the status line",
  "  if (res.status >= 300) \x7b",
  "    let body: \x7b type?: string; message?: string \x7d | undefined;",
  "    try \x7b",
  "      body = await res.json();",
  "    \x7d catch \x7b",
  "      body = undefined;",
  "    \x7d",
  "    if (body?.message) \x7b",
  "      throw new ClientError(res.status, body.message, body.type);",
  "    \x7d",
  "    throw new ClientError(res.status, `$\x7bres.status\x7d $\x7bres.statusText\x7d`);",
  "  \x7d",
  "",
  "  return res.text();",
  "\x7d"]

/-- The members of the client class that all calls share. -/
def clientHead : List String := [
  "private url: string;",
  "private authToken?: string;",
  "",
  "/**",
  " * Initialize.",
  " */",
  "constructor(params: \x7b url: string; authToken?: string \x7d) \x7b",
  "  this.url = params.url;",
  "  this.authToken = params.authToken;",
  "\x7d"]

/-- What a method of the client does with a response. -/
inductive Response
  | ignored
  /-- It is parsed as a type. -/
  | parsed (type : String)
  /-- It is parsed as a type, and its timestamps become dates. -/
  | revived (type : String)
deriving DecidableEq

/-- A method of the client. -/
structure Call where
  name : String
  description : String
  /-- The method that is called on the server. -/
  method : String
  /-- The type of the inputs, if there are any. -/
  input : Option String
  response : Response

def Call.ofMethod (dated : List String) (method : Method) : Call where
  name := Convention.typescript.methodName method.name
  description := method.description
  method := method.name
  input := if method.hasInputs then some (Convention.typescript.inputType method.name) else none
  response :=
    let output := Convention.typescript.outputType method.name
    if !method.hasOutputs then .ignored
    else if TsRevivers.isDated dated method then .revived output
    else .parsed output

/-- The expression that makes a call. -/
def Call.expression (call : Call) : String :=
  "call(this.url, this.authToken, \"" ++ call.method ++ "\"" ++
    (if call.input.isSome then ", params)" else ")")

def Call.returns (call : Call) : String :=
  match call.response with
  | .ignored => "Promise<void>"
  | .parsed type => "Promise<" ++ type ++ ">"
  | .revived type => "Promise<" ++ type ++ ">"

def Call.body (call : Call) : List String :=
  match call.response with
  | .ignored => ["await " ++ call.expression ++ ";"]
  | .parsed _ => ["const res = await " ++ call.expression ++ ";", "return JSON.parse(res);"]
  | .revived type =>
    ["const res = await " ++ call.expression ++ ";",
      "const out: " ++ type ++ " = JSON.parse(res);",
      TsRevivers.functionName type ++ "(out);",
      "return out;"]

def Call.func (call : Call) : Func where
  name := call.name
  isMethod := true
  doc := some (Text.trimEnd (call.name ++ " " ++ call.description))
  isAsync := true
  params := call.input.toList.map fun type => { name := "params", type := type }
  returns := some call.returns
  body := call.body

/-- The methods of a schema's client. -/
def calls (schema : Schema) : List Call :=
  schema.methods.map (Call.ofMethod (TsRevivers.datedTypes schema))

/-- The client class with given methods. -/
def clientClass (calls : List Call) : List Fragment :=
  [.docBlock "Client is the API client.",
    block "export class Client \x7b"
      (clientHead.map Fragment.line ++ calls.flatMap fun call => .blank :: call.func.fragments)
      "\x7d"]

/-- The types that a client names, in order: the inputs and outputs of the methods, and the types
that have a reviver. -/
def usedTypes (schema : Schema) : List String :=
  let ofMethods := schema.methods.flatMap fun method =>
    (if method.hasInputs then [Convention.typescript.inputType method.name] else []) ++
      if method.hasOutputs then [Convention.typescript.outputType method.name] else []
  insertNames
    (ofMethods ++ (TsRevivers.datedTypes schema).map Convention.typescript.typeName) []

def imports (config : TsClient) (schema : Schema) : List Import :=
  if (usedTypes schema).isEmpty then []
  else [{ source := config.types, named := usedTypes schema, typeOnly := true }]

def file (config : TsClient) (schema : Schema) : TsCode.File where
  imports := config.imports schema
  decls :=
    [.raw ("\n".intercalate clientError), .raw ("\n".intercalate callHelper)] ++
      (TsRevivers.revivers schema).map (fun reviver => .func reviver.func) ++
      [.raw (source (clientClass (calls schema)))]

def emit (config : TsClient) (schema : Schema) : List GeneratedFile :=
  [{ path := "client.ts", content := (config.file schema).text }]

def backend (config : TsClient) : Backend :=
  .ofEmit "ts-client" fun schema => .ok (config.emit schema)

end TsClient

end RpcSchema
