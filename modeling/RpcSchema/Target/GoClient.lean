import RpcSchema.Generate.Backend
import RpcSchema.Naming.Convention
import RpcSchema.Target.GoCode

/-!
Go clients: a function for each method.
-/

namespace RpcSchema

open Code GoCode Naming

structure GoClient where
  package : String := "api"

namespace GoClient

/-- The struct that holds what all calls share. -/
def clientStruct : Struct where
  name := "Client"
  doc := some "Client is the API client."
  fields := [
    { name := "URL"
      type := "string"
      doc := some "URL is the required API endpoint address." },
    { name := "AuthToken"
      type := "string"
      doc := some "AuthToken is an optional authentication token." },
    { name := "HTTPClient"
      type := "*http.Client"
      doc := some ("HTTPClient is the client used for making requests, " ++
        "defaulting to http.DefaultClient.") }]

/-- The call of a method: its inputs go out, and its outputs come in at `target`. -/
def call (method : Method) (target : String) : String :=
  "call(c.HTTPClient, c.AuthToken, c.URL, \"" ++ method.name ++ "\", " ++
    (if method.hasInputs then "in" else "nil") ++ ", " ++ target ++ ")"

/-- The function of a method. -/
def function (method : Method) : Func :=
  let name := Convention.go.methodName method.name
  let output := Convention.go.outputType method.name
  { name := name
    doc := some (Text.trimEnd (name ++ " " ++ method.description))
    receiver := some "c *Client"
    params := if method.hasInputs then ["in " ++ Convention.go.inputType method.name] else []
    returns := some (if method.hasOutputs then "(*" ++ output ++ ", error)" else "error")
    body :=
      if method.hasOutputs then
        [.line ("var out " ++ output),
          .line ("if err := " ++ call method "&out" ++ "; err != nil \x7b"),
          .line "\treturn nil, err",
          .line "\x7d",
          .line "return &out, nil"]
      else [.line ("return " ++ call method "nil")] }

/-- The error type of clients, and the function that makes a call. -/
def callHelper : List String := [
  "// Error is an error returned by the client.",
  "type Error struct \x7b",
  "\tStatus     string",
  "\tStatusCode int",
  "\tType       string",
  "\tMessage    string",
  "\x7d",
  "",
  "// Error implementation.",
  "func (e Error) Error() string \x7b",
  "\tif e.Type == \"\" \x7b",
  "\t\treturn fmt.Sprintf(\"%s: %d\", e.Status, e.StatusCode)",
  "\t\x7d",
  "\treturn fmt.Sprintf(\"%s: %s\", e.Type, e.Message)",
  "\x7d",
  "",
  "// call POSTs in to endpoint/method and decodes the response into out.",
  "func call(client *http.Client, authToken, endpoint, method string, in, out any) error \x7b",
  "\tvar body io.Reader",
  "",
  "\tif client == nil \x7b",
  "\t\tclient = http.DefaultClient",
  "\t\x7d",
  "",
  "\tif in != nil \x7b",
  "\t\tvar buf bytes.Buffer",
  "\t\tif err := json.NewEncoder(&buf).Encode(in); err != nil \x7b",
  "\t\t\treturn fmt.Errorf(\"encoding: %w\", err)",
  "\t\t\x7d",
  "\t\tbody = &buf",
  "\t\x7d",
  "",
  "\treq, err := http.NewRequest(\"POST\", endpoint+\"/\"+method, body)",
  "\tif err != nil \x7b",
  "\t\treturn err",
  "\t\x7d",
  "\treq.Header.Set(\"Content-Type\", \"application/json\")",
  "",
  "\tif authToken != \"\" \x7b",
  "\t\treq.Header.Set(\"Authorization\", \"Bearer \"+authToken)",
  "\t\x7d",
  "",
  "\tres, err := client.Do(req)",
  "\tif err != nil \x7b",
  "\t\treturn err",
  "\t\x7d",
  "\tdefer res.Body.Close()",
  "",
  "\tif res.StatusCode >= 300 \x7b",
  "\t\tvar e Error",
  "\t\tif res.Header.Get(\"Content-Type\") == \"application/json\" \x7b",
  "\t\t\tif err := json.NewDecoder(res.Body).Decode(&e); err != nil \x7b",
  "\t\t\t\treturn err",
  "\t\t\t\x7d",
  "\t\t\x7d",
  "\t\te.Status = http.StatusText(res.StatusCode)",
  "\t\te.StatusCode = res.StatusCode",
  "\t\treturn e",
  "\t\x7d",
  "",
  "\tif out != nil \x7b",
  "\t\tif err := json.NewDecoder(res.Body).Decode(out); err != nil \x7b",
  "\t\t\treturn err",
  "\t\t\x7d",
  "\t\x7d",
  "",
  "\treturn nil",
  "\x7d"]

def imports : Imports where
  standard := ["bytes", "encoding/json", "fmt", "io", "net/http"]

def file (config : GoClient) (schema : Schema) : GoCode.File where
  package := config.package
  imports := imports
  decls := .struct clientStruct :: (schema.methods.map fun method => .func (function method)) ++
    [.raw ("\n".intercalate callHelper)]

def emit (config : GoClient) (schema : Schema) : List GeneratedFile :=
  [{ path := "client.go", content := (config.file schema).text }]

def backend (config : GoClient) : Backend :=
  .ofEmit "go-client" fun schema => .ok (config.emit schema)

end GoClient

end RpcSchema
