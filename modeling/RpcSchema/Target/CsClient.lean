import RpcSchema.Code.Mark
import RpcSchema.Generate.Backend
import RpcSchema.Generate.Model
import RpcSchema.Generate.TypeMapping
import RpcSchema.Target.CsCode

/-!
C# clients: one file with a class for each record type, an exception, and the client class.
-/

namespace RpcSchema

open Code CsCode Naming

structure CsClient where
  «namespace» : String := "MyNamespace"
  className : String := "Client"

namespace CsClient

def exceptionName (config : CsClient) : String := config.className ++ "Exception"

/-- The namespaces that every client uses. -/
def usings : List String := [
  "using System;",
  "using System.Collections.Generic;",
  "using System.Net.Http;",
  "using System.Net.Http.Headers;",
  "using System.Threading.Tasks;",
  "using Newtonsoft.Json;"]

/-- The function that makes a call. -/
def callHelper (exception : String) : List String := [
  "private async Task<string> CallAsync(string method, object parameters = null)",
  "\x7b",
  "    var message = new HttpRequestMessage(HttpMethod.Post, $\"\x7b_url\x7d/\x7bmethod\x7d\");",
  "    if (!string.IsNullOrWhiteSpace(_authToken))",
  "        message.Headers.Add(\"Authorization\", $\"Bearer \x7b_authToken\x7d\");",
  "    if (parameters != null)",
  "    \x7b",
  "        message.Content = new StringContent(JsonConvert.SerializeObject(parameters));",
  "        message.Content.Headers.ContentType = new MediaTypeHeaderValue(\"application/json\");",
  "    \x7d",
  "",
  "    var response = await _httpClient.SendAsync(message);",
  "    var status = (int)response.StatusCode;",
  "    var content = await response.Content.ReadAsStringAsync();",
  "    if (status < 300)",
  "        return content;",
  "",
  "    Dictionary<string, string> body = null;",
  "    try",
  "    \x7b",
  "        body = JsonConvert.DeserializeObject<Dictionary<string, string>>(content);",
  "    \x7d",
  "    catch (JsonException)",
  "    \x7b",
  "    \x7d",
  "    if (body != null && body.TryGetValue(\"message\", out var error))",
  "    \x7b",
  "        body.TryGetValue(\"type\", out var type);",
  "        throw new " ++ exception ++ "(status, type, error);",
  "    \x7d",
  "    throw new " ++ exception ++ "(status);",
  "\x7d"]

/-- The members of the exception class. -/
def exceptionMembers (exception : String) : List String := [
  "/// <summary>",
  "/// Status is the HTTP status code of the response.",
  "/// </summary>",
  "public int Status \x7b get; \x7d",
  "",
  "/// <summary>",
  "/// Type is the error type reported by the API, if any.",
  "/// </summary>",
  "public string Type \x7b get; \x7d",
  "",
  "public " ++ exception ++ "(int status)",
  "    : base($\"\x7bstatus\x7d response\")",
  "\x7b",
  "    Status = status;",
  "\x7d",
  "",
  "public " ++ exception ++ "(int status, string type, string message)",
  "    : base($\"\x7bstatus\x7d response: \x7btype\x7d: \x7bmessage\x7d\")",
  "\x7b",
  "    Status = status;",
  "    Type = type;",
  "\x7d"]

/-- The members of the client class that all calls share. -/
def clientHead (className : String) : List String := [
  "private readonly HttpClient _httpClient;",
  "private readonly string _url;",
  "private readonly string _authToken;",
  "",
  "/// <summary>",
  "/// Initialize with the API's base url and an optional bearer token.",
  "/// </summary>",
  "public " ++ className ++ "(HttpClient httpClient, string url, string authToken = null)",
  "\x7b",
  "    _httpClient = httpClient;",
  "    _url = url;",
  "    _authToken = authToken;",
  "\x7d"]

def property (schema : Schema) (field : Field) : Except GenerateError Property := do
  let name := Convention.csharp.fieldName field.name
  return {
    name := name
    key := field.name
    type := ← TypeMapping.csharp.field schema field
    doc := field.sentence (name ++ " is ") }

/-- The comment above a record type. -/
def modelDoc (model : Model) : Option String :=
  match model with
  | .type type =>
    if type.description.isEmpty then none
    else some (model.name Convention.csharp ++ " " ++ type.description)
  | model => some (model.name Convention.csharp ++ " params.")

/-- The declaration of a record type. -/
def declare (schema : Schema) (model : Model) : Except GenerateError ClassDecl := do
  let properties ← model.fields.mapM (property schema)
  return {
    name := model.name Convention.csharp
    doc := modelDoc model
    members := properties.map .property }

def exceptionClass (config : CsClient) : ClassDecl where
  name := config.exceptionName
  doc := some (config.exceptionName ++ " is an error returned by the API.")
  base := some "Exception"
  members := [.raw ("\n".intercalate (exceptionMembers config.exceptionName))]

/-- The expression that makes a call of a method. -/
def call (method : RpcSchema.Method) : String :=
  "CallAsync(\"" ++ method.name ++ "\"" ++ if method.hasInputs then ", input)" else ")"

/-- The function of a method. -/
def function (method : RpcSchema.Method) : CsCode.Method :=
  let name := Convention.csharp.methodName method.name
  let output := Convention.csharp.outputType method.name
  { name := name
    doc := if method.description.isEmpty then none else some (name ++ " " ++ method.description)
    isAsync := true
    params :=
      if method.hasInputs then
        [{ name := "input", type := Convention.csharp.inputType method.name }]
      else []
    returns := if method.hasOutputs then "Task<" ++ output ++ ">" else "Task"
    body :=
      if method.hasOutputs then
        ["var res = await " ++ call method ++ ";",
          "return JsonConvert.DeserializeObject<" ++ output ++ ">(res);"]
      else ["await " ++ call method ++ ";"] }

def clientClass (config : CsClient) (schema : Schema) : ClassDecl where
  name := config.className
  doc := some (config.className ++ " is the " ++ schema.name ++ " API client.")
  members :=
    .raw ("\n".intercalate (clientHead config.className)) ::
      (schema.methods.map fun method => .method (function method)) ++
      [.raw ("\n".intercalate (callHelper config.exceptionName))]

/-- The classes of a schema's client. -/
def classes (config : CsClient) (schema : Schema) : Except GenerateError (List ClassDecl) := do
  let models ← schema.models.mapM (declare schema)
  return models ++ [config.exceptionClass, config.clientClass schema]

def fragments (config : CsClient) (classes : List ClassDecl) : List Fragment :=
  [.comment generatedMark, .blank] ++ usings.map .line ++
    [.blank, .line ("namespace " ++ config.«namespace»),
      block "\x7b" (spaced (classes.map ClassDecl.fragments)) "\x7d"]

def emit (config : CsClient) (schema : Schema) : Except GenerateError (List GeneratedFile) := do
  let classes ← config.classes schema
  return [{ path := config.className ++ ".cs", content := source (config.fragments classes) }]

def backend (config : CsClient) : Backend := .ofEmit "dotnet-client" config.emit

end CsClient

end RpcSchema
