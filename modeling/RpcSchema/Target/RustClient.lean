import RpcSchema.Target.RustServer

/-!
Rust clients: a struct with an asynchronous function for each method.
-/

namespace RpcSchema

open Code Naming RustCode Text

structure RustClient where
  types : String := RustCode.defaultTypes

namespace RustClient

/-- The error type of clients. -/
def clientError : List String := [
  "/// ClientError is an error returned by the client.",
  "#[derive(Debug)]",
  "pub enum ClientError \x7b",
  "    /// The server answered with a status of 300 or above.",
  "    Status \x7b",
  "        status: u16,",
  "        kind: Option<String>,",
  "        message: String,",
  "    \x7d,",
  "    /// The request could not be sent or the response could not be read.",
  "    Transport(reqwest::Error),",
  "\x7d",
  "",
  "impl fmt::Display for ClientError \x7b",
  "    fn fmt(&self, f: &mut fmt::Formatter<'_>) -> fmt::Result \x7b",
  "        match self \x7b",
  "            ClientError::Status \x7b",
  "                kind: Some(kind),",
  "                message,",
  "                ..",
  "            \x7d => write!(f, \"\x7b\x7d: \x7b\x7d\", kind, message),",
  "            ClientError::Status \x7b status, .. \x7d => write!(f, \"request failed with status \x7b\x7d\", status),",
  "            ClientError::Transport(err) => write!(f, \"\x7b\x7d\", err),",
  "        \x7d",
  "    \x7d",
  "\x7d",
  "",
  "impl std::error::Error for ClientError \x7b",
  "    fn source(&self) -> Option<&(dyn std::error::Error + 'static)> \x7b",
  "        match self \x7b",
  "            ClientError::Transport(err) => Some(err),",
  "            ClientError::Status \x7b .. \x7d => None,",
  "        \x7d",
  "    \x7d",
  "\x7d",
  "",
  "impl From<reqwest::Error> for ClientError \x7b",
  "    fn from(err: reqwest::Error) -> Self \x7b",
  "        ClientError::Transport(err)",
  "    \x7d",
  "\x7d",
  "",
  "#[derive(Deserialize)]",
  "struct ErrorBody \x7b",
  "    #[serde(rename = \"type\")]",
  "    kind: Option<String>,",
  "    #[serde(default)]",
  "    message: String,",
  "\x7d"]

/-- The body of the function that sends a request. -/
def sendBody : List String := [
  "let mut req = self.http.post(format!(\"\x7b\x7d/\x7b\x7d\", self.url, method));",
  "if let Some(body) = body \x7b",
  "    req = req.json(body);",
  "\x7d",
  "if let Some(token) = &self.auth_token \x7b",
  "    req = req.bearer_auth(token);",
  "\x7d",
  "",
  "let res = req.send().await?;",
  "let status = res.status().as_u16();",
  "if status < 300 \x7b",
  "    return Ok(res);",
  "\x7d",
  "",
  "let is_json = res",
  "    .headers()",
  "    .get(reqwest::header::CONTENT_TYPE)",
  "    .is_some_and(|v| v == \"application/json\");",
  "let body = if is_json \x7b",
  "    res.json::<ErrorBody>().await.ok()",
  "\x7d else \x7b",
  "    None",
  "\x7d;",
  "Err(ClientError::Status \x7b",
  "    status,",
  "    kind: body.as_ref().and_then(|b| b.kind.clone()),",
  "    message: body.map(|b| b.message).unwrap_or_default(),",
  "\x7d)"]

def clientStruct (schema : Schema) : Struct where
  name := "Client"
  doc := some ("Client is the " ++ schema.name ++ " API client.")
  derives := ["Debug", "Clone"]
  fields := [
    { name := "url", type := "String", isPublic := false },
    { name := "auth_token", type := "Option<String>", isPublic := false },
    { name := "http", type := "reqwest::Client", isPublic := false }]

/-- The functions that make a client. -/
def constructors : List Func := [
  { name := "new"
    doc := some "Create a client for the API served at `url`."
    params := [{ name := "url", type := "impl Into<String>" }]
    returns := some "Self"
    body := [
      .line "Self \x7b",
      .line "    url: url.into(),",
      .line "    auth_token: None,",
      .line "    http: reqwest::Client::new(),",
      .line "\x7d"] },
  { name := "with_auth_token"
    doc := some "Send `token` as a bearer token with every request."
    params := [{ name := "mut self" }, { name := "token", type := "impl Into<String>" }]
    returns := some "Self"
    body := [.line "self.auth_token = Some(token.into());", .line "self"] },
  { name := "with_http_client"
    doc := some "Use `http` for making requests instead of a default client."
    params := [{ name := "mut self" }, { name := "http", type := "reqwest::Client" }]
    returns := some "Self"
    body := [.line "self.http = http;", .line "self"] }]

/-- The function that sends a request. -/
def sendFunc : Func where
  name := "send"
  isPublic := false
  isAsync := true
  generics := some "B: Serialize + ?Sized"
  params := [selfParam, { name := "method", type := "&str" },
    { name := "body", type := "Option<&B>" }]
  returns := some "Result<reqwest::Response, ClientError>"
  body := sendBody.map .line

/-- The expression that sends a call of a method. -/
def sendCall (method : Method) : String :=
  if method.hasInputs then "self.send(" ++ quoted method.name ++ ", Some(input)).await?"
  else "self.send::<()>(" ++ quoted method.name ++ ", None).await?"

/-- The function of a method. -/
def function (method : Method) : Func :=
  let name := Convention.rust.methodName method.name
  { name := name
    doc := if method.description.isEmpty then none else some (name ++ " " ++ method.description)
    isAsync := true
    params := selfParam ::
      if method.hasInputs then
        [{ name := "input", type := "&" ++ Convention.rust.inputType method.name }]
      else []
    returns :=
      some ("Result<" ++
        (if method.hasOutputs then Convention.rust.outputType method.name else "()") ++
        ", ClientError>")
    body :=
      if method.hasOutputs then
        [.line ("let res = " ++ sendCall method ++ ";"), .line "Ok(res.json().await?)"]
      else [.line (sendCall method ++ ";"), .line "Ok(())"] }

def file (config : RustClient) (schema : Schema) : File where
  uses := ((({} : Uses).add "std" "fmt").addAll "serde" ["Deserialize", "Serialize"]).addAll
    config.types (RustServer.methodTypes schema)
  decls := [
    .raw ("\n".intercalate clientError),
    .struct (clientStruct schema),
    .impl {
      type := "Client"
      methods := constructors ++ schema.methods.map function ++ [sendFunc] }]

def emit (config : RustClient) (schema : Schema) : List GeneratedFile :=
  [{ path := "client.rs", content := (config.file schema).text }]

def backend (config : RustClient) : Backend :=
  .ofEmit "rust-client" fun schema => .ok (config.emit schema)

end RustClient

end RpcSchema
