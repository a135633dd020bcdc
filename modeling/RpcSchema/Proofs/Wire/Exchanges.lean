import RpcSchema.Proofs.Schema.Canonical
import RpcSchema.Proofs.Wire.Answers

/-!
# Servers and clients of one schema agree on the wire

What is read off any two programs that are generated from one accepted schema is the same: every
method once, in the order of the schema, with a body in each direction exactly when it has fields
for it.
-/

namespace RpcSchema

open Code Naming

/-- A generated file with a client. -/
inductive ClientFile
  | go (config : GoClient)
  | typescript (config : TsClient)
  | rust (config : RustClient)
  | csharp (config : CsClient)

/-- What the client in a generated file says of the methods that it calls. -/
def ClientFile.exchanges (schema : Schema) : ClientFile → Except GenerateError (List Exchange)
  | .go config => .ok (GoClient.exchanges (config.file schema))
  | .typescript config =>
    .ok (TsClient.exchanges (config.file schema) (TsClient.clientClass (TsClient.calls schema)))
  | .rust config => .ok (RustClient.exchanges (config.file schema))
  | .csharp config => (config.classes schema).map CsClient.exchanges

theorem CsClient.exists_classes {schema : Schema} (accepted : schema.Accepted)
    (config : CsClient) : ∃ classes, config.classes schema = .ok classes := by
  obtain ⟨outlines, done⟩ := 
    ModelFile.exists_outlines accepted (show (ModelFile.csharp config).validates = false from rfl)
  rw [ModelFile.outlines] at done
  cases made : config.classes schema with
  | error refusal =>
      rw [made] at done
      cases done
  | ok classes => exact ⟨classes, rfl⟩

theorem ClientFile.exchanges_eq {schema : Schema} (named : schema.IsNamed)
    (accepted : schema.Accepted) (file : ClientFile) :
    file.exchanges schema = .ok (schema.methods.map Method.exchange) := by
  cases file with
  | go config => exact congrArg Except.ok (GoClient.exchanges_file config named)
  | typescript config => exact congrArg Except.ok (TsClient.exchanges_file config named)
  | rust config => exact congrArg Except.ok (RustClient.exchanges_file config named)
  | csharp config =>
      obtain ⟨classes, made⟩ := CsClient.exists_classes accepted config
      rw [ClientFile.exchanges, made]
      exact congrArg Except.ok (CsClient.exchanges_classes named made)

/-- The paths of a server's cases are apart: no method is called like the health check. -/
theorem GoServer.nodup_paths {schema : Schema} (named : schema.IsNamed)
    (accepted : schema.Accepted) (config : GoServer) :
    ((GoServer.cases (config.file schema)).map GoServer.Case.path).Nodup := by
  have paths : (GoServer.cases (config.file schema)).map GoServer.Case.path =
      "/_health" :: (schema.methods.map Method.name).map ("/" ++ ·) := by
    rw [GoServer.cases_file config named, List.map_cons, List.map_map, List.map_map]
    rfl
  rw [paths]
  refine List.nodup_cons.mpr ⟨fun health => ?_, ?_⟩
  · obtain ⟨name, isName, same⟩ := List.mem_map.mp health
    obtain ⟨method, declared, rfl⟩ := List.mem_map.mp isName
    have health : method.name = "_health" := by
      have characters : ['/'] ++ method.name.toList = ['/'] ++ "_health".toList := by
        rw [← show "/".toList = ['/'] from rfl, ← String.toList_append, same]
        rfl
      exact String.toList_inj.mp (List.append_cancel_left characters)
    have identifier := (named.methods method declared).1
    rw [health] at identifier
    exact absurd identifier (by decide)
  · refine accepted.method_names_nodup.map fun name other same => ?_
    have characters := congrArg String.toList same
    rw [String.toList_append, String.toList_append] at characters
    exact String.toList_inj.mp (List.append_cancel_left characters)

/-- Programs that are generated from one accepted schema, whatever they are configured to be, agree
on the wire. Every method is called once by each client, and has one arm or case in each server; a
body is passed exactly where both servers read one, which is where the method has inputs, and
decoded exactly where both answer with one, which is where it has outputs. -/
theorem exchanges_agree {text : String} {schema : Schema} (loaded : load text = .ok schema)
    (accepted : schema.Accepted) :
    (schema.methods.map Method.name).Nodup ∧
    (∀ file : ClientFile, file.exchanges schema = .ok (schema.methods.map Method.exchange)) ∧
    (∀ config : RustServer, RustServer.exchanges (config.serverFile schema) =
      schema.methods.map fun method => some method.exchange) ∧
    (∀ config : GoServer,
      ((GoServer.cases (config.file schema)).map GoServer.Case.path).Nodup ∧
      GoServer.cases (config.file schema) = ⟨"/_health", false, none⟩ ::
        (schema.methods.map fun method =>
          ⟨"/" ++ method.name, method.hasInputs, some (GoServer.wrapperName method)⟩) ∧
      GoServer.wrappers (config.file schema) =
        schema.methods.map fun method =>
          (GoServer.wrapperName method, some method.hasOutputs)) ∧
    -- The class that is read in a TypeScript client is the one at the end of its file.
    ∀ config : TsClient, (config.file schema).decls.getLast? =
      some (.raw (TsCode.source (TsClient.clientClass (TsClient.calls schema)))) := by
  have named := isNamed_of_load loaded
  exact ⟨accepted.method_names_nodup, ClientFile.exchanges_eq named accepted,
    fun config => RustServer.exchanges_serverFile config named,
    fun config => ⟨GoServer.nodup_paths named accepted config, GoServer.cases_file config named,
      GoServer.wrappers_file config schema⟩,
    fun config => List.getLast?_concat⟩

/-- A lamp whose methods have bodies in no direction, in either one and in both. -/
def lamp : Schema :=
  { name := "lamp"
    version := ""
    methods := [
      { name := "blink" },
      { name := "dim"
        inputs := [{ name := "level", type := .primitive .integer }] },
      { name := "fade"
        inputs := [{ name := "level", type := .primitive .integer }]
        outputs := [{ name := "since", type := .primitive .timestamp }] },
      { name := "is_on"
        outputs := [{ name := "on", type := .primitive .boolean }] }] }

def lampText : String :=
  "\x7b\"name\":\"lamp\",\"version\":\"\",\"description\":\"\",\"groups\":[],\"types\":\x7b\x7d," ++
    "\"methods\":[\x7b\"name\":\"blink\"\x7d," ++
    "\x7b\"name\":\"dim\",\"inputs\":[\x7b\"name\":\"level\",\"type\":\"integer\"\x7d]\x7d," ++
    "\x7b\"name\":\"fade\",\"inputs\":[\x7b\"name\":\"level\",\"type\":\"integer\"\x7d]," ++
    "\"outputs\":[\x7b\"name\":\"since\",\"type\":\"timestamp\"\x7d]\x7d," ++
    "\x7b\"name\":\"is_on\",\"outputs\":[\x7b\"name\":\"on\",\"type\":\"boolean\"\x7d]\x7d]\x7d"

theorem load_lamp : load lampText = .ok lamp := by
  have canonical : lamp.IsCanonical :=
    ⟨by decide, by decide, by decide, by decide, by decide, by decide⟩
  exact load_of_canonical canonical
    (.append (.append (.append (.append (.append .literal .literal) .literal) .literal) .literal)
      .literal) (by decide +kernel) (eq_ok_of_toOption (by decide +kernel))

theorem accepted_lamp : lamp.Accepted := .of_clean (.inl rfl) (by decide +kernel)

theorem exchanges_lamp :
    load lampText = .ok lamp ∧ lamp.Accepted ∧
      (∀ file : ClientFile, file.exchanges lamp = .ok [⟨"blink", false, false⟩,
        ⟨"dim", true, false⟩, ⟨"fade", true, true⟩, ⟨"is_on", false, true⟩]) ∧
      ∀ config : RustServer, RustServer.exchanges (config.serverFile lamp) =
        [some ⟨"blink", false, false⟩, some ⟨"dim", true, false⟩, some ⟨"fade", true, true⟩,
          some ⟨"is_on", false, true⟩] := by
  have agreed := exchanges_agree load_lamp accepted_lamp
  exact ⟨load_lamp, accepted_lamp, agreed.2.1, agreed.2.2.1⟩

end RpcSchema
