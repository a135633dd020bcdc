import RpcSchema.Proofs.Naming.Alike
import RpcSchema.Proofs.Schema.Canonical
import RpcSchema.Proofs.Schema.Equality
import RpcSchema.Proofs.Validation.Acceptance
import RpcSchema.Proofs.Wire.Calls

/-!
# Functions of generated Rust

A generated trait or implementation has a function for each method of the schema, next to functions
that every schema has: the service tells its health, and a client is made and sends requests. The
lints compare the names of methods as they are on the wire, and the names that all functions of one
item have need not stay apart: this module says when they do.
-/

namespace RpcSchema

open Naming

/-- The names of the functions in a declaration, in order. -/
def RustCode.Decl.functionNames (decl : RustCode.Decl) : List String :=
  decl.functions.map RustCode.Func.name

theorem RustCode.Decl.nodup_functionNames_raw (text : String) :
    (RustCode.Decl.raw text).functionNames.Nodup :=
  List.nodup_nil

theorem RustCode.Decl.nodup_functionNames_struct (struct : RustCode.Struct) :
    (RustCode.Decl.struct struct).functionNames.Nodup :=
  List.nodup_nil

/-- In no declaration of a file two functions have one name. -/
def RustCode.File.FunctionsApart (file : RustCode.File) : Prop :=
  ∀ decl ∈ file.decls, decl.functionNames.Nodup

instance (file : RustCode.File) : Decidable file.FunctionsApart :=
  inferInstanceAs (Decidable (∀ decl ∈ file.decls, decl.functionNames.Nodup))

/-- The methods of a schema have different words, and none has the words of a function that is
there anyway. -/
def Schema.MethodsApart (schema : Schema) (fixed : List String) : Prop :=
  ((fixed ++ schema.methods.map Method.name).map words).Nodup

instance (schema : Schema) (fixed : List String) : Decidable (schema.MethodsApart fixed) :=
  inferInstanceAs (Decidable (List.Nodup _))

/-! ## Names of functions -/

/-- Functions have one name exactly when their methods have the same words. -/
theorem Convention.methodName_rust_eq_iff {name other : String} :
    Convention.rust.methodName name = Convention.rust.methodName other ↔
      words name = words other := by
  have likeField : ∀ name : String,
      Convention.rust.methodName name = Convention.rust.fieldName name := fun _ => rfl
  rw [likeField, likeField]
  exact ⟨Convention.alike_of_fieldName_eq Convention.rust_mem_languages,
    Convention.fieldName_eq_of_words_eq (by decide)⟩

/-- What all functions of an item are called, where `fixed` are the ones that are there anyway. -/
theorem Schema.nodup_functions_iff (schema : Schema) {fixed : List String}
    (written : fixed.map Convention.rust.methodName = fixed) {names : List String}
    (named : names.Perm
      (fixed ++ schema.methods.map fun method => Convention.rust.methodName method.name)) :
    names.Nodup ↔ schema.MethodsApart fixed := by
  have all : fixed ++ (schema.methods.map fun method => Convention.rust.methodName method.name) =
      (fixed ++ schema.methods.map Method.name).map Convention.rust.methodName := by
    rw [List.map_append, written, List.map_map]
    rfl
  rw [named.nodup_iff, all, MethodsApart, List.Nodup, List.Nodup, List.pairwise_map,
    List.pairwise_map]
  simp only [ne_eq, Convention.methodName_rust_eq_iff]

/-! ## Servers -/

namespace RustServer

variable (config : RustServer) (schema : Schema)

theorem functionsApart_serverFile_iff :
    (config.serverFile schema).FunctionsApart ↔ schema.MethodsApart ["health"] := by
  have service : (RustCode.Decl.interface (serviceTrait schema)).functionNames =
      ["health"] ++ schema.methods.map fun method => Convention.rust.methodName method.name := by
    simp only [RustCode.Decl.functionNames, RustCode.Decl.functions, serviceTrait, List.map_cons,
      List.map_map]
    rfl
  have dispatched : (RustCode.Decl.func (dispatch (config.arms schema))).functionNames.Nodup :=
    List.nodup_singleton _
  rw [RustCode.File.FunctionsApart, serverFile, List.forall_mem_cons, List.forall_mem_singleton,
    and_iff_left dispatched]
  exact schema.nodup_functions_iff (by decide) (.of_eq service)

theorem functionsApart_stubFile_iff :
    (config.stubFile schema).FunctionsApart ↔ schema.MethodsApart [] := by
  have stub : (schema.methods.map stubFunc).map RustCode.Func.name =
      schema.methods.map fun method => Convention.rust.methodName method.name :=
    List.map_map
  rw [RustCode.File.FunctionsApart, stubFile, List.forall_mem_cons, List.forall_mem_singleton,
    and_iff_right (RustCode.Decl.nodup_functionNames_struct _)]
  exact schema.nodup_functions_iff rfl (.of_eq stub)

end RustServer

/-! ## Clients -/

namespace RustClient

variable (config : RustClient) (schema : Schema)

theorem functionsApart_file_iff :
    (config.file schema).FunctionsApart ↔
      schema.MethodsApart ["new", "with_auth_token", "with_http_client", "send"] := by
  have client : ((constructors ++ schema.methods.map function ++ [sendFunc]).map
      RustCode.Func.name).Perm
        (["new", "with_auth_token", "with_http_client", "send"] ++
          schema.methods.map fun method => Convention.rust.methodName method.name) := by
    have sendsFirst : (schema.methods.map function ++ [sendFunc]).Perm
        ([sendFunc] ++ schema.methods.map function) := List.perm_append_comm
    rw [List.append_assoc]
    refine ((sendsFirst.append_left constructors).map RustCode.Func.name).trans (.of_eq ?_)
    rw [← List.append_assoc, List.map_append, List.map_map]
    rfl
  rw [RustCode.File.FunctionsApart, file, List.forall_mem_cons, List.forall_mem_cons,
    List.forall_mem_singleton, and_iff_right (RustCode.Decl.nodup_functionNames_raw _),
    and_iff_right (RustCode.Decl.nodup_functionNames_struct _)]
  exact schema.nodup_functions_iff (by decide) client

end RustClient

/-- The functions of a generated service, of its stub and of a client have different names exactly
when the methods of the schema have different words, `health` counted as a method of the service,
and the functions that make a client and send its requests as methods of the client. -/
theorem functions_apart_iff {schema : Schema} (accepted : schema.Accepted) (server : RustServer)
    (client : RustClient) :
    (server.backend.generate schema = .done [
        { path := "server.rs", content := (server.serverFile schema).text },
        { path := "service_impl.rs", content := (server.stubFile schema).text,
          overwrite := .ifMissing }] ∧
      ((server.serverFile schema).FunctionsApart ↔ schema.MethodsApart ["health"]) ∧
      ((server.stubFile schema).FunctionsApart ↔ schema.MethodsApart [])) ∧
    client.backend.generate schema = .done [
        { path := "client.rs", content := (client.file schema).text }] ∧
      ((client.file schema).FunctionsApart ↔
        schema.MethodsApart ["new", "with_auth_token", "with_http_client", "send"]) :=
  ⟨⟨accepted.generate_eq server.backend, server.functionsApart_serverFile_iff schema,
      server.functionsApart_stubFile_iff schema⟩,
    accepted.generate_eq client.backend, client.functionsApart_file_iff schema⟩

/-- The methods of a switchboard, one named like a reserved word. -/
def switchboard : Schema :=
  { name := "switchboard"
    version := "1"
    methods := [{ name := "addLine" }, { name := "drop_line" }, { name := "move" }] }

theorem functions_apart_switchboard :
    switchboard.Accepted ∧
      (({} : RustServer).serverFile switchboard).FunctionsApart ∧
      (({} : RustServer).stubFile switchboard).FunctionsApart ∧
      (({} : RustClient).file switchboard).FunctionsApart := by
  have accepted : switchboard.Accepted := .of_clean (.inl rfl) (by decide +kernel)
  obtain ⟨⟨-, service, stub⟩, -, client⟩ := functions_apart_iff accepted {} {}
  exact ⟨accepted, service.mpr (by decide +kernel), stub.mpr (by decide +kernel),
    client.mpr (by decide +kernel)⟩

/-- Two methods that differ in how they are written, and two that are named like functions which
every service or client has. -/
def crossedLines : Schema :=
  { name := "k"
    version := ""
    methods := [{ name := "addLine" }, { name := "add_line" }, { name := "health" },
      { name := "send" }] }

def crossedLinesText : String :=
  "\x7b\"name\":\"k\",\"version\":\"\",\"description\":\"\",\"groups\":[],\"types\":\x7b\x7d," ++
    "\"methods\":[\x7b\"name\":\"addLine\"\x7d,\x7b\"name\":\"add_line\"\x7d," ++
    "\x7b\"name\":\"health\"\x7d,\x7b\"name\":\"send\"\x7d]\x7d"

/-- Being accepted is not enough: in each generated item two functions have one name, however the
generators are set. -/
theorem functions_clash_crossedLines :
    load crossedLinesText = .ok crossedLines ∧ crossedLines.Accepted ∧
      (∀ config : RustServer, ¬ (config.serverFile crossedLines).FunctionsApart ∧
        ¬ (config.stubFile crossedLines).FunctionsApart) ∧
      ∀ config : RustClient, ¬ (config.file crossedLines).FunctionsApart := by
  have canonical : crossedLines.IsCanonical :=
    ⟨by decide, by decide, by decide, by decide, by decide, by decide⟩
  have loads : load crossedLinesText = .ok crossedLines :=
    load_of_canonical canonical (.append (.append .literal .literal) .literal)
      (by decide +kernel) (eq_ok_of_toOption (by decide +kernel))
  have accepted : crossedLines.Accepted := .of_clean (.inl rfl) (by decide +kernel)
  refine ⟨loads, accepted, fun config => ⟨?_, ?_⟩, fun config => ?_⟩
  · rw [config.functionsApart_serverFile_iff]
    decide +kernel
  · rw [config.functionsApart_stubFile_iff]
    decide +kernel
  · rw [config.functionsApart_file_iff]
    decide +kernel

end RpcSchema
