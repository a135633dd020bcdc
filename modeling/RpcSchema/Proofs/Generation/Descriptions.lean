import RpcSchema.Proofs.Generation.TypeDescriptions
import RpcSchema.Target.GoClient
import RpcSchema.Target.GoServer
import RpcSchema.Target.TsClient

/-!
# Descriptions in generated code

Descriptions go to comments as they are. Whether they stay there is up to them: a comment behind
`//` ends with its line, and a documentation block with the first closing mark. Where descriptions
have neither, generated code is the same as without them.
-/

namespace RpcSchema

open Code Naming

/-! ## Go servers and clients -/

theorem Convention.not_mem_methodName {convention : Convention}
    (listed : convention ∈ Convention.languages) (noKey : convention.methodCase ≠ .wire)
    {separator : Char} (separates : Text.isSeparator separator) (unmarked : separator ∉ marks)
    (name : String) : separator ∉ (convention.methodName name).toList :=
  Convention.not_mem_safeName listed separates unmarked
    (Convention.not_mem_cased separates unmarked noKey name)

theorem oneLine_memberName {convention : Convention} (listed : convention ∈ Convention.languages)
    (name : String) : OneLine (convention.memberName name) :=
  Convention.not_mem_safeName listed (by decide) (by decide)
    (not_mem_memberName (by decide) _ name)

/-- A description that was left out fits a line. -/
theorem oneLine_undescribed {schema : Schema} :
    ∀ method ∈ schema.undescribed.methods, OneLine method.description :=
  List.forall_mem_map.mpr fun _ _ => (by decide : OneLine "")

/-- Functions of methods that are the same but for their comments. -/
theorem GoCode.map_bare_functions {function : Method → GoCode.Func}
    (alike : ∀ method, (function method.undescribed).bare = (function method).bare)
    (methods : List Method) :
    ((methods.map Method.undescribed).map fun method => GoCode.Decl.func (function method)).map
        GoCode.Decl.bare =
      (methods.map fun method => .func (function method)).map GoCode.Decl.bare := by
  rw [List.map_map, List.map_map, List.map_map]
  exact List.map_congr_left fun method _ => congrArg GoCode.Decl.func (alike method)

namespace GoServer

theorem methodCase_undescribed (config : GoServer) (method : Method) :
    config.methodCase method.undescribed = config.methodCase method := by
  rw [methodCase, methodCase, method.hasInputs_undescribed]
  rfl

theorem bare_wrapper_undescribed (config : GoServer) (method : Method) :
    (config.wrapper method.undescribed).bare = (config.wrapper method).bare := by
  have logs : logLines method.undescribed = logLines method := by
    rw [logLines, logLines, method.hasInputs_undescribed, Method.undescribed, List.map_map]
    rfl
  simp only [wrapper, GoCode.Func.bare, method.hasInputs_undescribed,
    method.hasOutputs_undescribed, method.name_undescribed, wrapperName, inputType, logs]

theorem imports_undescribed (config : GoServer) (schema : Schema) :
    config.imports schema.undescribed = config.imports schema := by
  have inputs : (schema.methods.map Method.undescribed).any Method.hasInputs =
      schema.methods.any Method.hasInputs := by
    rw [List.any_map]
    exact congrArg _ (funext Method.hasInputs_undescribed)
  simp only [imports, Schema.undescribed, List.isEmpty_map, inputs]

theorem bare_file_undescribed (config : GoServer) (schema : Schema) :
    (config.file schema.undescribed).bare = (config.file schema).bare := by
  have router : config.router (schema.methods.map Method.undescribed) =
      config.router schema.methods := by
    have routed : (schema.methods.map Method.undescribed).flatMap config.methodCase =
        schema.methods.flatMap config.methodCase := by
      rw [List.flatMap_map]
      exact List.flatMap_congr fun method _ => config.methodCase_undescribed method
    rw [GoServer.router, postBlock, routed]
    rfl
  simp only [file, GoCode.File.bare, config.imports_undescribed, schema.methods_undescribed, router,
    List.map_cons, GoCode.map_bare_functions config.bare_wrapper_undescribed]

theorem oneLine_docs (config : GoServer) {schema : Schema}
    (single : ∀ method ∈ schema.methods, OneLine method.description) :
    ∀ doc ∈ (config.file schema).docs, OneLine doc := by
  intro doc member
  obtain ⟨decl, isDecl, isDoc⟩ := List.mem_flatMap.mp member
  rcases List.mem_cons.mp isDecl with rfl | ofMethod
  · obtain rfl := List.mem_singleton.mp isDoc
    decide
  · obtain ⟨method, declared, rfl⟩ := List.mem_map.mp ofMethod
    obtain rfl := List.mem_singleton.mp isDoc
    have name : OneLine (wrapperName method) :=
      oneLine_memberName Convention.go_mem_languages method.name
    exact ((name.append (by decide)).append (single method declared)).trimEnd

theorem readFiles_emit (config : GoServer) {schema : Schema}
    (single : ∀ method ∈ schema.methods, OneLine method.description) :
    readFiles codeRows (config.emit schema.undescribed) =
      readFiles codeRows (config.emit schema) := by
  have code : codeRows (config.file schema.undescribed).text = codeRows (config.file schema).text :=
    GoCode.File.codeRows_eq (config.oneLine_docs single) (config.oneLine_docs oneLine_undescribed)
      (config.bare_file_undescribed schema)
  exact congrArg (fun rows => [("server.go", rows)]) code

end GoServer

namespace GoClient

theorem call_undescribed (method : Method) (target : String) :
    call method.undescribed target = call method target := by
  unfold call
  simp only [Method.hasInputs_undescribed, Method.name_undescribed]

theorem bare_function_undescribed (method : Method) :
    (function method.undescribed).bare = (function method).bare := by
  unfold function
  simp only [GoCode.Func.bare, call_undescribed, Method.hasInputs_undescribed,
    Method.hasOutputs_undescribed, Method.name_undescribed]

theorem bare_file_undescribed (config : GoClient) (schema : Schema) :
    (config.file schema.undescribed).bare = (config.file schema).bare := by
  simp only [file, GoCode.File.bare, schema.methods_undescribed, List.map_cons, List.map_append,
    GoCode.map_bare_functions bare_function_undescribed]

theorem oneLine_docs (config : GoClient) {schema : Schema}
    (single : ∀ method ∈ schema.methods, OneLine method.description) :
    ∀ doc ∈ (config.file schema).docs, OneLine doc := by
  intro doc member
  obtain ⟨decl, isDecl, isDoc⟩ := List.mem_flatMap.mp member
  rcases List.mem_append.mp isDecl with inFront | helper
  · rcases List.mem_cons.mp inFront with rfl | ofMethod
    · have fixed : ∀ doc ∈ clientStruct.docs, OneLine doc := by decide
      exact fixed doc isDoc
    · obtain ⟨method, declared, rfl⟩ := List.mem_map.mp ofMethod
      obtain rfl := List.mem_singleton.mp isDoc
      have name : OneLine (Convention.go.methodName method.name) :=
        Convention.not_mem_methodName Convention.go_mem_languages (by decide) (by decide)
          (by decide) method.name
      exact ((name.append (by decide)).append (single method declared)).trimEnd
  · obtain rfl := List.mem_singleton.mp helper
    cases isDoc

theorem readFiles_emit (config : GoClient) {schema : Schema}
    (single : ∀ method ∈ schema.methods, OneLine method.description) :
    readFiles codeRows (config.emit schema.undescribed) =
      readFiles codeRows (config.emit schema) := by
  have code : codeRows (config.file schema.undescribed).text = codeRows (config.file schema).text :=
    GoCode.File.codeRows_eq (config.oneLine_docs single) (config.oneLine_docs oneLine_undescribed)
      (config.bare_file_undescribed schema)
  exact congrArg (fun rows => [("client.go", rows)]) code

end GoClient

/-! ## TypeScript clients -/

/-- The last declaration of a file is written behind all that comes before it. -/
theorem TsCode.File.fragments_concat (imports : List TsCode.Import) (decls : List TsCode.Decl)
    (last : TsCode.Decl) : TsCode.File.fragments ⟨imports, decls ++ [last]⟩ =
      TsCode.File.fragments ⟨imports, decls⟩ ++ .blank :: last.fragments := by
  rw [fragments, fragments, List.flatMap_append, List.flatMap_singleton]
  exact congrArg _ (List.append_assoc _ _ _).symm

namespace TsClient

def Call.undescribed (call : Call) : Call := { call with description := "" }

theorem Call.ofMethod_undescribed (dated : List String) (method : Method) :
    Call.ofMethod dated method.undescribed = (Call.ofMethod dated method).undescribed := by
  simp only [Call.ofMethod, Call.undescribed, method.hasInputs_undescribed,
    method.hasOutputs_undescribed, TsRevivers.isDated_undescribed, Method.name_undescribed]
  rfl

theorem calls_undescribed (schema : Schema) :
    calls schema.undescribed = (calls schema).map Call.undescribed := by
  rw [calls, calls, TsRevivers.datedTypes_undescribed, Schema.undescribed, List.map_map,
    List.map_map]
  exact List.map_congr_left fun method _ => Call.ofMethod_undescribed _ method

theorem usedTypes_undescribed (schema : Schema) :
    usedTypes schema.undescribed = usedTypes schema := by
  simp only [usedTypes, TsRevivers.datedTypes_undescribed, schema.methods_undescribed,
    List.flatMap_map, Method.hasInputs_undescribed, Method.hasOutputs_undescribed,
    Method.name_undescribed]

/-- The documentation of a call stays in its block where the description does. -/
theorem Call.staysInDocs (call : Call) (plain : '*' ∉ call.name.toList)
    (stays : StaysInDocs call.description.toList) :
    StaysInDocs (Text.trimEnd (call.name ++ " " ++ call.description)).toList := by
  have inName : ¬ "*/".toList <:+: call.name.toList :=
    fun within => plain (within.subset (by decide))
  have whole : StaysInDocs (call.name.toList ++ ' ' :: call.description.toList) :=
    not_infix_append_cons (by decide) inName stays
  have spelled : (call.name ++ " " ++ call.description).toList =
      call.name.toList ++ ' ' :: call.description.toList := by simp
  rw [Text.trimEnd, String.toList_ofList, spelled]
  exact fun within => whole (within.trans (prefix_dropTrailingBlanks _).isInfix)

theorem Call.readAlike_func (call : Call) (plain : '*' ∉ call.name.toList)
    (stays : StaysInDocs call.description.toList) :
    ReadAlike (writtenOf call.undescribed.func.fragments) (writtenOf call.func.fragments) := by
  have none : StaysInDocs "".toList := by decide
  have fragments (call : Call) : writtenOf call.func.fragments =
      (Fragment.docBlock (Text.trimEnd (call.name ++ " " ++ call.description))).written ++
        writtenOf [block call.func.signature (call.func.body.map .line) "\x7d"] := rfl
  rw [fragments, fragments call]
  exact (readAlike_docBlock (call.undescribed.staysInDocs plain none)
    (call.staysInDocs plain stays)).append (.refl _)

theorem readAlike_clientClass {calls : List Call} (plain : ∀ call ∈ calls, '*' ∉ call.name.toList)
    (stays : ∀ call ∈ calls, StaysInDocs call.description.toList) :
    ReadAlike (writtenOf (clientClass (calls.map Call.undescribed)))
      (writtenOf (clientClass calls)) := by
  have written (calls : List Call) : writtenOf (clientClass calls) =
      (Fragment.docBlock "Client is the API client.").written ++
        (textRows "export class Client \x7b".toList ++ (writtenOf (clientHead.map Fragment.line) ++
          calls.flatMap fun call => writtenOf (.blank :: call.func.fragments)) ++
            textRows "\x7d".toList) := by
    rw [← writtenOf_flatMap, ← writtenOf_append]
    unfold clientClass block
    simp only [writtenOf, Fragment.written, Option.toList_some, List.flatMap_singleton,
      List.append_nil]
  rw [written, written calls, List.flatMap_map]
  -- Only the members that make calls have descriptions, each in a block that it closes.
  have members : ReadAlike
      (calls.flatMap fun call => writtenOf (.blank :: call.undescribed.func.fragments))
      (calls.flatMap fun call => writtenOf (.blank :: call.func.fragments)) :=
    .flatMap fun call isCall => ReadAlike.append (.refl [[]])
      (call.readAlike_func (plain call isCall) (stays call isCall))
  exact .append (.refl _) (.append (.append (.refl _) (.append (.refl _) members)) (.refl _))

/-- The declarations of a client's file in front of the client. -/
def helpers (schema : Schema) : List TsCode.Decl :=
  [.raw ("\n".intercalate clientError), .raw ("\n".intercalate callHelper)] ++
    (TsRevivers.revivers schema).map fun reviver => .func reviver.func

/-- A client is written behind its imports and helpers. -/
theorem writtenOf_file (config : TsClient) (schema : Schema) :
    writtenOf (config.file schema).fragments =
      writtenOf (TsCode.File.fragments ⟨config.imports schema, helpers schema⟩) ++
        ([] :: writtenOf (clientClass (calls schema))) := by
  have parts : (config.file schema).fragments =
      TsCode.File.fragments ⟨config.imports schema, helpers schema⟩ ++
        .blank :: rawLines (TsCode.source (clientClass (calls schema))) :=
    TsCode.File.fragments_concat (config.imports schema) (helpers schema)
      (.raw (TsCode.source (clientClass (calls schema))))
  rw [parts, writtenOf_append, writtenOf, TsCode.source, writtenOf_rawLines_write]
  rfl

theorem readAlike_file (config : TsClient) {schema : Schema}
    (stays : ∀ method ∈ schema.methods, StaysInDocs method.description.toList) :
    ReadAlike (writtenOf (config.file schema.undescribed).fragments)
      (writtenOf (config.file schema).fragments) := by
  have plain : ∀ call ∈ calls schema, '*' ∉ call.name.toList :=
    List.forall_mem_map.mpr fun method _ => Convention.not_mem_methodName
      Convention.typescript_mem_languages (by decide) (by decide) (by decide) method.name
  have members := readAlike_clientClass plain (List.forall_mem_map.mpr stays)
  have imports : config.imports schema.undescribed = config.imports schema := by
    rw [TsClient.imports, TsClient.imports, usedTypes_undescribed]
  have front : helpers schema.undescribed = helpers schema := by
    rw [helpers, helpers, TsRevivers.revivers_undescribed]
  rw [writtenOf_file, writtenOf_file, calls_undescribed, imports, front]
  exact .append (.refl _) (.append (.refl [[]]) members)

theorem readFiles_emit (config : TsClient) {schema : Schema}
    (stays : ∀ method ∈ schema.methods, StaysInDocs method.description.toList) :
    readFiles outsideDocs (config.emit schema.undescribed) =
      readFiles outsideDocs (config.emit schema) := by
  have alike := (config.readAlike_file stays).append (.refl [[]])
  have text : outsideDocs (config.file schema.undescribed).text =
      outsideDocs (config.file schema).text := by
    rw [outsideDocs, TsCode.File.text, TsCode.source, textRows_write, alike false, ← textRows_write]
    rfl
  exact congrArg (fun rows => [("client.ts", rows)]) text

/-- A row that the client class leaves in any place is a row of the client's file. -/
theorem mem_outsideDocs {config : TsClient} {schema : Schema} {row : List Char}
    (member : ∀ inside, row ∈ (readRows inside (writtenOf (clientClass (calls schema)))).1) :
    row ∈ outsideDocs (config.file schema).text := by
  rw [outsideDocs, TsCode.File.text, TsCode.source, textRows_write, writtenOf_file,
    ← List.singleton_append, ← List.append_assoc, readRows_append, readRows_append]
  -- Whether the rows in front leave a block open does not matter to the row.
  exact List.mem_append_left _ (List.mem_append_right _ (member _))

end TsClient

/-! ## Generated code -/

/-- What is read of the files of a backend, or why there are none. -/
def Backend.reading {α : Type} (backend : Backend) (read : String → α) (schema : Schema) :
    Except GenerateError (List (String × α)) :=
  ((backend.generate schema).files backend.name).map (readFiles read)

/-- Files that read alike are generated alike: no reference is in a description. -/
theorem Backend.reading_undescribed {α : Type} {name : String} {read : String → α}
    {emit : Schema → Except GenerateError (List GeneratedFile)} {schema : Schema}
    (alike : (emit schema.undescribed).map (readFiles read) =
      (emit schema).map (readFiles read)) :
    (ofEmit name emit).reading read schema =
      (ofEmit name emit).reading read schema.undescribed := by
  have files (answer : Except GenerateError (List GeneratedFile)) :
      (Outcome.ofExcept answer).files name = answer := by cases answer <;> rfl
  rw [reading, reading, generate, generate, schema.checkReferences_undescribed]
  cases schema.checkReferences with
  | error error => rfl
  | ok _ =>
      simp only [ofEmit, files]
      exact alike.symm

theorem Backend.reading_eq {α : Type} {name : String} {read : String → α} {schema : Schema}
    {emit : Schema → Except GenerateError (List GeneratedFile)} (accepted : schema.Accepted)
    {files : List GeneratedFile} (made : emit schema = .ok files) :
    (ofEmit name emit).reading read schema = .ok (readFiles read files) := by
  rw [reading, accepted.generate_eq]
  simp only [ofEmit, made]
  rfl

/-- Descriptions of one line each, with marks of comments in those that stand behind `//`. -/
def lark : Schema :=
  { name := "k"
    version := ""
    methods := [{ name := "sing", description := "at /* dawn" }]
    types := [
      ("bird", {
        name := "bird"
        description := "is */ small"
        properties := [{ name := "song", description := "// a", type := .primitive .string }] })] }

def larkText : String :=
  "\x7b\"name\":\"k\",\"version\":\"\",\"description\":\"\",\"groups\":[]," ++
    "\"methods\":[\x7b\"name\":\"sing\",\"description\":\"at /* dawn\"\x7d]," ++
    "\"types\":\x7b\"bird\":\x7b\"description\":\"is */ small\",\"properties\":" ++
    "[\x7b\"name\":\"song\",\"description\":\"// a\",\"type\":\"string\"\x7d]\x7d\x7d\x7d"

/-- Descriptions of two lines each, one with the mark that closes a block. -/
def parrot : Schema :=
  { name := "k"
    version := ""
    methods := [{ name := "say", description := "a\nb */ c" }]
    types := [("bird", { name := "bird", description := "d\ne" })] }

def parrotText : String :=
  "\x7b\"name\":\"k\",\"version\":\"\",\"description\":\"\",\"groups\":[]," ++
    "\"methods\":[\x7b\"name\":\"say\",\"description\":\"a\\nb */ c\"\x7d]," ++
    "\"types\":\x7b\"bird\":\x7b\"description\":\"d\\ne\"\x7d\x7d\x7d"

end RpcSchema
