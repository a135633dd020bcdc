import RpcSchema.Proofs.Generation.DocComments
import RpcSchema.Proofs.Generation.TypeDescriptions
import RpcSchema.Proofs.Schema.Rewording
import RpcSchema.Target.CsClient
import RpcSchema.Target.RustClient
import RpcSchema.Target.RustServer
import RpcSchema.Target.RustTypes

/-!
# Words in generated Rust and C#

In Rust and C# the words of a schema go to documentation behind `///` and nowhere else. However the
words are changed, with any number of lines and any marks in them, every other line stays the same;
and in C# none of them is a tag in the summary it stands in.
-/

namespace RpcSchema

open Code Naming

variable {words : Rewording}

/-- Changed records of a list that come to the same as before. -/
theorem map_reworded_eq {α β : Type} {change : α → α} {view : α → β}
    (each : ∀ item, view (change item) = view item) (items : List α) :
    (items.map change).map view = items.map view := by
  rw [List.map_map]
  exact List.map_congr_left fun item _ => each item

/-- What is made of changed records comes to the same as before without its documentation. -/
theorem map_bare_reworded_eq {α β : Type} {change : α → α} {make : α → β} {bare : β → β}
    (each : ∀ item, bare (make (change item)) = bare (make item)) (items : List α) :
    ((items.map change).map make).map bare = (items.map make).map bare := by
  rw [List.map_map, List.map_map, List.map_map]
  exact List.map_congr_left fun item _ => each item

/-! ## Code of generated files -/

/-- A file has the given path and lines of code, in order, and blocks between the lines. -/
def GeneratedFile.HasCode (IsBlock : List (List Char) → Prop) (code : String × List (List Char))
    (file : GeneratedFile) : Prop :=
  file.path = code.1 ∧ Documented IsBlock code.2 (file.content.toList.splitOn '\n')

theorem GeneratedFile.HasCode.intro {IsBlock : List (List Char) → Prop} {code : List (List Char)}
    {content : String} (documented : Documented IsBlock code (content.toList.splitOn '\n'))
    (path : String) (overwrite : Overwrite) :
    HasCode IsBlock (path, code) ⟨path, content, overwrite⟩ :=
  ⟨rfl, documented⟩

/-- The files of an outcome have the given code; or there is the given error instead of files. -/
inductive Outcome.HasCode (IsBlock : List (List Char) → Prop) :
    Except GenerateError (List (String × List (List Char))) → Outcome → Prop
  | done {code : List (String × List (List Char))} {files : List GeneratedFile}
      (each : List.Forall₂ (GeneratedFile.HasCode IsBlock) code files) :
      HasCode IsBlock (.ok code) (.done files)
  | failed (error : GenerateError) : HasCode IsBlock (.error error) (.failed error)

/-- One file has the code of what is made without documentation. -/
theorem Outcome.HasCode.ofMap {IsBlock : List (List Char) → Prop} {α : Type} (text : α → String)
    {bare : α → α} (documented : ∀ file, Documented IsBlock
      ((text (bare file)).toList.splitOn '\n') ((text file).toList.splitOn '\n'))
    (path : String) (made : Except GenerateError α) :
    HasCode IsBlock ((made.map bare).map fun file => [(path, (text file).toList.splitOn '\n')])
      (.ofExcept (made.map fun file => [⟨path, text file, .always⟩])) := by
  cases made with
  | error error => exact .failed error
  | ok file => exact .done (.cons (.intro (documented file) path .always) .nil)

open Outcome (HasCode)

/-- Blocks are all that words change in what a backend generates: the lines of code are the same in
any words. -/
def Backend.KeepsWordsIn (IsBlock : List (List Char) → Prop) (backend : Backend) : Prop :=
  ∃ code : Schema → Except GenerateError (List (String × List (List Char))),
    (∀ (words : Rewording) (schema : Schema), code (schema.reworded words) = code schema) ∧
      ∀ schema, HasCode IsBlock (code schema) (backend.generate schema)

/-- No word is in a reference, so a backend starts in any words or in none. -/
theorem Backend.KeepsWordsIn.ofRun {IsBlock : List (List Char) → Prop} {backend : Backend}
    (code : Schema → Except GenerateError (List (String × List (List Char))))
    (same : ∀ (words : Rewording) (schema : Schema), code (schema.reworded words) = code schema)
    (run : ∀ schema, HasCode IsBlock (code schema) (backend.run schema)) :
    backend.KeepsWordsIn IsBlock := by
  refine ⟨fun schema => schema.checkReferences.bind fun _ => code schema, fun words schema => ?_,
    fun schema => ?_⟩
  · exact congrArg₂ (fun (checked : Except GenerateError Unit) code => checked.bind fun _ => code)
      schema.checkReferences_reworded (same words schema)
  · beta_reduce
    unfold Backend.generate
    cases schema.checkReferences with
    | error error => exact .failed error
    | ok _ => exact run schema

/-! ## Rust types -/

namespace RustTypes

open RustCode RustValidation

/-- A declared type without its documentation. -/
def Declared.bare (declared : Declared) : Declared :=
  { declared with struct := declared.struct.bare }

theorem map_bare_structField (schema : Schema) (field : Field) :
    (structField (schema.reworded words) (field.reworded words)).map RustCode.Field.bare =
      (structField schema field).map RustCode.Field.bare := by
  rw [structField, structField, schema.valueType_reworded]
  cases schema.valueType field with
  | error error => rfl
  | ok type =>
      simp only [bind, Except.bind]
      cases TypeMapping.rust.value type <;> rfl

theorem ofChecks_reworded (checks : List Check) :
    Validation.ofChecks (checks.map (Check.reworded words)) = Validation.ofChecks checks := by
  rw [Validation.ofChecks, List.flatMap_map, List.flatMap_map, Validation.ofChecks]
  congr 1
  · exact List.flatMap_congr fun check _ => by cases check <;> rfl
  · exact List.flatMap_congr fun check _ => by cases check <;> rfl

/-- The validation of a record type, if it has one. -/
def validation? (config : RustTypes) (schema : Schema) (model : Model) :
    Except GenerateError (Option Validation) :=
  if config.validate && model.isChecked then
    (schema.checks model.fields).map fun checks => some (.ofChecks checks)
  else .ok none

theorem declare_eq (config : RustTypes) (schema : Schema) (model : Model) :
    config.declare schema model =
      (model.fields.mapM (structField schema)).bind fun fields =>
        (config.validation? schema model).map fun validation =>
          ⟨{ name := model.name .rust, doc := modelDoc model, derives := derives,
             attributes := ["serde(default)"], fields := fields }, validation⟩ := by
  rw [declare, validation?]
  cases model.fields.mapM (structField schema) with
  | error error => rfl
  | ok fields =>
      cases config.validate && model.isChecked with
      | false => rfl
      | true => cases schema.checks model.fields <;> rfl

theorem validation?_reworded (config : RustTypes) (schema : Schema) (model : Model) :
    config.validation? (schema.reworded words) (model.reworded words) =
      config.validation? schema model := by
  rw [validation?, model.isChecked_reworded, model.fields_reworded, schema.checks_reworded,
    validation?]
  cases schema.checks model.fields with
  | error error => rfl
  | ok checks => simp only [Except.map, ofChecks_reworded]

theorem map_bare_declare (config : RustTypes) (schema : Schema) (model : Model) :
    (config.declare (schema.reworded words) (model.reworded words)).map Declared.bare =
      (config.declare schema model).map Declared.bare := by
  have fields : ((model.fields.map (RpcSchema.Field.reworded words)).mapM
        (structField (schema.reworded words))).map (List.map RustCode.Field.bare) =
      (model.fields.mapM (structField schema)).map (List.map RustCode.Field.bare) :=
    map_mapM_eq (map_bare_structField schema) model.fields
  rw [declare_eq, declare_eq, model.fields_reworded, validation?_reworded]
  refine map_bind_eq fields fun fields others _ _ same => ?_
  cases config.validation? schema model with
  | error error => rfl
  | ok validation =>
      simp only [Except.map, Declared.bare, Struct.bare, same, model.name_reworded]

theorem bare_fileOf {declared others : List Declared}
    (same : others.map Declared.bare = declared.map Declared.bare) :
    (fileOf others).bare = (fileOf declared).bare := by
  have validated (declared : List Declared) :
      (declared.any fun declared => declared.validation.isSome) =
        (declared.map Declared.bare).any fun declared => declared.validation.isSome := by
    rw [List.any_map]
    rfl
  have decls (declared : List Declared) : (declared.flatMap Declared.decls).map Decl.bare =
      (declared.map Declared.bare).flatMap fun declared => declared.decls.map Decl.bare := by
    rw [List.map_flatMap, List.flatMap_map]
    refine List.flatMap_congr fun declared _ => ?_
    rw [Declared.decls, Declared.decls, List.map_cons, List.map_cons, Decl.bare, Decl.bare,
      Declared.bare, Struct.bare_bare]
    rfl
  simp only [fileOf, File.bare, decls]
  rw [validated others, validated declared, same]

theorem map_bare_file (config : RustTypes) (schema : Schema) :
    (config.file (schema.reworded words)).map File.bare = (config.file schema).map File.bare := by
  have declared : ((schema.models.map (Model.reworded words)).mapM
        (config.declare (schema.reworded words))).map (List.map Declared.bare) =
      (schema.models.mapM (config.declare schema)).map (List.map Declared.bare) :=
    map_mapM_eq (config.map_bare_declare schema) schema.models
  rw [file, file, schema.models_reworded]
  exact map_bind_eq declared fun declared others _ _ same => congrArg Except.ok (bare_fileOf same)

theorem keepsWordsIn (config : RustTypes) : config.backend.KeepsWordsIn IsDocBlock :=
  .ofRun _ (fun _ schema => congrArg (Except.map _) (config.map_bare_file schema))
    fun schema => .ofMap File.text File.documented "types.rs" (config.file schema)

end RustTypes

/-! ## Rust servers and clients -/

namespace RustServer

open RustCode

theorem arms_reworded (config : RustServer) (schema : Schema) :
    config.arms (schema.reworded words) = config.arms schema := by
  refine map_reworded_eq (fun method => ?_) schema.methods
  have fields : spanFields (method.reworded words) = spanFields method := by
    rw [spanFields, spanFields, Method.reworded, List.map_map]
    rfl
  simp only [Arm.ofMethod, responder, Method.hasInputs_reworded, Method.hasOutputs_reworded,
    Method.name_reworded, fields]

theorem methodTypes_reworded (schema : Schema) :
    methodTypes (schema.reworded words) = methodTypes schema := by
  simp only [methodTypes, schema.methods_reworded, List.flatMap_map, Method.hasInputs_reworded,
    Method.hasOutputs_reworded, Method.name_reworded]

theorem uses_reworded (config : RustServer) (schema : Schema) :
    config.uses (schema.reworded words) = config.uses schema := by
  have inputs : (schema.methods.map (Method.reworded words)).any Method.hasInputs =
      schema.methods.any Method.hasInputs := by
    rw [List.any_map]
    exact congrArg _ (funext Method.hasInputs_reworded)
  have responders : (schema.methods.map (Method.reworded words)).map
        (fun method => (responder method).function) =
      schema.methods.map fun method => (responder method).function :=
    map_reworded_eq (fun method => by rw [responder, method.hasOutputs_reworded, responder])
      schema.methods
  simp only [uses, methodTypes_reworded, schema.methods_reworded, List.isEmpty_map, inputs,
    responders]

theorem bare_serviceFunc (method : Method) :
    (serviceFunc (method.reworded words)).bare = (serviceFunc method).bare := by
  simp only [serviceFunc, Func.bare, serviceParams, resultType, Method.hasInputs_reworded,
    Method.hasOutputs_reworded, Method.name_reworded]

theorem bare_serverFile (config : RustServer) (schema : Schema) :
    (config.serverFile (schema.reworded words)).bare = (config.serverFile schema).bare := by
  have items : ((schema.methods.map (Method.reworded words)).map serviceFunc).map Func.bare =
      (schema.methods.map serviceFunc).map Func.bare :=
    map_bare_reworded_eq bare_serviceFunc schema.methods
  have service : (serviceTrait (schema.reworded words)).bare = (serviceTrait schema).bare := by
    simp only [serviceTrait, Trait.bare, schema.methods_reworded, List.map_cons, items]
  simp only [serverFile, File.bare, List.map_cons, Decl.bare, service, uses_reworded,
    arms_reworded]

theorem stubFunc_reworded (method : Method) :
    stubFunc (method.reworded words) = stubFunc method := by
  simp only [stubFunc, serviceParams, resultType, Method.hasInputs_reworded,
    Method.hasOutputs_reworded, Method.name_reworded]

theorem bare_stubFile (config : RustServer) (schema : Schema) :
    (config.stubFile (schema.reworded words)).bare = (config.stubFile schema).bare := by
  have stubs : (schema.methods.map (Method.reworded words)).map stubFunc =
      schema.methods.map stubFunc := map_reworded_eq stubFunc_reworded schema.methods
  have uses : config.stubUses (schema.reworded words) = config.stubUses schema := by
    simp only [stubUses, methodTypes_reworded, schema.methods_reworded, List.isEmpty_map]
  simp only [stubFile, File.bare, List.map_cons, Decl.bare, Struct.bare, schema.methods_reworded,
    stubs, uses]

theorem keepsWordsIn (config : RustServer) : config.backend.KeepsWordsIn IsDocBlock := by
  refine .ofRun (fun schema => .ok [
      ("server.rs", (config.serverFile schema).bare.text.toList.splitOn '\n'),
      ("service_impl.rs", (config.stubFile schema).bare.text.toList.splitOn '\n')])
    (fun words schema => ?_) fun schema => ?_
  · simp only [bare_serverFile, bare_stubFile]
  · exact .done (.cons (.intro (config.serverFile schema).documented _ _)
      (.cons (.intro (config.stubFile schema).documented _ _) .nil))

end RustServer

namespace RustClient

open RustCode

theorem bare_function (method : Method) :
    (function (method.reworded words)).bare = (function method).bare := by
  unfold function sendCall
  simp only [Func.bare, Method.hasInputs_reworded, Method.hasOutputs_reworded,
    Method.name_reworded]

theorem bare_file (config : RustClient) (schema : Schema) :
    (config.file (schema.reworded words)).bare = (config.file schema).bare := by
  have functions : ((schema.methods.map (Method.reworded words)).map function).map Func.bare =
      (schema.methods.map function).map Func.bare :=
    map_bare_reworded_eq bare_function schema.methods
  simp only [file, File.bare, List.map_cons, Decl.bare, clientStruct, Struct.bare, Impl.bare,
    schema.methods_reworded, List.map_append, functions, RustServer.methodTypes_reworded]

theorem keepsWordsIn (config : RustClient) : config.backend.KeepsWordsIn IsDocBlock :=
  .ofRun (fun schema => .ok [("client.rs", (config.file schema).bare.text.toList.splitOn '\n')])
    (fun words schema => by simp only [bare_file])
    fun schema => .done (.cons (.intro (config.file schema).documented _ _) .nil)

end RustClient

/-! ## C# clients -/

namespace CsClient

open CsCode

theorem map_bare_property (schema : Schema) (field : Field) :
    (property (schema.reworded words) (field.reworded words)).map Property.bare =
      (property schema field).map Property.bare := by
  rw [property, property, TypeMapping.field_reworded]
  cases TypeMapping.csharp.field schema field <;> rfl

/-- Classes of the same name and base, and of members that are the same but for comments. -/
theorem bare_class {name : String} {doc other base : Option String} {members others : List Member}
    (same : others.map Member.bare = members.map Member.bare) :
    ClassDecl.bare ⟨name, other, base, others⟩ = ClassDecl.bare ⟨name, doc, base, members⟩ := by
  rw [ClassDecl.bare, ClassDecl.bare, bareMembers_eq_map, bareMembers_eq_map, same]

theorem map_bare_declare (schema : Schema) (model : Model) :
    (declare (schema.reworded words) (model.reworded words)).map ClassDecl.bare =
      (declare schema model).map ClassDecl.bare := by
  have properties : ((model.fields.map (RpcSchema.Field.reworded words)).mapM
        (property (schema.reworded words))).map (List.map Property.bare) =
      (model.fields.mapM (property schema)).map (List.map Property.bare) :=
    map_mapM_eq (map_bare_property schema) model.fields
  have members (properties : List Property) :
      (properties.map Member.property).map Member.bare =
        (properties.map Property.bare).map Member.property := by
    rw [List.map_map, List.map_map]
    exact List.map_congr_left fun property _ => by simp [Member.bare]
  rw [declare, declare, model.fields_reworded, model.name_reworded]
  refine map_bind_eq properties fun properties others _ _ same => congrArg Except.ok ?_
  exact bare_class (by rw [members, members, same])

theorem bare_function (method : Method) :
    (function (method.reworded words)).bare = (function method).bare := by
  have inputs : (method.reworded words).hasInputs = method.hasInputs := method.hasInputs_reworded
  have outputs : (method.reworded words).hasOutputs = method.hasOutputs :=
    method.hasOutputs_reworded
  have call : call (method.reworded words) = call method := by
    rw [CsClient.call, inputs, method.name_reworded, CsClient.call]
  unfold function
  rw [CsCode.Method.bare, inputs, outputs, call]
  rfl

theorem bare_clientClass (config : CsClient) (schema : Schema) :
    (config.clientClass (schema.reworded words)).bare = (config.clientClass schema).bare := by
  have functions :
      ((schema.methods.map (Method.reworded words)).map fun method =>
        Member.method (function method)).map Member.bare =
      (schema.methods.map fun method => Member.method (function method)).map Member.bare :=
    map_bare_reworded_eq
      (fun method => by rw [Member.bare, bare_function, Member.bare]) schema.methods
  refine bare_class ?_
  rw [schema.methods_reworded, List.map_append, List.map_cons, functions, List.map_append]
  rfl

theorem map_bare_classes (config : CsClient) (schema : Schema) :
    (config.classes (schema.reworded words)).map (List.map ClassDecl.bare) =
      (config.classes schema).map (List.map ClassDecl.bare) := by
  have models : ((schema.models.map (Model.reworded words)).mapM
        (declare (schema.reworded words))).map (List.map ClassDecl.bare) =
      (schema.models.mapM (declare schema)).map (List.map ClassDecl.bare) :=
    map_mapM_eq (map_bare_declare schema) schema.models
  rw [classes, classes, schema.models_reworded]
  refine map_bind_eq models fun classes others _ _ same => congrArg Except.ok ?_
  rw [List.map_append, List.map_append, same, List.map_cons, List.map_cons, List.map_cons,
    List.map_cons, bare_clientClass]

theorem documents_fragments (config : CsClient) (classes : List ClassDecl) :
    Documents IsSummary (config.fragments (classes.map ClassDecl.bare))
      (config.fragments classes) := by
  rw [fragments, fragments, List.map_map]
  exact .append (.refl _) (.append (.refl [_, _])
    (.block _ _ (.spaced (Documents.forall₂_map documents_class))))

theorem keepsWordsIn (config : CsClient) : config.backend.KeepsWordsIn IsSummary :=
  .ofRun _ (fun _ schema => congrArg (Except.map _) (config.map_bare_classes schema))
    fun schema => .ofMap (fun classes => source (config.fragments classes))
      (fun classes => (config.documents_fragments classes).documented)
      (config.className ++ ".cs") (config.classes schema)

end CsClient

/-! ## Any words -/

/-- The words of a schema go to documentation only: generated Rust and C# has the same lines of code
in any words. Every other line begins with `///` behind its indentation, and in C# it is a tag of a
summary or text in it that can close no tag. -/
theorem words_in_documentation :
    (∀ config : RustTypes, config.backend.KeepsWordsIn IsDocBlock) ∧
    (∀ config : RustServer, config.backend.KeepsWordsIn IsDocBlock) ∧
    (∀ config : RustClient, config.backend.KeepsWordsIn IsDocBlock) ∧
    ∀ config : CsClient, config.backend.KeepsWordsIn IsSummary :=
  ⟨RustTypes.keepsWordsIn, RustServer.keepsWordsIn, RustClient.keepsWordsIn, CsClient.keepsWordsIn⟩

end RpcSchema
