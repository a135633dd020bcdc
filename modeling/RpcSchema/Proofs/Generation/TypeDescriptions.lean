import RpcSchema.Proofs.Generation.Comments
import RpcSchema.Proofs.Generation.Outlines
import RpcSchema.Proofs.Generation.Validated
import RpcSchema.Proofs.Json.Printing
import RpcSchema.Proofs.Schema.Descriptions
import RpcSchema.Proofs.Schema.Names

/-!
# Descriptions in files of types

Record types and their fields have comments behind `//`, made of their descriptions. As long as
these have one line each, the rest of the file is the same as without them.
-/

namespace RpcSchema

open Code Naming

/-! ## Texts of one line -/

section OneLine

theorem OneLine.append {front rest : String} (single : OneLine front) (also : OneLine rest) :
    OneLine (front ++ rest) := by
  rw [OneLine, String.toList_append]
  exact List.not_mem_append single also

theorem OneLine.trimStart {text : String} (single : OneLine text) :
    OneLine (Text.trimStart text) := by
  rw [OneLine, Text.trimStart, String.toList_ofList]
  exact fun member => single ((List.dropWhile_sublist _).subset member)

theorem OneLine.trimEnd {text : String} (single : OneLine text) : OneLine (Text.trimEnd text) := by
  rw [OneLine, Text.trimEnd, String.toList_ofList]
  exact fun member => single ((prefix_dropTrailingBlanks _).subset member)

theorem oneLine_of_isIdentifier {name : String} (named : isIdentifier name = true) : OneLine name :=
  not_mem_of_isIdentifier named (by decide)

theorem feed_not_mem_escapedChar (c : Char) : '\n' ∉ Json.escapedChar c := fun member =>
  absurd (Json.visible_of_mem_escapedChar member) (by decide)

theorem oneLine_stringText (text : String) : OneLine (Json.stringText text) := by
  rw [OneLine, Json.stringText, String.toList_ofList, Json.stringChars]
  simp [feed_not_mem_escapedChar]

theorem oneLine_intercalate {separator : String} (parted : OneLine separator) {texts : List String}
    (single : ∀ text ∈ texts, OneLine text) : OneLine (separator.intercalate texts) := by
  rw [OneLine, String.toList_intercalate]
  induction texts with
  | nil => exact List.not_mem_nil
  | cons text texts ih =>
      obtain ⟨here, later⟩ := List.forall_mem_cons.mp single
      cases texts with
      | nil =>
          rw [List.map_singleton, List.intercalate_singleton]
          exact here
      | cons next texts =>
          rw [List.map_cons, List.map_cons, List.intercalate_cons_cons]
          exact List.not_mem_append (List.not_mem_append here parted) (ih later)

theorem oneLine_quotedList (values : List String) : OneLine (quotedList values) :=
  oneLine_intercalate (by decide) (List.forall_mem_map.mpr fun value _ => oneLine_stringText value)

theorem Field.oneLine_extra (field : Field) : OneLine field.extra := by
  have attributes : OneLine field.attributesSentence := by
    rw [attributesSentence, Field.attributes]
    cases field.required <;> cases field.readonly <;> decide
  have values : OneLine field.enumSentence := by
    rw [enumSentence]
    split
    · decide
    · exact .append (.append (by decide) (oneLine_quotedList _)) (by decide)
  exact attributes.append values

/-- A sentence about a field has one line when its description has. -/
theorem Field.oneLine_sentence {field : Field} {lead : String} (led : OneLine lead)
    (single : OneLine field.description) : ∀ doc ∈ (field.sentence lead).toList, OneLine doc := by
  have whole : OneLine (if field.description.isEmpty then Text.trimStart field.extra
      else lead ++ field.description ++ field.extra) := by
    split
    · exact field.oneLine_extra.trimStart
    · exact (led.append single).append field.oneLine_extra
  intro doc listed
  rw [Field.sentence, Option.mem_toList] at listed
  obtain ⟨-, same⟩ := Option.ite_none_left_eq_some.mp listed
  exact Option.some.inj same ▸ whole

end OneLine

/-- The comment above a record type in a language that has comments of lines. -/
def Model.doc? (convention : Convention) : Model → Option String
  | .type decl =>
    if decl.description.isEmpty then none
    else some (Model.name convention (.type decl) ++ " " ++ decl.description)
  | model => some (model.name convention ++ " params.")

/-- The comment of a record type, and those of its fields. -/
def Model.docs (convention : Convention) (model : Model) : List String :=
  (model.doc? convention).toList ++ model.fields.flatMap fun field =>
    (field.sentence (convention.fieldName field.name ++ " is ")).toList

def Model.description? : Model → Option String
  | .type decl => some decl.description
  | _ => none

/-- The description of a record type, if it has one, and those of its fields. -/
def Model.descriptions (model : Model) : List String :=
  model.description?.toList ++ model.fields.map Field.description

def Model.IsInLines (model : Model) : Prop :=
  ∀ description ∈ model.descriptions, OneLine description

instance (model : Model) : Decidable model.IsInLines :=
  inferInstanceAs (Decidable (∀ description ∈ model.descriptions, OneLine description))

theorem Model.oneLine_docs {convention : Convention} (listed : convention ∈ Convention.languages)
    {model : Model} (inLines : model.IsInLines)
    (named : ∀ field ∈ model.fields, OneLine (convention.fieldName field.name)) :
    ∀ doc ∈ model.docs convention, OneLine doc := by
  obtain ⟨own, fields⟩ := List.forall_mem_append.mp inLines
  have name : OneLine (model.name convention) := by
    cases model with
    | type decl => exact Convention.not_mem_typeName listed (by decide) (by decide) decl.name
    | input method => exact Convention.not_mem_inputType listed (by decide) (by decide) method.name
    | output method =>
        exact Convention.not_mem_outputType listed (by decide) (by decide) method.name
  refine List.forall_mem_append.mpr ⟨?_, fun doc member => ?_⟩
  · cases model with
    | type decl =>
        rw [doc?]
        split
        · exact fun doc member => absurd member List.not_mem_nil
        · exact List.forall_mem_singleton.mpr
            ((name.append (by decide)).append (own decl.description (List.mem_singleton_self _)))
    | _ => exact List.forall_mem_singleton.mpr (name.append (by decide))
  · obtain ⟨field, isField, isDoc⟩ := List.mem_flatMap.mp member
    exact field.oneLine_sentence ((named field isField).append (by decide))
      (fields field.description (List.mem_map_of_mem isField)) doc isDoc

/-! ## Steps that look the same -/

section Steps

variable {ε α β γ δ : Type}

/-- What follows results that look the same looks the same when it minds the look only. -/
theorem map_bind_eq {first other : Except ε α} {next after : α → Except ε β} {look : α → γ}
    {seen : β → δ} (same : other.map look = first.map look)
    (later : ∀ result change, first = .ok result → other = .ok change →
      look change = look result → (after change).map seen = (next result).map seen) :
    (other >>= after).map seen = (first >>= next).map seen := by
  cases first with
  | error error =>
      cases other with
      | error error =>
        cases same
        rfl
      | ok change => cases same
  | ok result =>
      cases other with
      | error error => cases same
      | ok change => exact later result change rfl rfl (Except.ok.inj same)

/-- Steps that look the same one by one look the same together. -/
theorem map_mapM_eq {step other : α → Except ε β} {change : α → α} {look : β → γ}
    (each : ∀ item, (other (change item)).map look = (step item).map look) (items : List α) :
    ((items.map change).mapM other).map (List.map look) =
      (items.mapM step).map (List.map look) := by
  induction items with
  | nil => rfl
  | cons item items ih =>
      rw [List.map_cons, List.mapM_cons, List.mapM_cons]
      refine map_bind_eq (each item) fun result made _ _ here => ?_
      refine map_bind_eq ih fun results others _ _ later => ?_
      exact congrArg Except.ok (congrArg₂ List.cons here later)

end Steps

theorem Model.isInLines_undescribed (model : Model) : model.undescribed.IsInLines := by
  refine List.forall_mem_append.mpr ⟨?_, List.forall_mem_map.mpr fun field member => ?_⟩
  · cases model with
    | type decl => exact List.forall_mem_singleton.mpr (by decide : OneLine "")
    | _ => exact fun description member => absurd member List.not_mem_nil
  · rw [fields_undescribed] at member
    obtain ⟨described, -, rfl⟩ := List.mem_map.mp member
    exact (by decide : OneLine "")

theorem Schema.isInLines_undescribed (schema : Schema) :
    ∀ model ∈ schema.undescribed.models, model.IsInLines := by
  rw [models_undescribed]
  exact List.forall_mem_map.mpr fun model _ => model.isInLines_undescribed

/-- The paths of files, and what is read of them. -/
def readFiles {α : Type} (read : String → α) (files : List GeneratedFile) : List (String × α) :=
  files.map fun file => (file.path, read file.content)

/-! ## Go types -/

namespace GoTypes

variable {config : GoTypes} {schema : Schema}

/-- A declared type without its comments. -/
def Declared.bare (declared : Declared) : Declared :=
  { declared with struct := declared.struct.bare }

theorem map_bare_structField (schema : Schema) (field : Field) :
    (structField schema field).map GoCode.Field.bare =
      (TypeMapping.go.field schema field).map fun type =>
        ⟨Convention.go.fieldName field.name, type, none, tag schema field⟩ := by
  rw [structField]
  cases TypeMapping.go.field schema field with
  | error error => rfl
  | ok type =>
      simp only [bind, Except.bind, pure, Except.pure, Except.map, GoCode.Field.bare]

theorem map_bare_structField_undescribed (schema : Schema) (field : Field) :
    (structField schema.undescribed field.undescribed).map GoCode.Field.bare =
      (structField schema field).map GoCode.Field.bare := by
  rw [map_bare_structField, map_bare_structField, TypeMapping.field_undescribed]
  rfl

/-- The statements of a record type's `Validate` method, if it has one. -/
def statements (config : GoTypes) (schema : Schema) (model : Model) :
    Except GenerateError (Option (List GoValidation.Statement)) :=
  if config.validate && model.isChecked then
    (schema.checks model.fields).map fun checks => some (checks.map GoValidation.Statement.ofCheck)
  else .ok none

theorem declare_eq (config : GoTypes) (schema : Schema) (model : Model) :
    config.declare schema model =
      (model.fields.mapM (structField schema)).bind fun fields =>
        (config.statements schema model).map fun statements =>
          ⟨⟨model.name .go, modelDoc model, fields⟩, statements⟩ := by
  rw [declare, statements]
  cases model.fields.mapM (structField schema) with
  | error error => rfl
  | ok fields =>
      cases config.validate && model.isChecked with
      | false => rfl
      | true => cases schema.checks model.fields <;> rfl

theorem statements_undescribed (config : GoTypes) (schema : Schema) (model : Model) :
    config.statements schema.undescribed model.undescribed = config.statements schema model := by
  have ofCheck (check : Check) : GoValidation.Statement.ofCheck check.undescribed =
      GoValidation.Statement.ofCheck check := by cases check <;> rfl
  rw [statements, model.isChecked_undescribed, model.fields_undescribed,
    schema.checks_undescribed, statements]
  cases schema.checks model.fields with
  | error error => rfl
  | ok checks =>
      simp only [Except.map, List.map_map]
      rw [show GoValidation.Statement.ofCheck ∘ Check.undescribed =
        GoValidation.Statement.ofCheck from funext ofCheck]

theorem map_bare_declare (config : GoTypes) (schema : Schema) (model : Model) :
    (config.declare schema.undescribed model.undescribed).map Declared.bare =
      (config.declare schema model).map Declared.bare := by
  have fields : ((model.fields.map RpcSchema.Field.undescribed).mapM
        (structField schema.undescribed)).map (List.map GoCode.Field.bare) =
      (model.fields.mapM (structField schema)).map (List.map GoCode.Field.bare) :=
    map_mapM_eq (map_bare_structField_undescribed schema) model.fields
  rw [declare_eq, declare_eq, model.fields_undescribed, statements_undescribed]
  refine map_bind_eq fields fun fields others _ _ same => ?_
  cases config.statements schema model with
  | error error => rfl
  | ok statements =>
      simp only [Except.map, Declared.bare, GoCode.Struct.bare, same, model.name_undescribed]

theorem bare_decls (runtime : String) (declared : Declared) :
    (declared.decls runtime).map GoCode.Decl.bare =
      (declared.bare.decls runtime).map GoCode.Decl.bare := by
  rw [Declared.decls, Declared.decls, List.map_cons, List.map_cons, GoCode.Decl.bare,
    GoCode.Decl.bare, Declared.bare, GoCode.Struct.bare_bare]
  rfl

theorem bare_fileOf (config : GoTypes) (schema : Schema) {declared others : List Declared}
    (same : others.map Declared.bare = declared.map Declared.bare) :
    (config.fileOf schema.undescribed others).bare = (config.fileOf schema declared).bare := by
  -- Imports and helpers come from the checks and from the types of fields, which comments are no
  -- part of.
  have needs : others.foldl (fun needs declared => needs.merge declared.needs) {} =
      declared.foldl (fun needs declared => needs.merge declared.needs)
        ({} : GoValidation.Needs) := by
    have ofBare (declared : List Declared) :
        declared.foldl (fun needs declared => needs.merge declared.needs) {} =
          (declared.map Declared.bare).foldl (fun needs declared => needs.merge declared.needs)
            ({} : GoValidation.Needs) := by
      rw [List.foldl_map]
      rfl
    rw [ofBare, ofBare declared, same]
  have decls (runtime : String) : (others.flatMap (Declared.decls runtime)).map GoCode.Decl.bare =
      (declared.flatMap (Declared.decls runtime)).map GoCode.Decl.bare := by
    have ofBare (declared : List Declared) :
        (declared.flatMap (Declared.decls runtime)).map GoCode.Decl.bare =
          (declared.map Declared.bare).flatMap fun declared =>
            (declared.decls runtime).map GoCode.Decl.bare := by
      rw [List.map_flatMap, List.flatMap_map]
      exact List.flatMap_congr fun declared _ => bare_decls runtime declared
    rw [ofBare, ofBare declared, same]
  simp only [fileOf, GoCode.File.bare, needs, List.map_append, decls]
  rw [schema.any_fields_undescribed fun _ _ => rfl]

theorem map_bare_file (config : GoTypes) (schema : Schema) :
    (config.file schema.undescribed).map GoCode.File.bare =
      (config.file schema).map GoCode.File.bare := by
  have declared : ((schema.models.map Model.undescribed).mapM
        (config.declare schema.undescribed)).map (List.map Declared.bare) =
      (schema.models.mapM (config.declare schema)).map (List.map Declared.bare) :=
    map_mapM_eq (config.map_bare_declare schema) schema.models
  rw [file, file, schema.models_undescribed]
  exact map_bind_eq declared fun declared others _ _ same =>
    congrArg Except.ok (config.bare_fileOf schema same)

theorem docs_structField {field : Field} {made : GoCode.Field}
    (done : structField schema field = .ok made) :
    made.doc = field.sentence (Convention.go.fieldName field.name ++ " is ") := by
  rw [structField] at done
  obtain ⟨type, _, done⟩ := Json.exists_of_bind_eq_ok done
  rw [eq_of_pure_eq_ok done]

theorem docs_declare {model : Model} {declared : Declared}
    (done : config.declare schema model = .ok declared) :
    declared.struct.docs = model.docs .go := by
  obtain ⟨fields, listed, struct⟩ := exists_of_declare done
  have docs : fields.map GoCode.Field.doc = model.fields.map fun field =>
      field.sentence (Convention.go.fieldName field.name ++ " is ") :=
    map_of_mapM_eq_ok docs_structField listed
  have own : modelDoc model = model.doc? .go := by cases model <;> rfl
  rw [struct, GoCode.Struct.docs, own, Model.docs,
    ← List.flatMap_map GoCode.Field.doc Option.toList, docs, List.flatMap_map]

/-- The comments of a file of types have one line each where the descriptions have. -/
theorem oneLine_docs_file (inLines : ∀ model ∈ schema.models, model.IsInLines) {file : GoCode.File}
    (done : config.file schema = .ok file) : ∀ doc ∈ file.docs, OneLine doc := by
  obtain ⟨declared, listed, done⟩ := Json.exists_of_bind_eq_ok done
  rw [eq_of_pure_eq_ok done]
  have docs : declared.map (fun declared => declared.struct.docs) =
      schema.models.map (Model.docs .go) := map_of_mapM_eq_ok docs_declare listed
  intro doc member
  obtain ⟨decl, isDecl, isDoc⟩ := List.mem_flatMap.mp member
  rcases List.mem_append.mp isDecl with ofType | helper
  · obtain ⟨decls, isDeclared, inDecls⟩ := List.mem_flatMap.mp ofType
    rcases List.mem_cons.mp inDecls with rfl | isMethod
    · have ofModel : decls.struct.docs ∈ schema.models.map (Model.docs .go) :=
        docs ▸ List.mem_map_of_mem isDeclared
      obtain ⟨model, isModel, same⟩ := List.mem_map.mp ofModel
      have listed := Convention.go_mem_languages
      refine Model.oneLine_docs listed (inLines model isModel) (fun field _ => ?_) doc
        (same.symm ▸ (show doc ∈ decls.struct.docs from isDoc))
      exact Convention.not_mem_fieldName listed (by decide) (by decide) (by decide) field.name
    · obtain ⟨statements, -, rfl⟩ := List.mem_map.mp isMethod
      obtain rfl := List.mem_singleton.mp isDoc
      decide
  · split at helper
    · obtain rfl := List.mem_singleton.mp helper
      cases isDoc
    · cases helper

theorem map_codeRows_emit (config : GoTypes) (inLines : ∀ model ∈ schema.models, model.IsInLines) :
    (config.emit schema.undescribed).map (readFiles codeRows) =
      (config.emit schema).map (readFiles codeRows) := by
  rw [emit, emit]
  refine map_bind_eq (config.map_bare_file schema) fun file other given made same => ?_
  have code : codeRows other.text = codeRows file.text :=
    GoCode.File.codeRows_eq (oneLine_docs_file inLines given)
      (oneLine_docs_file schema.isInLines_undescribed made) same
  exact congrArg Except.ok (congrArg (fun rows => [("types.go", rows)]) code)

end GoTypes

/-! ## TypeScript types -/

namespace TsTypes

variable {schema : Schema}

theorem map_bare_interfaceField (schema : Schema) (field : Field) :
    (interfaceField schema field).map TsCode.InterfaceField.bare =
      (TypeMapping.typescript.field schema field).map fun type =>
        ⟨Convention.typescript.fieldName field.name, type, none, !field.required⟩ := by
  rw [interfaceField]
  cases TypeMapping.typescript.field schema field with
  | error error => rfl
  | ok type =>
      simp only [bind, Except.bind, pure, Except.pure, Except.map, TsCode.InterfaceField.bare]

theorem map_bare_interfaceField_undescribed (schema : Schema) (field : Field) :
    (interfaceField schema.undescribed field.undescribed).map TsCode.InterfaceField.bare =
      (interfaceField schema field).map TsCode.InterfaceField.bare := by
  rw [map_bare_interfaceField, map_bare_interfaceField, TypeMapping.field_undescribed]
  rfl

theorem map_bare_declare (schema : Schema) (model : Model) :
    (declare schema.undescribed model.undescribed).map TsCode.Interface.bare =
      (declare schema model).map TsCode.Interface.bare := by
  have fields : ((model.fields.map RpcSchema.Field.undescribed).mapM
        (interfaceField schema.undescribed)).map (List.map TsCode.InterfaceField.bare) =
      (model.fields.mapM (interfaceField schema)).map (List.map TsCode.InterfaceField.bare) :=
    map_mapM_eq (map_bare_interfaceField_undescribed schema) model.fields
  rw [declare, declare, model.fields_undescribed]
  refine map_bind_eq fields fun fields others _ _ same => ?_
  simp only [pure, Except.pure, Except.map, TsCode.Interface.bare, same, model.name_undescribed]

theorem docs_interfaceField {field : Field} {made : TsCode.InterfaceField}
    (done : interfaceField schema field = .ok made) :
    made.doc = field.sentence (Convention.typescript.fieldName field.name ++ " is ") := by
  rw [interfaceField] at done
  obtain ⟨type, _, done⟩ := Json.exists_of_bind_eq_ok done
  rw [eq_of_pure_eq_ok done]

theorem docs_declare {model : Model} {interface : TsCode.Interface}
    (done : declare schema model = .ok interface) : interface.docs = model.docs .typescript := by
  rw [declare] at done
  obtain ⟨fields, listed, done⟩ := Json.exists_of_bind_eq_ok done
  have docs : fields.map TsCode.InterfaceField.doc = model.fields.map fun field =>
      field.sentence (Convention.typescript.fieldName field.name ++ " is ") :=
    map_of_mapM_eq_ok docs_interfaceField listed
  have own : modelDoc model = model.doc? .typescript := by cases model <;> rfl
  rw [eq_of_pure_eq_ok done, TsCode.Interface.docs, own, Model.docs,
    ← List.flatMap_map TsCode.InterfaceField.doc Option.toList, docs, List.flatMap_map]

/-- The comments of interfaces have one line each where the descriptions have. -/
theorem oneLine_docs (inLines : ∀ model ∈ schema.models, model.IsInLines)
    (named : ∀ model ∈ schema.models, ∀ field ∈ model.fields, isIdentifier field.name)
    {interfaces : List TsCode.Interface}
    (listed : schema.models.mapM (declare schema) = .ok interfaces) :
    ∀ interface ∈ interfaces, ∀ doc ∈ interface.docs, OneLine doc := by
  have docs : interfaces.map TsCode.Interface.docs = schema.models.map (Model.docs .typescript) :=
    map_of_mapM_eq_ok docs_declare listed
  intro interface isInterface
  have ofModel : interface.docs ∈ schema.models.map (Model.docs .typescript) :=
    docs ▸ List.mem_map_of_mem isInterface
  obtain ⟨model, isModel, same⟩ := List.mem_map.mp ofModel
  rw [← same]
  exact Model.oneLine_docs Convention.typescript_mem_languages (inLines model isModel)
    fun field isField => oneLine_of_isIdentifier (named model isModel field isField)

theorem map_codeRows_emit (inLines : ∀ model ∈ schema.models, model.IsInLines)
    (named : ∀ model ∈ schema.models, ∀ field ∈ model.fields, isIdentifier field.name) :
    (emit schema.undescribed).map (readFiles codeRows) =
      (emit schema).map (readFiles codeRows) := by
  have bare : (schema.undescribed.models.mapM (declare schema.undescribed)).map
        (List.map TsCode.Interface.bare) =
      (schema.models.mapM (declare schema)).map (List.map TsCode.Interface.bare) := by
    rw [schema.models_undescribed]
    exact map_mapM_eq (map_bare_declare schema) schema.models
  -- Fields keep their names in comments, so it takes identifiers for the comments to have one line.
  have namedAlike : ∀ model ∈ schema.undescribed.models, ∀ field ∈ model.fields,
      isIdentifier field.name := by
    rw [schema.models_undescribed]
    refine List.forall_mem_map.mpr fun model isModel => ?_
    rw [model.fields_undescribed]
    exact List.forall_mem_map.mpr fun field isField => named model isModel field isField
  rw [emit, emit, file, file, bind_assoc, bind_assoc]
  refine map_bind_eq bare fun interfaces others given made same => ?_
  have code : codeRows (TsCode.File.text { decls := others.map .interface }) =
      codeRows (TsCode.File.text { decls := interfaces.map .interface }) := by
    rw [TsCode.codeRows_interfaces (oneLine_docs schema.isInLines_undescribed namedAlike made),
      TsCode.codeRows_interfaces (oneLine_docs inLines named given), same]
  exact congrArg Except.ok (congrArg (fun rows => [("types.ts", rows)]) code)

end TsTypes

end RpcSchema
