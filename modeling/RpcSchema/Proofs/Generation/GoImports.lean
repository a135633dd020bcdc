import RpcSchema.Proofs.Dates.Closure
import RpcSchema.Proofs.Generation.FieldTypes
import RpcSchema.Proofs.Generation.GoNeeds

/-!
# Imports of generated Go types

Go refuses a file that imports a package without using it. The imports of a file of types are decided
apart from its declarations: from the fields of the schema and from what the checks need. This module
reads the declarations for what they use, and says when that is what is imported.
-/

namespace RpcSchema

open Code Naming GoValidation

/-! ## Rows of methods -/

namespace GoValidation

theorem isSeparator_of_mem_rowMarks {mark : Char} (listed : mark ∈ ['"', '(', '\x7b']) :
    Text.isSeparator mark ∧ mark ∉ marks := by
  have apart : ['"', '(', '\x7b'].all fun mark =>
      Text.isSeparator mark && !marks.contains mark := by
    decide
  simpa using List.all_eq_true.mp apart mark listed

theorem unmarked_name (model : Model) : Unmarked (model.name .go).toList := by
  intro mark listed
  obtain ⟨separates, unmarked⟩ := isSeparator_of_mem_rowMarks listed
  have isGo := Convention.go_mem_languages
  cases model with
  | type decl => exact Convention.not_mem_typeName isGo separates unmarked _
  | input method => exact Convention.not_mem_inputType isGo separates unmarked _
  | output method => exact Convention.not_mem_outputType isGo separates unmarked _

theorem unmarked_placeOf (field : Field) : Unmarked (placeOf field).toList := by
  intro mark listed
  obtain ⟨separates, unmarked⟩ := isSeparator_of_mem_rowMarks listed
  exact Convention.not_mem_fieldName Convention.go_mem_languages separates unmarked (by decide) _

theorem unmarked_receiverOf {name : String} (unmarked : Unmarked name.toList) :
    Unmarked (receiverOf name).toList := by
  rw [receiverOf]
  split
  · decide
  · next c rest spelled =>
    rw [String.toList_ofList]
    intro mark listed
    refine not_mem_lowerChar (isSeparator_of_mem_rowMarks listed).1 fun same => ?_
    exact unmarked mark listed (by rw [spelled, same]; exact List.mem_cons_self)

variable {runtime : String} (plain : Unmarked runtime.toList)
include plain

/-- The rows of a statement need what it is said to need. -/
theorem needs_fragment {receiver : String} (unmarked : Unmarked receiver.toList) (check : Check) :
    Needs.all (((Statement.ofCheck check).fragment runtime receiver).rows.map
      (Needs.ofRow runtime)) = (Statement.ofCheck check).needs := by
  have target (field : Field) : Unmarked (receiver ++ "." ++ placeOf field).toList := by
    rw [String.toList_append, String.toList_append]
    exact .append (.append unmarked (by decide)) (unmarked_placeOf field)
  cases check with
  | default field value => exact needs_fill (target field) value
  | required field zero => exact needs_require (target field) plain field.name zero
  | oneOf field => exact needs_oneOf (target field) plain field.name field.enumValues
  | elements field element => exact needs_each (target field) _

theorem needs_method {typeName : String} (unmarked : Unmarked typeName.toList)
    (checks : List Check) :
    Needs.all ((rowsIn (method runtime typeName (checks.map Statement.ofCheck)).body).map
      (Needs.ofRow runtime)) = Needs.all (checks.map fun check => (Statement.ofCheck check).needs) := by
  have done : Needs.ofRow runtime "return nil" = {} :=
    ofRow_append (show Unmarked "".toList by decide) "return nil" (by decide)
  have ending : rowsIn [.line "return nil"] = ["return nil"] := rfl
  rw [method, rowsIn_append, rowsIn_flatMap, ending, List.map_append, Needs.all_append,
    List.map_singleton, done, List.flatMap_map, List.map_flatMap, Needs.all_flatMap]
  have each : (checks.map fun check => Needs.all ((rowsIn [(Statement.ofCheck check).fragment runtime
      (receiverOf typeName), .blank]).map (Needs.ofRow runtime))) =
        checks.map fun check => (Statement.ofCheck check).needs := by
    refine List.map_congr_left fun check _ => ?_
    rw [← needs_fragment plain (unmarked_receiverOf unmarked) check]
    simp only [rowsIn, Fragment.rows, List.append_nil]
  rw [each]
  exact Needs.merge_empty _

end GoValidation

namespace GoTypes

/-! ## Needs of files -/

/-- The rows of the functions in a file. -/
def functionRows (file : GoCode.File) : List String :=
  file.functions.flatMap fun func => rowsIn func.body

/-- The types of the fields in a file. -/
def fieldTypes (file : GoCode.File) : List String :=
  (file.decls.filterMap GoCode.Decl.struct?).flatMap fun decl => decl.fields.map GoCode.Field.type

variable {config : GoTypes} {schema : Schema}

theorem statements_declare {model : Model} {declared : Declared}
    (done : config.declare schema model = .ok declared) :
    Unmarked declared.struct.name.toList ∧ (declared.statements = none ∨
      ∃ checks : List Check, declared.statements = some (checks.map Statement.ofCheck)) := by
  rw [declare] at done
  obtain ⟨fields, listed, done⟩ := Json.exists_of_bind_eq_ok done
  split at done
  · obtain ⟨checks, _, done⟩ := Json.exists_of_bind_eq_ok done
    rw [eq_of_pure_eq_ok done]
    exact ⟨unmarked_name model, .inr ⟨checks, rfl⟩⟩
  · rw [eq_of_pure_eq_ok done]
    exact ⟨unmarked_name model, .inl rfl⟩

theorem functions_fileOf (config : GoTypes) (schema : Schema) (declared : List Declared) :
    (config.fileOf schema declared).functions = declared.flatMap fun declared =>
      declared.statements.toList.map
        (method (GoCode.packageQualifier config.runtime) declared.struct.name) := by
  have methods : (declared.flatMap (Declared.decls
      (GoCode.packageQualifier config.runtime))).filterMap GoCode.Decl.func? =
        declared.flatMap fun declared => declared.statements.toList.map
          (method (GoCode.packageQualifier config.runtime) declared.struct.name) := by
    rw [List.filterMap_flatMap]
    refine List.flatMap_congr fun declared _ => ?_
    rw [Declared.decls]
    cases declared.statements <;> rfl
  rw [GoCode.File.functions, fileOf, List.filterMap_append, methods]
  split <;> exact List.append_nil _

theorem needs_foldl (declared : List Declared) :
    declared.foldl (fun needs declared => needs.merge declared.needs) {} =
      Needs.all (declared.map Declared.needs) := by
  rw [Needs.all, List.foldl_map]

theorem Declared.needs_eq (declared : Declared) :
    declared.needs = Needs.all ((declared.statements.getD []).map Statement.needs) := by
  rw [Declared.needs, Needs.all, List.foldl_map]

variable (plain : Unmarked (GoCode.packageQualifier config.runtime).toList)
include plain

/-- The rows of the functions in a file need what its declarations are said to need. -/
theorem needs_functionRows {declared : List Declared}
    (listed : schema.models.mapM (config.declare schema) = .ok declared) :
    Needs.all ((functionRows (config.fileOf schema declared)).map
      (Needs.ofRow (GoCode.packageQualifier config.runtime))) =
        Needs.all (declared.map Declared.needs) := by
  rw [functionRows, functions_fileOf, List.flatMap_assoc, List.map_flatMap, Needs.all_flatMap]
  refine congrArg Needs.all (List.map_congr_left fun decl member => ?_)
  obtain ⟨unmarked, none | ⟨checks, some⟩⟩ := forall_of_mapM_eq_ok
    (fun {_ _} => statements_declare) listed decl member
  · rw [Declared.needs_eq, none]
    rfl
  · rw [Declared.needs_eq, some, Option.toList_some, List.map_singleton, List.flatMap_singleton,
      needs_method plain unmarked, Option.getD_some, List.map_map]
    rfl

omit plain in
theorem mem_paths_add {imports : GoCode.Imports} {path other : String} :
    other ∈ (imports.add path).paths ↔ other = path ∨ other ∈ imports.paths := by
  rw [GoCode.Imports.add]
  split <;> simp only [GoCode.Imports.paths, List.mem_append, mem_insertName] <;> tauto

omit plain in
theorem mem_paths_addIf {imports : GoCode.Imports} {condition : Bool} {path other : String} :
    other ∈ (imports.addIf condition path).paths ↔
      (other = path ∧ condition = true) ∨ other ∈ imports.paths := by
  rw [GoCode.Imports.addIf]
  cases condition <;> simp [mem_paths_add]

end GoTypes

/-! ## Timestamps -/

/-- The fields of the record types are the fields of the schema. -/
theorem Schema.flatMap_fields_models (schema : Schema) :
    schema.models.flatMap Model.fields = schema.allFields := by
  have ofMethod (method : Method) : method.models.flatMap Model.fields = method.fields := by
    rw [Method.models, Method.fields, Method.hasInputs, Method.hasOutputs, List.flatMap_append]
    cases inputs : method.inputs <;> cases outputs : method.outputs <;>
      simp [Model.fields, inputs, outputs]
  rw [models, List.flatMap_append, List.flatMap_map, List.flatMap_assoc, allFields_eq]
  refine congrArg₂ (· ++ ·) rfl (List.flatMap_congr fun method _ => ofMethod method)

/-- Whether a field is said to have timestamps for items without being an array. -/
def Field.HasStrayTimestamps (field : Field) : Prop :=
  field.isArray = false ∧ field.items = some (.primitive .timestamp)

namespace GoTypes

variable {schema : Schema} {field : Field} {text : String}

/-- Whether the type of some values mentions times as it should. -/
def mentionsRightly (value : ValueType) : Bool :=
  match TypeMapping.go.value value with
  | .ok text => decide ("time.Time".toList <:+: text.toList) ==
      (value == .one (.primitive .timestamp) || value == .many (.primitive .timestamp))
  | .error _ => true

theorem mentions_time_value {value : ValueType} (made : TypeMapping.go.value value = .ok text) :
    "time.Time".toList <:+: text.toList ↔
      value = .one (.primitive .timestamp) ∨ value = .many (.primitive .timestamp) := by
  have ofPrimitive : ∀ kind, mentionsRightly (.one (.primitive kind)) ∧
      mentionsRightly (.many (.primitive kind)) := by
    intro kind
    cases kind <;> decide
  have ofDeclared {name : String} {position : TypePosition} (spelled :
      text = (Language.go.around position).1 ++ Convention.go.typeName name ++
        (Language.go.around position).2) : ¬ "time.Time".toList <:+: text.toList := by
    have noDot : '.' ∉ text.toList := by
      have inName : '.' ∉ (Convention.go.typeName name).toList :=
        unmarked_typeName Language.go.convention_mem_languages name '.' (by decide)
      rw [spelled]
      cases position <;> simpa [Language.around] using inName
    exact fun within => noDot (within.subset (by decide))
  have rightly (right : mentionsRightly value) : "time.Time".toList <:+: text.toList ↔
      value = .one (.primitive .timestamp) ∨ value = .many (.primitive .timestamp) := by
    rw [mentionsRightly, made, beq_iff_eq] at right
    rw [← decide_eq_true_iff (p := "time.Time".toList <:+: text.toList), right]
    simp
  rcases value with (kind | name) | (kind | name)
  · exact rightly (ofPrimitive kind).1
  · have spelled := Except.ok.inj (made.symm.trans (Language.go.value_one name))
    exact iff_of_false (ofDeclared spelled) (by simp)
  · exact rightly (ofPrimitive kind).2
  · have spelled := Except.ok.inj (made.symm.trans (Language.go.value_many name))
    exact iff_of_false (ofDeclared spelled) (by simp)

theorem eq_primitive_iff {type : FieldType} {element : ElementType} {kind : Kind}
    (resolved : schema.elementType type = .ok element) :
    element = .primitive kind ↔ type = .primitive kind := by
  cases type with
  | primitive other =>
      rw [← Except.ok.inj resolved]
      exact ⟨fun same => congrArg _ (ElementType.primitive.inj same),
        fun same => congrArg _ (FieldType.primitive.inj same)⟩
  | reference target =>
      obtain ⟨decl, -, rfl⟩ := Json.exists_of_map_eq_ok resolved
      exact iff_of_false nofun nofun

/-- A field's type mentions times when the field is a timestamp, or an array of them. -/
theorem mentions_time_field (typed : TypeMapping.go.field schema field = .ok text) :
    "time.Time".toList <:+: text.toList ↔
      field.type = .primitive .timestamp ∨
        (field.isArray = true ∧ field.items = some (.primitive .timestamp)) := by
  obtain ⟨value, valued, made⟩ := Json.exists_of_bind_eq_ok typed
  rw [mentions_time_value made]
  rw [Schema.valueType] at valued
  split at valued
  · next isArray =>
    split at valued
    · next items listed =>
      obtain ⟨element, resolved, rfl⟩ := Json.exists_of_map_eq_ok valued
      simp [Field.isArray, isArray, listed, eq_primitive_iff resolved]
    · cases valued
  · next noArray =>
    obtain ⟨element, resolved, rfl⟩ := Json.exists_of_map_eq_ok valued
    have single : field.isArray = false := by
      rw [Field.isArray, beq_eq_false_iff_ne]
      exact noArray
    simp [single, eq_primitive_iff resolved]

/-- The import of times is decided by the fields of the schema: a field that is no array has its items
looked at all the same. -/
theorem mentionsTime_iff (typed : TypeMapping.go.field schema field = .ok text) :
    mentionsTime field = true ↔
      "time.Time".toList <:+: text.toList ∨ field.HasStrayTimestamps := by
  rw [mentions_time_field typed, Field.HasStrayTimestamps, mentionsTime, Bool.or_eq_true, beq_iff_eq,
    beq_iff_eq]
  cases field.isArray <;> simp

variable {config : GoTypes}

/-- The fields in a file have the types of the fields of the schema, in order. -/
theorem types_fileOf {declared : List Declared}
    (listed : schema.models.mapM (config.declare schema) = .ok declared) :
    (fieldTypes (config.fileOf schema declared)).map Except.ok =
      schema.allFields.map (TypeMapping.go.field schema) := by
  have flat := congrArg List.flatten (map_map_of_mapM_of_mem (fields_fileOf listed)
    fun _ _ _ _ _ => type_structField)
  rw [← List.flatMap_def, ← List.flatMap_def, List.flatMap_map] at flat
  rw [← Schema.flatMap_fields_models, List.map_flatMap, ← flat, fieldTypes, List.map_flatMap]
  exact List.flatMap_congr fun decl _ => List.map_map

/-- The import of times is there when a field's type mentions them, or a field has stray ones. -/
theorem any_mentionsTime_iff {declared : List Declared}
    (listed : schema.models.mapM (config.declare schema) = .ok declared) :
    (schema.fields.any fun (_, field) => mentionsTime field) = true ↔
      (∃ type ∈ fieldTypes (config.fileOf schema declared),
        "time.Time".toList <:+: type.toList) ∨
      ∃ field ∈ schema.allFields, field.HasStrayTimestamps := by
  have types := types_fileOf listed
  have typed {field : Field} (member : field ∈ schema.allFields) :
      ∃ type ∈ fieldTypes (config.fileOf schema declared),
        TypeMapping.go.field schema field = .ok type := by
    have mapped := List.mem_map_of_mem (f := TypeMapping.go.field schema) member
    rw [← types, List.mem_map] at mapped
    obtain ⟨type, isType, same⟩ := mapped
    exact ⟨type, isType, same.symm⟩
  have scanned : (schema.fields.any fun (_, field) => mentionsTime field) =
      schema.allFields.any mentionsTime := by
    rw [← Schema.map_snd_fields, List.any_map]
    rfl
  rw [scanned, List.any_eq_true]
  constructor
  · rintro ⟨field, member, mentions⟩
    obtain ⟨type, isType, mapped⟩ := typed member
    exact ((mentionsTime_iff mapped).mp mentions).imp (fun within => ⟨type, isType, within⟩)
      fun stray => ⟨field, member, stray⟩
  · rintro (⟨type, isType, within⟩ | ⟨field, member, stray⟩)
    · have mapped := List.mem_map_of_mem (f := Except.ok (ε := GenerateError)) isType
      rw [types, List.mem_map] at mapped
      obtain ⟨field, member, mapped⟩ := mapped
      exact ⟨field, member, (mentionsTime_iff mapped).mpr (.inl within)⟩
    · obtain ⟨type, -, mapped⟩ := typed member
      exact ⟨field, member, (mentionsTime_iff mapped).mpr (.inr stray)⟩

theorem mem_paths_fileOf {declared : List Declared} {path : String} :
    path ∈ (config.fileOf schema declared).imports.paths ↔
      (path = "time" ∧ (schema.fields.any fun (_, field) => mentionsTime field) = true) ∨
      (path = "fmt" ∧ (Needs.all (declared.map Declared.needs)).fmt = true) ∨
      (path = config.runtime ∧ (Needs.all (declared.map Declared.needs)).runtime = true) := by
  have fresh : path ∉ ({} : GoCode.Imports).paths := List.not_mem_nil
  rw [fileOf, needs_foldl, mem_paths_addIf, mem_paths_addIf, mem_paths_addIf, or_iff_left fresh]
  tauto

theorem helper_mem_decls {declared : List Declared} :
    GoCode.Decl.raw ("\n".intercalate oneOfHelper) ∈ (config.fileOf schema declared).decls ↔
      (Needs.all (declared.map Declared.needs)).oneOf = true := by
  have apart : GoCode.Decl.raw ("\n".intercalate oneOfHelper) ∉
      declared.flatMap (Declared.decls (GoCode.packageQualifier config.runtime)) := by
    rw [List.mem_flatMap]
    rintro ⟨decl, -, member⟩
    rw [Declared.decls, List.mem_cons, List.mem_map] at member
    obtain same | ⟨statements, -, same⟩ := member
    · cases same
    · cases same
  rw [fileOf, needs_foldl, List.mem_append]
  split <;> simp_all

end GoTypes

/-! ## Exact imports -/

/-- A file of Go types imports the package of times when the type of a field in it mentions them, the
package that formats errors when a row of its functions uses it, and the package of the runtime when a
row builds a validation error; and it has the function that looks texts up when a row calls it. The
package of times is imported as well for a field that is no array but has timestamps for items, as
though items were read of any field. Rows are read outside of their literals, and the name of the
runtime's package is taken to have no quote, parenthesis or brace. -/
theorem imports_file {config : GoTypes} {schema : Schema} {file : GoCode.File}
    (done : config.file schema = .ok file)
    (plain : Unmarked (GoCode.packageQualifier config.runtime).toList) :
    (∀ path, path ∈ file.imports.paths ↔
      (path = "time" ∧ ((∃ type ∈ GoTypes.fieldTypes file, "time.Time".toList <:+: type.toList) ∨
        ∃ field ∈ schema.allFields, field.HasStrayTimestamps)) ∨
      (path = "fmt" ∧ ∃ row ∈ GoTypes.functionRows file, occurs "fmt.Errorf(" row) ∨
      (path = config.runtime ∧ ∃ row ∈ GoTypes.functionRows file,
        occurs (GoCode.packageQualifier config.runtime ++ ".ValidationError\x7b") row)) ∧
    (.raw ("\n".intercalate oneOfHelper) ∈ file.decls ↔
      ∃ row ∈ GoTypes.functionRows file, occurs "oneOf(" row) := by
  obtain ⟨declared, listed, done⟩ := Json.exists_of_bind_eq_ok done
  rw [eq_of_pure_eq_ok done]
  have needs := GoTypes.needs_functionRows plain listed
  constructor
  · intro path
    rw [GoTypes.mem_paths_fileOf, GoTypes.any_mentionsTime_iff listed, ← needs, Needs.fmt_all,
      Needs.runtime_all, List.any_map, List.any_map, List.any_eq_true, List.any_eq_true]
    simp only [Function.comp_apply, Needs.ofRow]
  · rw [GoTypes.helper_mem_decls, ← needs, Needs.oneOf_all, List.any_map, List.any_eq_true]
    rfl

/-- A cargo with a field for each check. -/
def manifest : Schema :=
  { name := "manifest"
    version := ""
    types := [
      ("cargo", {
        name := "cargo"
        properties := [
          { name := "crates", type := .primitive .array
            items := some (.reference (.toType "crate")) },
          { name := "kind", type := .primitive .string, enumValues := ["bulk", "oneOf("] },
          { name := "loaded_at", type := .primitive .timestamp, required := true }] }),
      ("crate", {
        name := "crate"
        properties := [
          { name := "label", type := .primitive .string, defaultValue := some (.string "fmt.Errorf(") }] })] }

theorem imports_manifest :
    ∃ file, ({ validate := true } : GoTypes).file manifest = .ok file ∧
      Unmarked (GoCode.packageQualifier GoCode.defaultRuntime).toList ∧
      file.imports.paths = ["fmt", "time", "github.com/apex/rpc"] ∧
      (∃ row ∈ GoTypes.functionRows file, occurs "fmt.Errorf(" row) ∧
      (∃ row ∈ GoTypes.functionRows file, occurs "rpc.ValidationError\x7b" row) ∧
      .raw ("\n".intercalate oneOfHelper) ∈ file.decls := by
  have made : (({ validate := true } : GoTypes).file manifest).map (fun file =>
      (file.imports.paths, (GoTypes.functionRows file).any (occurs "oneOf("))) =
        .ok (["fmt", "time", "github.com/apex/rpc"], true) :=
    eq_ok_of_toOption (by decide +kernel)
  obtain ⟨file, done, made⟩ := Json.exists_of_map_eq_ok made
  have plain : Unmarked (GoCode.packageQualifier GoCode.defaultRuntime).toList := by decide
  have exact := imports_file done plain
  have paths : file.imports.paths = ["fmt", "time", "github.com/apex/rpc"] :=
    congrArg Prod.fst made
  refine ⟨file, done, plain, paths, ?_, ?_, ?_⟩
  · have imported := (exact.1 "fmt").mp (by rw [paths]; decide)
    simpa [GoCode.defaultRuntime] using imported
  · have imported := (exact.1 GoCode.defaultRuntime).mp (by rw [paths]; decide)
    have qualifier : GoCode.packageQualifier "github.com/apex/rpc" = "rpc" := by decide
    simpa [GoCode.defaultRuntime, qualifier] using imported
  · have called : (GoTypes.functionRows file).any (occurs "oneOf(") := congrArg Prod.snd made
    exact exact.2.mpr (List.any_eq_true.mp called)

/-- A text that has timestamps for items. -/
def label : Schema :=
  { name := "k"
    version := ""
    types := [
      ("label", {
        name := "label"
        properties := [
          { name := "x", type := .primitive .string, items := some (.primitive .timestamp) }] })] }

def labelText : String :=
  "\x7b\"name\":\"k\",\"version\":\"\",\"description\":\"\",\"groups\":[],\"methods\":[]," ++
    "\"types\":\x7b\"label\":\x7b\"properties\":[\x7b\"name\":\"x\",\"type\":\"string\"," ++
    "\"items\":\x7b\"type\":\"timestamp\"\x7d\x7d]\x7d\x7d\x7d"

/-- A package can be imported that is not used: items of a field that is no array are timestamps. -/
theorem imports_label :
    load labelText = .ok label ∧ label.Accepted ∧
      ∃ file, ({} : GoTypes).file label = .ok file ∧ "time" ∈ file.imports.paths ∧
        ∀ type ∈ GoTypes.fieldTypes file, ¬ "time.Time".toList <:+: type.toList := by
  have canonical : label.IsCanonical :=
    ⟨by decide, by decide, by decide, by decide, by decide, by decide⟩
  have loads : load labelText = .ok label :=
    load_of_canonical canonical (.append (.append .literal .literal) .literal)
      (by decide +kernel) (eq_ok_of_toOption (by decide +kernel))
  have accepted : label.Accepted := .of_clean (.inl rfl) (by decide +kernel)
  have made : (({} : GoTypes).file label).map (fun file =>
      (file.imports.paths, GoTypes.fieldTypes file)) = .ok (["time"], ["string"]) :=
    eq_ok_of_toOption (by decide +kernel)
  obtain ⟨file, done, made⟩ := Json.exists_of_map_eq_ok made
  have paths : file.imports.paths = ["time"] := congrArg Prod.fst made
  have types : GoTypes.fieldTypes file = ["string"] := congrArg Prod.snd made
  refine ⟨loads, accepted, file, done, by rw [paths]; decide, ?_⟩
  rw [types]
  decide

end RpcSchema
