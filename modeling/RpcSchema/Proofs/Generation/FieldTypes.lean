import RpcSchema.Proofs.Code.TypeWords
import RpcSchema.Proofs.Generation.Outlines

/-!
# Types of fields in generated code

What a language writes for the type of a value has words of its own and, for references, the name of
the declared type. The fields in a generated file have these types for the fields of the schema.
-/

namespace RpcSchema

open Code Naming

/-- The name of a declared type in a value's type. -/
def ValueType.declared? : ValueType → Option String
  | .one (.declared name) => some name
  | .many (.declared name) => some name
  | _ => none

/-! ## Types of values -/

/-- A language that record types are generated in. -/
inductive Language
  | go
  | typescript
  | rust
  | csharp
deriving DecidableEq

namespace Language

def convention : Language → Convention
  | .go => .go
  | .typescript => .typescript
  | .rust => .rust
  | .csharp => .csharp

def mapping : Language → TypeMapping
  | .go => .go
  | .typescript => .typescript
  | .rust => .rust
  | .csharp => .csharp

/-- The words of a language's own types. -/
def ownWords : Language → List String
  | .go => ["string", "bool", "int", "float64", "map", "any", "time", "Time"]
  | .typescript => ["string", "boolean", "number", "Record", "unknown", "Date"]
  | .rust =>
    ["String", "bool", "i64", "f64", "serde_json", "Map", "Value", "Option", "chrono", "DateTime",
      "Utc", "Vec", "Box"]
  | .csharp => ["string", "bool", "long", "double", "Dictionary", "object", "DateTime", "List"]

theorem convention_mem_languages (language : Language) :
    language.convention ∈ Convention.languages := by
  cases language <;> simp [convention, Convention.languages]

/-- Whether the type of some values has words of the language only. -/
def isOwn (language : Language) (value : ValueType) : Bool :=
  match language.mapping.value value with
  | .ok text => (typeWords text).all language.ownWords.contains
  | .error _ => true

theorem isOwn_primitive (language : Language) (kind : Kind) :
    language.isOwn (.one (.primitive kind)) ∧ language.isOwn (.many (.primitive kind)) := by
  cases language <;> cases kind <;> decide +kernel

/-- What stands before and behind the name of a declared type, alone and as an element. -/
def around : Language → TypePosition → String × String
  | .go, .field => ("*", "")
  | .go, .element => ("[]", "")
  | .typescript, .field => ("", "")
  | .typescript, .element => ("", "[]")
  | .rust, .field => ("Option<Box<", ">>")
  | .rust, .element => ("Vec<", ">")
  | .csharp, .field => ("", "")
  | .csharp, .element => ("List<", ">")

theorem surrounds_around (language : Language) (position : TypePosition) :
    surrounds language.ownWords (language.around position).1 (language.around position).2 := by
  cases language <;> cases position <;> decide +kernel

theorem value_one (language : Language) (name : String) :
    language.mapping.value (.one (.declared name)) =
      .ok ((language.around .field).1 ++ language.convention.typeName name ++
        (language.around .field).2) := by
  cases language <;> simp [mapping, TypeMapping.value, TypeMapping.element, TypeMapping.go,
    TypeMapping.typescript, TypeMapping.rust, TypeMapping.csharp, around, convention]

theorem value_many (language : Language) (name : String) :
    language.mapping.value (.many (.declared name)) =
      .ok ((language.around .element).1 ++ language.convention.typeName name ++
        (language.around .element).2) := by
  cases language <;> simp [mapping, TypeMapping.value, TypeMapping.element, TypeMapping.go,
    TypeMapping.typescript, TypeMapping.rust, TypeMapping.csharp, around, convention, Except.map]

/-- The words of a type are those of the language and the name of the declared type. -/
theorem mem_typeWords_value {language : Language} {value : ValueType} {text word : String}
    (made : language.mapping.value value = .ok text) (member : word ∈ typeWords text) :
    word ∈ language.ownWords ∨
      ∃ name, value.declared? = some name ∧ word = language.convention.typeName name := by
  have own (known : language.isOwn value) : word ∈ language.ownWords := by
    rw [isOwn, made] at known
    exact List.contains_iff_mem.mp (List.all_eq_true.mp known word member)
  have named {name : String} {position : TypePosition} (spelled :
      text = (language.around position).1 ++ language.convention.typeName name ++
        (language.around position).2) :
      word ∈ language.ownWords ∨ word = language.convention.typeName name := by
    rw [spelled] at member
    exact mem_typeWords_of_surrounds (unmarked_typeName language.convention_mem_languages name)
      (language.surrounds_around position) member
  rcases value with (kind | name) | (kind | name)
  · exact .inl (own (language.isOwn_primitive kind).1)
  · rw [value_one] at made
    exact (named (Except.ok.inj made).symm).imp_right fun same => ⟨name, rfl, same⟩
  · exact .inl (own (language.isOwn_primitive kind).2)
  · rw [value_many] at made
    exact (named (Except.ok.inj made).symm).imp_right fun same => ⟨name, rfl, same⟩

end Language

/-! ## Types of fields -/

def TsCode.Decl.interface? : TsCode.Decl → Option TsCode.Interface
  | .interface decl => some decl
  | _ => none

def CsCode.ClassDecl.properties (decl : CsCode.ClassDecl) : List CsCode.Property :=
  decl.members.filterMap CsCode.Member.property?

/-- The types of the properties of a class. -/
def CsCode.ClassDecl.types (decl : CsCode.ClassDecl) : List String :=
  (decl.members.filterMap CsCode.Member.property?).map CsCode.Property.type

/-- What is looked up in what the fields of record types become, when it is known of each field. -/
theorem map_map_of_mapM_of_mem {ε β γ : Type} {step : Field → Except ε β} {look : β → γ}
    {known : Field → γ} {models : List Model} {results : List (List β)}
    (done : results.map Except.ok = models.map fun model => model.fields.mapM step)
    (each : ∀ model ∈ models, ∀ field ∈ model.fields, ∀ result, step field = .ok result →
      look result = known field) :
    results.map (List.map look) = models.map fun model => model.fields.map known := by
  induction models generalizing results with
  | nil => rw [List.map_eq_nil_iff.mp done, List.map_nil, List.map_nil]
  | cons model rest ih =>
      obtain ⟨here, later⟩ := List.forall_mem_cons.mp each
      obtain ⟨result, others, rfl, made, madeRest⟩ := List.map_eq_cons_iff.mp done
      rw [List.map_cons, List.map_cons, map_of_mapM_of_mem here made.symm, ih madeRest later]

/-! What is made of the fields of each record type, one after the other. -/

section Fields

variable {schema : Schema}

theorem GoTypes.fields_fileOf {config : GoTypes} {declared : List Declared}
    (listed : schema.models.mapM (config.declare schema) = .ok declared) :
    (((config.fileOf schema declared).decls.filterMap GoCode.Decl.struct?).map
        GoCode.Struct.fields).map Except.ok =
      schema.models.map fun model => model.fields.mapM (structField schema) := by
  rw [structs_fileOf, List.map_map, List.map_map]
  refine map_of_mapM_eq_ok (fun done => ?_) listed
  obtain ⟨fields, made, struct⟩ := exists_of_declare done
  rw [Function.comp_apply, Function.comp_apply, struct, made]

theorem GoTypes.type_structField {field : Field} {made : GoCode.Field}
    (done : structField schema field = .ok made) :
    Except.ok made.type = TypeMapping.go.field schema field := by
  rw [structField] at done
  obtain ⟨type, mapped, done⟩ := Json.exists_of_bind_eq_ok done
  rw [eq_of_pure_eq_ok done, mapped]

theorem RustTypes.fields_fileOf {config : RustTypes} {declared : List Declared}
    (listed : schema.models.mapM (config.declare schema) = .ok declared) :
    (((fileOf declared).decls.filterMap RustCode.Decl.struct?).map RustCode.Struct.fields).map
        Except.ok =
      schema.models.map fun model => model.fields.mapM (structField schema) := by
  rw [structs_fileOf, List.map_map, List.map_map]
  refine map_of_mapM_eq_ok (fun done => ?_) listed
  obtain ⟨fields, made, -, same⟩ := exists_of_declare done
  rw [Function.comp_apply, Function.comp_apply, same, made]

theorem RustTypes.type_structField {field : Field} {made : RustCode.Field}
    (done : structField schema field = .ok made) :
    Except.ok made.type = TypeMapping.rust.field schema field := by
  rw [structField] at done
  obtain ⟨value, typed, done⟩ := Json.exists_of_bind_eq_ok done
  obtain ⟨type, mapped, done⟩ := Json.exists_of_bind_eq_ok done
  rw [eq_of_pure_eq_ok done, TypeMapping.field, typed]
  exact mapped.symm

theorem TsTypes.fields_interfaces {interfaces : List TsCode.Interface}
    (listed : schema.models.mapM (declare schema) = .ok interfaces) :
    (((interfaces.map TsCode.Decl.interface).filterMap TsCode.Decl.interface?).map
        TsCode.Interface.fields).map Except.ok =
      schema.models.map fun model => model.fields.mapM (interfaceField schema) := by
  have declared : (interfaces.map TsCode.Decl.interface).filterMap TsCode.Decl.interface? =
      interfaces := by
    rw [List.filterMap_map]
    exact List.filterMap_some
  rw [declared, List.map_map]
  refine map_of_mapM_eq_ok (fun done => ?_) listed
  rw [declare] at done
  obtain ⟨fields, made, done⟩ := Json.exists_of_bind_eq_ok done
  rw [Function.comp_apply, eq_of_pure_eq_ok done, made]

theorem TsTypes.type_interfaceField {field : Field} {made : TsCode.InterfaceField}
    (done : interfaceField schema field = .ok made) :
    Except.ok made.type = TypeMapping.typescript.field schema field := by
  rw [interfaceField] at done
  obtain ⟨type, mapped, done⟩ := Json.exists_of_bind_eq_ok done
  rw [eq_of_pure_eq_ok done, mapped]

theorem CsClient.properties_classes {config : CsClient} {classes : List CsCode.ClassDecl}
    (made : config.classes schema = .ok classes) :
    (classes.dropLast.dropLast.map CsCode.ClassDecl.properties).map Except.ok =
      schema.models.map fun model => model.fields.mapM (property schema) := by
  obtain ⟨models, listed, made⟩ := Json.exists_of_bind_eq_ok made
  have front : classes.dropLast.dropLast = models := by
    rw [eq_of_pure_eq_ok made, List.dropLast_append_cons]
    exact List.dropLast_concat
  rw [front, List.map_map]
  refine map_of_mapM_eq_ok (fun done => ?_) listed
  rw [declare] at done
  obtain ⟨properties, made, done⟩ := Json.exists_of_bind_eq_ok done
  rw [Function.comp_apply, eq_of_pure_eq_ok done, CsCode.ClassDecl.properties,
    CsCode.filterMap_property, made]

theorem CsClient.type_property {field : Field} {made : CsCode.Property}
    (done : property schema field = .ok made) :
    Except.ok made.type = TypeMapping.csharp.field schema field := by
  rw [property] at done
  obtain ⟨type, mapped, done⟩ := Json.exists_of_bind_eq_ok done
  rw [eq_of_pure_eq_ok done, mapped]

end Fields

namespace ModelFile

def language : ModelFile → Language
  | .go _ => .go
  | .typescript => .typescript
  | .rust _ => .rust
  | .csharp _ => .csharp

/-- The types of the fields in a generated file, for each record type. -/
def fieldTypes (file : ModelFile) (schema : Schema) : Except GenerateError (List (List String)) :=
  match file with
  | .go config =>
    (config.file schema).map fun file =>
      (file.decls.filterMap GoCode.Decl.struct?).map fun decl => decl.fields.map GoCode.Field.type
  | .typescript =>
    (TsTypes.file schema).map fun file =>
      (file.decls.filterMap TsCode.Decl.interface?).map fun decl =>
        decl.fields.map TsCode.InterfaceField.type
  | .rust config =>
    (config.file schema).map fun file =>
      (file.decls.filterMap RustCode.Decl.struct?).map fun decl =>
        decl.fields.map RustCode.Field.type
  | .csharp config =>
    (config.classes schema).map fun classes => classes.dropLast.dropLast.map CsCode.ClassDecl.types

/-- The fields in a generated file have the types of the fields in the schema, in order. -/
theorem fieldTypes_eq {file : ModelFile} {schema : Schema} {types : List (List String)}
    (done : file.fieldTypes schema = .ok types) :
    types.map (List.map Except.ok) =
      schema.models.map fun model => model.fields.map (file.language.mapping.field schema) := by
  cases file with
  | go config =>
      obtain ⟨code, made, rfl⟩ := Json.exists_of_map_eq_ok done
      obtain ⟨declared, listed, made⟩ := Json.exists_of_bind_eq_ok made
      have types := map_map_of_mapM_of_mem (GoTypes.fields_fileOf listed)
        fun _ _ _ _ _ => GoTypes.type_structField
      rw [eq_of_pure_eq_ok made]
      simp only [List.map_map, Function.comp_def] at types ⊢
      exact types
  | typescript =>
      obtain ⟨code, made, rfl⟩ := Json.exists_of_map_eq_ok done
      obtain ⟨interfaces, listed, made⟩ := Json.exists_of_bind_eq_ok made
      have types := map_map_of_mapM_of_mem (TsTypes.fields_interfaces listed)
        fun _ _ _ _ _ => TsTypes.type_interfaceField
      rw [eq_of_pure_eq_ok made]
      simp only [List.map_map, Function.comp_def] at types ⊢
      exact types
  | rust config =>
      obtain ⟨code, made, rfl⟩ := Json.exists_of_map_eq_ok done
      obtain ⟨declared, listed, made⟩ := Json.exists_of_bind_eq_ok made
      have types := map_map_of_mapM_of_mem (RustTypes.fields_fileOf listed)
        fun _ _ _ _ _ => RustTypes.type_structField
      rw [eq_of_pure_eq_ok made]
      simp only [List.map_map, Function.comp_def] at types ⊢
      exact types
  | csharp config =>
      obtain ⟨classes, made, rfl⟩ := Json.exists_of_map_eq_ok done
      have types := map_map_of_mapM_of_mem (CsClient.properties_classes made)
        fun _ _ _ _ _ => CsClient.type_property
      simp only [CsCode.ClassDecl.types, CsCode.ClassDecl.properties, List.map_map,
        Function.comp_def] at types ⊢
      exact types

end ModelFile

end RpcSchema
