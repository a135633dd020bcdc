import RpcSchema.Proofs.Json.Agreement
import RpcSchema.Proofs.Naming.Alike
import RpcSchema.Proofs.Schema.Canonical
import RpcSchema.Proofs.Schema.Equality
import RpcSchema.Proofs.Validation.Acceptance
import RpcSchema.Target

/-!
# Outlines of generated record types

The outline of a record type is its name and the names of its fields, as a generated file declares
them. Validation compares the names of a schema, not those of generated code, and they need not stay
apart: this module says when they do.
-/

namespace RpcSchema

open Naming

structure Outline where
  name : String
  members : List String
deriving DecidableEq

/-! ## Outlines of files -/

def GoCode.Struct.outline (struct : GoCode.Struct) : Outline :=
  ⟨struct.name, struct.fields.map GoCode.Field.name⟩

def GoCode.Decl.struct? : GoCode.Decl → Option GoCode.Struct
  | .struct decl => some decl
  | _ => none

def GoCode.Decl.func? : GoCode.Decl → Option GoCode.Func
  | .func decl => some decl
  | _ => none

/-- The functions that a file declares. -/
def GoCode.File.functions (file : GoCode.File) : List GoCode.Func :=
  file.decls.filterMap GoCode.Decl.func?

def GoCode.Decl.outline? : GoCode.Decl → Option Outline
  | .struct decl => some decl.outline
  | _ => none

def TsCode.Interface.outline (decl : TsCode.Interface) : Outline :=
  ⟨decl.name, decl.fields.map TsCode.InterfaceField.name⟩

def TsCode.Decl.outline? : TsCode.Decl → Option Outline
  | .interface decl => some decl.outline
  | _ => none

def RustCode.Struct.outline (struct : RustCode.Struct) : Outline :=
  ⟨struct.name, struct.fields.map RustCode.Field.name⟩

def RustCode.Decl.struct? : RustCode.Decl → Option RustCode.Struct
  | .struct decl => some decl
  | _ => none

def RustCode.Decl.outline? : RustCode.Decl → Option Outline
  | .struct decl => some decl.outline
  | _ => none

def CsCode.Member.property? : CsCode.Member → Option CsCode.Property
  | .property decl => some decl
  | _ => none

def CsCode.ClassDecl.outline (decl : CsCode.ClassDecl) : Outline :=
  ⟨decl.name, (decl.members.filterMap CsCode.Member.property?).map CsCode.Property.name⟩

/-- A kind of generated file that declares the record types of a schema. -/
inductive ModelFile
  | go (config : GoTypes)
  | typescript
  | rust (config : RustTypes)
  | csharp (config : CsClient)

namespace ModelFile

def convention : ModelFile → Convention
  | .go _ => .go
  | .typescript => .typescript
  | .rust _ => .rust
  | .csharp _ => .csharp

/-- Whether the record types get validation, which fails on a default of another kind. -/
def validates : ModelFile → Bool
  | .go config => config.validate
  | .typescript => false
  | .rust config => config.validate
  | .csharp _ => false

/-- The outlines of the record types in a generated file. A C# client has two more classes at its
end, the exception and the client. -/
def outlines (file : ModelFile) (schema : Schema) : Except GenerateError (List Outline) :=
  match file with
  | .go config => (config.file schema).map fun file => file.decls.filterMap GoCode.Decl.outline?
  | .typescript => (TsTypes.file schema).map fun file => file.decls.filterMap TsCode.Decl.outline?
  | .rust config => (config.file schema).map fun file => file.decls.filterMap RustCode.Decl.outline?
  | .csharp config =>
    (config.classes schema).map fun classes =>
      classes.dropLast.dropLast.map CsCode.ClassDecl.outline

theorem convention_mem_languages (file : ModelFile) : file.convention ∈ Convention.languages := by
  cases file <;> simp [convention, Convention.languages]

end ModelFile

/-- The outline of a record type in a language. -/
def Model.outline (convention : Convention) (model : Model) : Outline :=
  ⟨model.name convention, model.fields.map fun field => convention.fieldName field.name⟩

theorem eq_of_pure_eq_ok {ε α : Type} {value result : α}
    (done : (pure value : Except ε α) = .ok result) : result = value := by
  cases done
  rfl

/-- What is looked up in the results of steps, when it is known of each step that is taken. -/
theorem map_of_mapM_of_mem {ε α β γ : Type} {step : α → Except ε β} {look : β → γ} {known : α → γ}
    {items : List α} {results : List β}
    (each : ∀ item ∈ items, ∀ result, step item = .ok result → look result = known item)
    (done : items.mapM step = .ok results) : results.map look = items.map known := by
  induction items generalizing results with
  | nil =>
      rw [List.mapM_nil] at done
      rw [eq_of_pure_eq_ok done, List.map_nil, List.map_nil]
  | cons item rest ih =>
      obtain ⟨here, later⟩ := List.forall_mem_cons.mp each
      rw [List.mapM_cons] at done
      obtain ⟨result, stepped, done⟩ := Json.exists_of_bind_eq_ok done
      obtain ⟨others, restDone, done⟩ := Json.exists_of_bind_eq_ok done
      rw [eq_of_pure_eq_ok done, List.map_cons, List.map_cons, here result stepped,
        ih later restDone]

theorem map_of_mapM_eq_ok {ε α β γ : Type} {step : α → Except ε β} {look : β → γ} {known : α → γ}
    (each : ∀ {item result}, step item = .ok result → look result = known item) {items : List α}
    {results : List β} (done : items.mapM step = .ok results) :
    results.map look = items.map known :=
  map_of_mapM_of_mem (fun _ _ _ stepped => each stepped) done

/-- What holds of every result of a step holds of all results. -/
theorem forall_of_mapM_eq_ok {ε α β : Type} {step : α → Except ε β} {holds : β → Prop}
    (each : ∀ {item result}, step item = .ok result → holds result) {items : List α}
    {results : List β} (done : items.mapM step = .ok results) : ∀ result ∈ results, holds result := by
  have known : results.map holds = items.map fun _ => True :=
    map_of_mapM_eq_ok (fun stepped => eq_true (each stepped)) done
  intro result member
  have listed := List.mem_map_of_mem (f := holds) member
  rw [known, List.mem_map] at listed
  obtain ⟨_, _, isTrue⟩ := listed
  exact isTrue ▸ trivial

/-! ## Outlines of declarations -/

section Declare

variable {schema : Schema} {model : Model}

theorem GoTypes.name_structField {field : Field} {made : GoCode.Field}
    (done : structField schema field = .ok made) :
    made.name = Convention.go.fieldName field.name := by
  rw [structField] at done
  obtain ⟨type, _, done⟩ := Json.exists_of_bind_eq_ok done
  rw [eq_of_pure_eq_ok done]

theorem GoTypes.exists_of_declare {config : GoTypes} {declared : Declared}
    (done : config.declare schema model = .ok declared) :
    ∃ fields, model.fields.mapM (structField schema) = .ok fields ∧
      declared.struct = ⟨model.name .go, modelDoc model, fields⟩ := by
  rw [declare] at done
  obtain ⟨fields, listed, done⟩ := Json.exists_of_bind_eq_ok done
  refine ⟨fields, listed, ?_⟩
  split at done
  · obtain ⟨checks, _, done⟩ := Json.exists_of_bind_eq_ok done
    rw [eq_of_pure_eq_ok done]
  · rw [eq_of_pure_eq_ok done]

theorem GoTypes.outline_declare {config : GoTypes} {declared : Declared}
    (done : config.declare schema model = .ok declared) :
    declared.struct.outline = model.outline .go := by
  obtain ⟨fields, listed, struct⟩ := exists_of_declare done
  rw [struct, GoCode.Struct.outline, Model.outline, map_of_mapM_eq_ok name_structField listed]

theorem RustTypes.name_structField {field : Field} {made : RustCode.Field}
    (done : structField schema field = .ok made) :
    made.name = Convention.rust.fieldName field.name := by
  rw [structField] at done
  obtain ⟨type, _, done⟩ := Json.exists_of_bind_eq_ok done
  obtain ⟨text, _, done⟩ := Json.exists_of_bind_eq_ok done
  rw [eq_of_pure_eq_ok done]

theorem RustTypes.exists_of_declare {config : RustTypes} {declared : Declared}
    (done : config.declare schema model = .ok declared) :
    ∃ fields, model.fields.mapM (structField schema) = .ok fields ∧
      declared.struct.name = model.name .rust ∧ declared.struct.fields = fields := by
  rw [declare] at done
  obtain ⟨fields, listed, done⟩ := Json.exists_of_bind_eq_ok done
  refine ⟨fields, listed, ?_⟩
  split at done
  · obtain ⟨checks, _, done⟩ := Json.exists_of_bind_eq_ok done
    rw [eq_of_pure_eq_ok done]
    exact ⟨rfl, rfl⟩
  · rw [eq_of_pure_eq_ok done]
    exact ⟨rfl, rfl⟩

theorem RustTypes.outline_declare {config : RustTypes} {declared : Declared}
    (done : config.declare schema model = .ok declared) :
    declared.struct.outline = model.outline .rust := by
  obtain ⟨fields, listed, named, typed⟩ := exists_of_declare done
  rw [RustCode.Struct.outline, named, typed, Model.outline,
    map_of_mapM_eq_ok name_structField listed]

theorem TsTypes.name_interfaceField {field : Field} {made : TsCode.InterfaceField}
    (done : interfaceField schema field = .ok made) :
    made.name = Convention.typescript.fieldName field.name := by
  rw [interfaceField] at done
  obtain ⟨type, _, done⟩ := Json.exists_of_bind_eq_ok done
  rw [eq_of_pure_eq_ok done]

theorem TsTypes.outline_declare {decl : TsCode.Interface} (done : declare schema model = .ok decl) :
    decl.outline = model.outline .typescript := by
  rw [declare] at done
  obtain ⟨fields, listed, done⟩ := Json.exists_of_bind_eq_ok done
  rw [eq_of_pure_eq_ok done, TsCode.Interface.outline, Model.outline,
    map_of_mapM_eq_ok name_interfaceField listed]

theorem CsClient.name_property {field : Field} {made : CsCode.Property}
    (done : property schema field = .ok made) :
    made.name = Convention.csharp.fieldName field.name := by
  rw [property] at done
  obtain ⟨type, _, done⟩ := Json.exists_of_bind_eq_ok done
  rw [eq_of_pure_eq_ok done]

theorem CsCode.filterMap_property (properties : List CsCode.Property) :
    (properties.map CsCode.Member.property).filterMap CsCode.Member.property? = properties := by
  rw [List.filterMap_map]
  exact List.filterMap_some

theorem CsClient.outline_declare {decl : CsCode.ClassDecl}
    (done : declare schema model = .ok decl) :
    decl.outline = model.outline .csharp := by
  rw [declare] at done
  obtain ⟨properties, listed, done⟩ := Json.exists_of_bind_eq_ok done
  rw [eq_of_pure_eq_ok done, CsCode.ClassDecl.outline, CsCode.filterMap_property, Model.outline,
    map_of_mapM_eq_ok name_property listed]

end Declare

/-! ## Outlines of generated files -/

theorem GoTypes.structs_fileOf (config : GoTypes) (schema : Schema) (declared : List Declared) :
    (config.fileOf schema declared).decls.filterMap GoCode.Decl.struct? =
      declared.map Declared.struct := by
  have structs : (declared.flatMap (Declared.decls
      (GoCode.packageQualifier config.runtime))).filterMap GoCode.Decl.struct? =
        declared.map Declared.struct := by
    rw [List.filterMap_flatMap, List.map_eq_flatMap]
    refine List.flatMap_congr fun declared _ => ?_
    rw [Declared.decls]
    cases declared.statements <;> rfl
  rw [fileOf, List.filterMap_append, structs]
  split <;> exact List.append_nil _

theorem GoTypes.outlines_fileOf (config : GoTypes) (schema : Schema) (declared : List Declared) :
    (config.fileOf schema declared).decls.filterMap GoCode.Decl.outline? =
      declared.map fun declared => declared.struct.outline := by
  have ofStruct : GoCode.Decl.outline? =
      fun decl => decl.struct?.map GoCode.Struct.outline := by
    funext decl
    cases decl <;> rfl
  rw [ofStruct, ← List.map_filterMap, structs_fileOf, List.map_map]
  rfl

theorem RustTypes.structs_fileOf (declared : List Declared) :
    (fileOf declared).decls.filterMap RustCode.Decl.struct? = declared.map Declared.struct := by
  rw [fileOf, List.filterMap_flatMap, List.map_eq_flatMap]
  refine List.flatMap_congr fun declared _ => ?_
  rw [Declared.decls]
  cases declared.validation <;> rfl

theorem RustTypes.outlines_fileOf (declared : List Declared) :
    (fileOf declared).decls.filterMap RustCode.Decl.outline? =
      declared.map fun declared => declared.struct.outline := by
  have ofStruct : RustCode.Decl.outline? =
      fun decl => decl.struct?.map RustCode.Struct.outline := by
    funext decl
    cases decl <;> rfl
  rw [ofStruct, ← List.map_filterMap, structs_fileOf, List.map_map]
  rfl

theorem TsTypes.outlines_interfaces (interfaces : List TsCode.Interface) :
    (interfaces.map TsCode.Decl.interface).filterMap TsCode.Decl.outline? =
      interfaces.map TsCode.Interface.outline := by
  rw [List.filterMap_map]
  exact congrFun List.filterMap_eq_map' interfaces

namespace ModelFile

/-- A generated file declares the record types of the schema, in order. -/
theorem outlines_eq {file : ModelFile} {schema : Schema} {outlines : List Outline}
    (done : file.outlines schema = .ok outlines) :
    outlines = schema.models.map (Model.outline file.convention) := by
  cases file with
  | go config =>
      obtain ⟨code, made, rfl⟩ := Json.exists_of_map_eq_ok done
      obtain ⟨declared, listed, made⟩ := Json.exists_of_bind_eq_ok made
      rw [eq_of_pure_eq_ok made, GoTypes.outlines_fileOf]
      exact map_of_mapM_eq_ok GoTypes.outline_declare listed
  | typescript =>
      obtain ⟨code, made, rfl⟩ := Json.exists_of_map_eq_ok done
      obtain ⟨interfaces, listed, made⟩ := Json.exists_of_bind_eq_ok made
      rw [eq_of_pure_eq_ok made, TsTypes.outlines_interfaces]
      exact map_of_mapM_eq_ok TsTypes.outline_declare listed
  | rust config =>
      obtain ⟨code, made, rfl⟩ := Json.exists_of_map_eq_ok done
      obtain ⟨declared, listed, made⟩ := Json.exists_of_bind_eq_ok made
      rw [eq_of_pure_eq_ok made, RustTypes.outlines_fileOf]
      exact map_of_mapM_eq_ok RustTypes.outline_declare listed
  | csharp config =>
      obtain ⟨classes, made, rfl⟩ := Json.exists_of_map_eq_ok done
      obtain ⟨models, listed, made⟩ := Json.exists_of_bind_eq_ok made
      have front : classes.dropLast.dropLast = models := by
        rw [eq_of_pure_eq_ok made, List.dropLast_append_cons]
        exact List.dropLast_concat
      rw [front]
      exact map_of_mapM_eq_ok CsClient.outline_declare listed

/-- The record types of an accepted schema fail to be generated for a default of another kind only,
and only with validation. -/
theorem errorOf_outlines {schema : Schema} (accepted : schema.Accepted) (file : ModelFile) :
    errorOf (file.outlines schema) =
      if file.validates then schema.readFields.findSome? Field.defaultError? else none := by
  have resolved := accepted.resolvedIn
  cases file with
  | go config =>
      rw [validates, ← errorOf_emit_goTypes resolved config, GoTypes.emit,
        errorOf_bind_of_ok fun _ => rfl, outlines, errorOf_map]
  | typescript =>
      rw [validates, if_neg Bool.false_ne_true, ← errorOf_emit_tsTypes resolved, TsTypes.emit,
        errorOf_bind_of_ok fun _ => rfl, outlines, errorOf_map]
  | rust config =>
      rw [validates, ← errorOf_emit_rustTypes resolved config, RustTypes.emit,
        errorOf_bind_of_ok fun _ => rfl, outlines, errorOf_map]
  | csharp config =>
      rw [validates, if_neg Bool.false_ne_true, ← errorOf_emit_csClient resolved config,
        CsClient.emit, errorOf_bind_of_ok fun _ => rfl, outlines, errorOf_map]

/-- Without validation, every accepted schema has its record types generated. -/
theorem exists_outlines {schema : Schema} (accepted : schema.Accepted) {file : ModelFile}
    (unvalidated : file.validates = false) : ∃ outlines, file.outlines schema = .ok outlines := by
  rw [← errorOf_eq_none_iff, file.errorOf_outlines accepted, unvalidated]
  rfl

end ModelFile

/-! ## Names that stay apart -/

/-- No two record types of a schema are alike. -/
def Schema.ModelsApart (schema : Schema) : Prop :=
  schema.models.Pairwise fun model other => ¬ Alike model.words other.words

instance (schema : Schema) : Decidable schema.ModelsApart :=
  inferInstanceAs (Decidable (List.Pairwise _ _))

/-- No two fields of a record type are alike, where fields have identifiers. -/
def Model.FieldsApart (convention : Convention) (model : Model) : Prop :=
  convention.fieldCase ≠ .wire →
    model.fields.Pairwise fun field other => ¬ convention.fieldCase.Alike field.name other.name

instance (convention : Convention) (model : Model) : Decidable (model.FieldsApart convention) :=
  inferInstanceAs (Decidable (_ → _))

theorem Model.fields_mem_owners {schema : Schema} {model : Model} (listed : model ∈ schema.models) :
    model.fields ∈ schema.owners := by
  rcases List.mem_append.mp listed with ofType | ofMethod
  · obtain ⟨entry, declared, rfl⟩ := List.mem_map.mp ofType
    exact List.mem_append_left _ (List.mem_map.mpr ⟨entry, declared, rfl⟩)
  · obtain ⟨method, declared, ofThis⟩ := List.mem_flatMap.mp ofMethod
    refine List.mem_append_right _ (List.mem_flatMap.mpr ⟨method, declared, ?_⟩)
    rw [Method.models, List.mem_append, List.mem_ite_nil_right, List.mem_ite_nil_right,
      List.mem_singleton, List.mem_singleton] at ofThis
    rcases ofThis with ⟨-, rfl⟩ | ⟨-, rfl⟩
    · exact List.mem_cons_self
    · exact List.mem_cons_of_mem _ List.mem_cons_self

section Apart

variable {convention : Convention} (known : convention ∈ Convention.languages) {schema : Schema}
include known

theorem Schema.ModelsApart.nodup_names (apart : schema.ModelsApart) :
    (schema.models.map (Model.name convention)).Nodup :=
  List.pairwise_map.mpr (apart.imp fun distinct same =>
    distinct (Model.alike_of_name_eq known same))

theorem Model.FieldsApart.nodup_members (accepted : schema.Accepted) {model : Model}
    (listed : model ∈ schema.models) (apart : model.FieldsApart convention) :
    (model.outline convention).members.Nodup := by
  by_cases isKey : convention.fieldCase = .wire
  · -- A key is the name in the schema, and an accepted schema has those apart.
    have names : (model.outline convention).members = model.fields.map Field.name :=
      List.map_congr_left fun field _ => by rw [Convention.fieldName, isKey]
    rw [names]
    exact accepted.names_nodup (Model.fields_mem_owners listed)
  · exact List.pairwise_map.mpr ((apart isKey).imp fun distinct same =>
      distinct (Convention.alike_of_fieldName_eq known same))

end Apart

/-- Where the names of fields are distinct, so are their words. -/
theorem Model.nodup_words_of_members {convention : Convention}
    (noKey : convention.fieldCase ≠ .wire) {model : Model}
    (distinct : (model.outline convention).members.Nodup) :
    (model.fields.map fun field => Naming.words field.name).Nodup :=
  nodup_map_of_nodup_map distinct fun _ _ => Convention.fieldName_eq_of_words_eq noKey

/-- Where the names of record types are distinct without acronyms, so are their words. -/
theorem Schema.nodup_words_of_names {schema : Schema}
    (distinct : (schema.models.map (Model.name .rust)).Nodup) :
    (schema.models.map Model.words).Nodup := by
  refine nodup_map_of_nodup_map distinct ?_
  intro model other same
  rw [Model.name_rust, Model.name_rust, same]

/-- In a generated file of an accepted schema, record types have distinct names when no two of them
are alike, and so do the fields of a record type when no two of those are; as properties of an
interface they have them anyway. Names of the same words are never told apart: those of record types
are one in Rust, those of fields wherever they have identifiers. -/
theorem outlines_distinct {schema : Schema} (accepted : schema.Accepted) (file : ModelFile) :
    (file.validates = false → ∃ outlines, file.outlines schema = .ok outlines) ∧
      ∀ outlines, file.outlines schema = .ok outlines →
        (schema.ModelsApart → (outlines.map Outline.name).Nodup) ∧
        (file.convention = .rust → (outlines.map Outline.name).Nodup →
          (schema.models.map Model.words).Nodup) ∧
        List.Forall₂ (fun model outline =>
          (model.FieldsApart file.convention → outline.members.Nodup) ∧
          (file.convention.fieldCase ≠ .wire → outline.members.Nodup →
            (model.fields.map fun field => Naming.words field.name).Nodup))
          schema.models outlines := by
  refine ⟨file.exists_outlines accepted, fun outlines done => ?_⟩
  have known := file.convention_mem_languages
  have names : outlines.map Outline.name = schema.models.map (Model.name file.convention) := by
    rw [ModelFile.outlines_eq done, List.map_map]
    rfl
  rw [names]
  refine ⟨fun apart => apart.nodup_names known, fun isRust distinct => ?_, ?_⟩
  · rw [isRust] at distinct
    exact Schema.nodup_words_of_names distinct
  · rw [ModelFile.outlines_eq done, List.forall₂_map_right_iff, List.forall₂_same]
    exact fun model listed => ⟨fun apart => apart.nodup_members known accepted listed,
      fun noKey distinct => Model.nodup_words_of_members noKey distinct⟩

/-- A type that is named like inputs, but not those of its method, and one with fields of one
letter. -/
def atlas : Schema :=
  { name := "atlas"
    version := "1"
    methods := [
      { name := "get_place"
        inputs := [{ name := "place_id", type := .primitive .string }] }]
    types := [
      ("place", {
        name := "place"
        properties := [
          { name := "x", type := .primitive .float },
          { name := "y", type := .primitive .float }] }),
      ("place_input", {
        name := "place_input"
        properties := [{ name := "place", type := .reference (.toType "place") }] })] }

theorem outlines_atlas :
    atlas.Accepted ∧ atlas.ModelsApart ∧ (∀ model ∈ atlas.models, model.FieldsApart .go) ∧
      ∃ outlines, (ModelFile.go {}).outlines atlas = .ok outlines ∧
        (outlines.map Outline.name).Nodup := by
  have accepted : atlas.Accepted := .of_clean (.inl rfl) (by decide +kernel)
  have apart : atlas.ModelsApart := by decide +kernel
  have found := outlines_distinct accepted (.go {})
  obtain ⟨outlines, done⟩ := found.1 rfl
  exact ⟨accepted, apart, by decide +kernel, outlines, done, (found.2 outlines done).1 apart⟩

/-- A type and the inputs of a method that differ in a separator, as do two of these inputs; a third
has the words of the others when they are run together. -/
def twins : Schema :=
  { name := "k"
    version := ""
    methods := [
      { name := "get"
        inputs := [
          { name := "userId", type := .primitive .string },
          { name := "user_i_d", type := .primitive .string },
          { name := "user_id", type := .primitive .string }] }]
    types := [("get_input", { name := "get_input" })] }

def twinsText : String :=
  "\x7b\"name\":\"k\",\"version\":\"\",\"description\":\"\",\"groups\":[]," ++
    "\"types\":\x7b\"get_input\":\x7b\x7d\x7d,\"methods\":[\x7b\"name\":\"get\",\"inputs\":[" ++
    "\x7b\"name\":\"userId\",\"type\":\"string\"\x7d," ++
    "\x7b\"name\":\"user_i_d\",\"type\":\"string\"\x7d," ++
    "\x7b\"name\":\"user_id\",\"type\":\"string\"\x7d]\x7d]\x7d"

/-- Being accepted is not enough: in every generated file the type and the inputs of the method have
one name, and inputs have one name wherever they have identifiers. -/
theorem outlines_twins :
    load twinsText = .ok twins ∧ twins.Accepted ∧
      ∀ file ∈ [ModelFile.go {}, .typescript, .rust {}, .csharp {}],
        ∃ outlines, file.outlines twins = .ok outlines ∧
          ¬ (outlines.map Outline.name).Nodup ∧
          (file.convention.fieldCase ≠ .wire → ∃ outline ∈ outlines, ¬ outline.members.Nodup) := by
  have canonical : twins.IsCanonical :=
    ⟨by decide, by decide, by decide, by decide, by decide, by decide⟩
  have loads : load twinsText = .ok twins :=
    load_of_canonical canonical (.append (.append (.append (.append .literal .literal) .literal) .literal) .literal)
      (by decide +kernel) (eq_ok_of_toOption (by decide +kernel))
  have accepted : twins.Accepted := .of_clean (.inl rfl) (by decide +kernel)
  have go : (ModelFile.go {}).outlines twins =
      .ok [⟨"GetInput", []⟩, ⟨"GetInput", ["UserID", "UserID", "UserID"]⟩] :=
    eq_ok_of_toOption (by decide +kernel)
  have typescript : ModelFile.typescript.outlines twins =
      .ok [⟨"GetInput", []⟩, ⟨"GetInput", ["userId", "user_i_d", "user_id"]⟩] :=
    eq_ok_of_toOption (by decide +kernel)
  have rust : (ModelFile.rust {}).outlines twins =
      .ok [⟨"GetInput", []⟩, ⟨"GetInput", ["user_id", "user_i_d", "user_id"]⟩] :=
    eq_ok_of_toOption (by decide +kernel)
  have csharp : (ModelFile.csharp {}).outlines twins =
      .ok [⟨"GetInput", []⟩, ⟨"GetInput", ["UserID", "UserID", "UserID"]⟩] :=
    eq_ok_of_toOption (by decide +kernel)
  refine ⟨loads, accepted, ?_⟩
  simp only [List.forall_mem_cons]
  exact ⟨⟨_, go, by decide, by decide⟩, ⟨_, typescript, by decide, by decide⟩,
    ⟨_, rust, by decide, by decide⟩, ⟨_, csharp, by decide, by decide⟩,
    fun _ none => absurd none List.not_mem_nil⟩

end RpcSchema
