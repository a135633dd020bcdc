import RpcSchema.Proofs.Code.StructTags
import RpcSchema.Proofs.Code.Written
import RpcSchema.Proofs.Generation.FieldTypes
import RpcSchema.Proofs.Generation.RustTexts
import RpcSchema.Proofs.Schema.Names
import RpcSchema.Proofs.Wire.Calls

/-!
# Keys of fields on the wire

Whatever identifier a field has in a language, its code says under which key the field is read and
written. This key is the name of the field in the schema. Go finds it behind tag names of any form
only as long as these can be keys themselves.
-/

namespace RpcSchema

open Code Naming

/-! ## Keys in code -/

/-- The key of a field is what its `json` tag says. -/
def GoCode.key? (row : String) : Option String :=
  (rawText? row).bind fun tag => (tagValue? "json" tag).map String.ofList

/-- The key of a property stands in front of a question mark and a colon, with quotes or without. -/
def TsCode.key? (row : String) : Option String :=
  if row.toList.head? = some '"' then
    (quotation? row.toList).map fun quotation => String.ofList quotation.text
  else some (String.ofList (row.toList.takeWhile fun c => c != '?' && c != ':'))

/-- What a `JsonProperty` attribute says. -/
def CsCode.key? (row : String) : Option String :=
  if "[JsonProperty(".toList.isPrefixOf row.toList then
    (quotation? row.toList).map fun quotation => String.ofList quotation.text
  else none

namespace RustCode

/-- What a `rename` attribute says. -/
def renamed? (row : String) : Option String :=
  if "#[serde(rename = ".toList.isPrefixOf row.toList then (texts? row).bind List.head? else none

/-- The identifier that a public field is declared with. -/
def declared? (row : String) : Option String :=
  if "pub ".toList.isPrefixOf row.toList then
    some (String.ofList ((row.toList.drop "pub ".length).takeWhile (· != ':')))
  else none

/-- An identifier without the mark of a raw identifier. -/
def unraw (identifier : String) : String :=
  match identifier.toList with
  | 'r' :: '#' :: rest => String.ofList rest
  | _ => identifier

/-- The key of a field is what its `rename` attribute says, or else its identifier. -/
def key? (rows : List String) : Option String :=
  (rows.findSome? renamed?).or ((rows.findSome? declared?).map unraw)

/-- Whether a row is the attribute that keeps a missing value from being written. -/
def skipsMissing (row : String) : Bool :=
  row == "#[serde(skip_serializing_if = \"Option::is_none\")]"

end RustCode

/-- The key that the rows of a field say. -/
def Language.key? : Language → List String → Option String
  | .go, rows => rows.findSome? GoCode.key?
  | .typescript, rows => rows.findSome? TsCode.key?
  | .rust, rows => RustCode.key? rows
  | .csharp, rows => rows.findSome? CsCode.key?

/-- A tag names a key where no name in front of `json` is anything but a key, and no name ends the
raw string that the tag is. -/
structure Schema.HasJsonTag (schema : Schema) : Prop where
  listed : "json" ∈ schema.goTags
  inFront : ∀ name ∈ schema.goTags.takeWhile (· != "json"), GoCode.isTagKey name
  raw : ∀ name ∈ schema.goTags, '\x60' ∉ name.toList

/-- Timestamps and references are missing as long as they are not set. -/
def FieldType.mayBeMissing : FieldType → Bool
  | .primitive kind => kind == .timestamp
  | .reference _ => true

/-! ## Rows of single fields -/

theorem GoCode.rowsOf_field (field : GoCode.Field) :
    rowsOf field.fragments = [field.name ++ " " ++ field.type ++
      if field.tag.isEmpty then "" else " `" ++ field.tag ++ "`"] := by
  rw [Field.fragments, docFragments]
  cases field.doc <;> rfl

theorem TsCode.rowsOf_field (field : TsCode.InterfaceField) :
    rowsOf field.fragments = [propertyKey field.name ++ (if field.isOptional then "?" else "") ++
      ": " ++ field.type ++ ";"] := by
  rw [InterfaceField.fragments]
  cases field.doc <;> rfl

theorem RustCode.rowsOf_field (field : RustCode.Field) :
    rowsOf field.fragments = (field.attributes.map fun text => "#[" ++ text ++ "]") ++
      [(if field.isPublic then "pub " else "") ++ field.name ++ ": " ++ field.type ++ ","] := by
  have attributes : rowsOf (attributeFragments field.attributes) =
      field.attributes.map fun text => "#[" ++ text ++ "]" := by
    have rows := rowsOf_lines (field.attributes.map fun text => "#[" ++ text ++ "]")
    rwa [List.map_map] at rows
  rw [Field.fragments, docFragments, rowsOf_append, rowsOf_append, attributes]
  cases field.doc <;> rfl

/-! ## Keys of single fields -/

section Fields

variable {schema : Schema} {field : Field} (named : isIdentifier field.name = true)

namespace GoTypes

theorem not_mem_type {value : ValueType} {type : String}
    (mapped : TypeMapping.go.value value = .ok type) : '\x60' ∉ type.toList := by
  have declared (name : String) : '\x60' ∉ (Convention.go.typeName name).toList :=
    Convention.not_mem_typeName (Language.convention_mem_languages .go) (by decide) (by decide) name
  rcases value with (kind | name) | (kind | name)
  · cases kind <;> cases mapped <;> decide
  · cases mapped
    simpa [TypeMapping.go] using declared name
  · cases kind <;> cases mapped <;> decide
  · cases mapped
    simpa [TypeMapping.go] using declared name

theorem not_mem_tag (tagged : schema.HasJsonTag) (named : isIdentifier field.name = true) :
    '\x60' ∉ (tag schema field).toList := by
  rw [tag, String.toList_intercalate]
  refine not_mem_intercalate (by decide : '\x60' ≠ ' ') fun part member => ?_
  obtain ⟨text, listed, rfl⟩ := List.mem_map.mp member
  obtain ⟨name, isTag, rfl⟩ := List.mem_map.mp listed
  simp [tagged.raw name isTag, not_mem_of_isIdentifier named (c := '\x60') (by decide)]

include named in
theorem tagValue?_tag (tagged : schema.HasJsonTag) :
    GoCode.tagValue? "json" ((tag schema field).toList.filter (· != '\r')) =
      some field.name.toList :=
  GoCode.tagValue?_tagText (all_isPlain_of_isIdentifier named)
    (not_mem_of_isIdentifier named (by decide)) (by decide) tagged.listed tagged.inFront

include named in
theorem key?_structField (tagged : schema.HasJsonTag) {made : GoCode.Field}
    (done : structField schema field = .ok made) :
    Language.go.key? (rowsOf made.fragments) = some field.name := by
  rw [structField] at done
  obtain ⟨type, mapped, done⟩ := Json.exists_of_bind_eq_ok done
  obtain ⟨value, -, mapped⟩ := Json.exists_of_bind_eq_ok mapped
  have found := tagValue?_tag named tagged
  have present : (tag schema field).isEmpty = false := by
    refine Bool.eq_false_iff.mpr fun empty => ?_
    rw [String.isEmpty_iff.mp empty] at found
    cases found
  have row : rowsOf made.fragments =
      [Convention.go.fieldName field.name ++ " " ++ type ++ " " ++ "`" ++ tag schema field ++
        "`"] := by
    rw [eq_of_pure_eq_ok done, GoCode.rowsOf_field, present, List.singleton_inj,
      ← String.toList_inj]
    simp
  have inFront : '\x60' ∉ (Convention.go.fieldName field.name ++ " " ++ type ++ " ").toList := by
    have inName : '\x60' ∉ (Convention.go.fieldName field.name).toList :=
      Convention.not_mem_fieldName (Language.convention_mem_languages .go) (by decide) (by decide)
        (by decide) field.name
    simp [inName, not_mem_type mapped]
  rw [row, Language.key?, List.findSome?_singleton, GoCode.key?,
    GoCode.rawText?_eq inFront (not_mem_tag tagged named), Option.bind_some, found, Option.map_some,
    String.ofList_toList]

end GoTypes

include named in
theorem TsCode.key?_field {mark : Char} (ends : mark = '?' ∨ mark = ':') (rest : List Char) :
    key? (field.name ++ String.ofList (mark :: rest)) = some field.name := by
  have unquoted : (field.name ++ String.ofList (mark :: rest)).toList.head? ≠ some '"' := by
    have noQuote : '"' ∉ field.name.toList := not_mem_of_isIdentifier named (by decide)
    rw [String.toList_append, String.toList_ofList]
    cases spelled : field.name.toList with
    | nil => rcases ends with rfl | rfl <;> simp
    | cons c others =>
        rintro ⟨⟩
        exact noQuote (spelled ▸ List.mem_cons_self)
  have inName : ∀ c ∈ field.name.toList, (c != '?' && c != ':') = true :=
    forall_mem_identifier (fun c => (c != '?' && c != ':') = true) (by decide) named
  have behind : ¬ (mark != '?' && mark != ':') = true := by
    rcases ends with rfl | rfl <;> decide
  rw [key?, if_neg unquoted, String.toList_append, String.toList_ofList,
    List.takeWhile_append_of_pos inName, List.takeWhile_cons, if_neg behind, List.append_nil,
    String.ofList_toList]

include named in
theorem TsTypes.key?_interfaceField {made : TsCode.InterfaceField}
    (done : interfaceField schema field = .ok made) :
    Language.typescript.key? (rowsOf made.fragments) = some field.name := by
  rw [interfaceField] at done
  obtain ⟨type, -, done⟩ := Json.exists_of_bind_eq_ok done
  have key : TsCode.propertyKey (Convention.typescript.fieldName field.name) = field.name :=
    if_pos (TsClient.isPlainKey_of_isIdentifier named)
  rw [Language.key?, eq_of_pure_eq_ok done, TsCode.rowsOf_field, key, List.findSome?_singleton]
  cases field.required with
  | true =>
      rw [← TsCode.key?_field named (.inr rfl) (" " ++ type ++ ";").toList]
      refine congrArg TsCode.key? (String.toList_inj.mp ?_)
      simp
  | false =>
      rw [← TsCode.key?_field named (.inl rfl) (": " ++ type ++ ";").toList]
      refine congrArg TsCode.key? (String.toList_inj.mp ?_)
      simp

namespace RustCode

theorem unraw_eq_defaultKey (identifier : String) :
    unraw identifier = RustTypes.defaultKey identifier := by
  rw [unraw, RustTypes.defaultKey]
  split
  · next rest spelled => simp [spelled]
  · next other =>
    rw [if_neg]
    rw [List.isPrefixOf_iff_prefix]
    rintro ⟨rest, spelled⟩
    exact other rest spelled.symm

theorem renamed?_rename (name : String) :
    renamed? ("#[" ++ ("serde(rename = " ++ Text.quoted name ++ ")") ++ "]") = some name := by
  have reads : Reads ("#[" ++ ("serde(rename = " ++ Text.quoted name ++ ")") ++ "]") [name] :=
    ((reads_quoted name).around (by decide) (by decide)).around (by decide) (by decide)
  rw [renamed?, if_pos (by simp), reads.texts?]
  rfl

theorem declared?_field {identifier : String} (noColon : ':' ∉ identifier.toList) (type : String) :
    declared? ("pub " ++ (identifier ++ ": " ++ type ++ ",")) = some identifier := by
  have others : ∀ c ∈ identifier.toList, (c != ':') = true := fun c member => by
    simpa using fun same : c = ':' => noColon (same ▸ member)
  have spelled : ("pub " ++ (identifier ++ ": " ++ type ++ ",")).toList =
      "pub ".toList ++ (identifier.toList ++ ':' :: (" " ++ type ++ ",").toList) := by simp
  rw [declared?, spelled, if_pos (by simp), List.drop_left' String.length_toList,
    List.takeWhile_append_of_pos others, List.takeWhile_cons_of_neg (by decide), List.append_nil,
    String.ofList_toList]

theorem renamed?_field (text : String) : renamed? ("pub " ++ text) = none := by simp [renamed?]

theorem declared?_attribute (text : String) : declared? ("#[" ++ text) = none := by simp [declared?]

theorem skipsMissing_rename (name : String) :
    skipsMissing ("#[" ++ ("serde(rename = " ++ Text.quoted name ++ ")") ++ "]") = false := by
  rw [skipsMissing, beq_eq_false_iff_ne, ne_eq, ← String.toList_inj]
  simp

theorem skipsMissing_field (text : String) : skipsMissing ("pub " ++ text) = false := by
  rw [skipsMissing, beq_eq_false_iff_ne, ne_eq, ← String.toList_inj]
  simp

end RustCode

namespace RustTypes

/-- The row of the attribute for a field's key, where the identifier does not say it. -/
def renameRows (field : Field) : List String :=
  if defaultKey (Convention.rust.fieldName field.name) == field.name then []
  else ["#[" ++ ("serde(rename = " ++ Text.quoted field.name ++ ")") ++ "]"]

/-- The row of the attribute for a value that may be missing. -/
def skipRows (value : ValueType) : List String :=
  if isNullable value then ["#[serde(skip_serializing_if = \"Option::is_none\")]"] else []

theorem map_fieldAttributes (field : Field) (value : ValueType) :
    ((fieldAttributes field value).map fun text => "#[" ++ text ++ "]") =
      renameRows field ++ skipRows value := by
  rw [fieldAttributes, renameRows, skipRows, List.map_append]
  split <;> split <;> rfl

theorem rowsOf_structField {made : RustCode.Field} (done : structField schema field = .ok made) :
    ∃ value type, schema.valueType field = .ok value ∧
      rowsOf made.fragments = renameRows field ++ skipRows value ++
        ["pub " ++ (Convention.rust.fieldName field.name ++ ": " ++ type ++ ",")] := by
  rw [structField] at done
  obtain ⟨value, typed, done⟩ := Json.exists_of_bind_eq_ok done
  obtain ⟨type, -, done⟩ := Json.exists_of_bind_eq_ok done
  refine ⟨value, type, typed, ?_⟩
  rw [eq_of_pure_eq_ok done, RustCode.rowsOf_field, map_fieldAttributes, if_pos rfl]
  simp only [String.append_assoc]

theorem isNullable_valueType {value : ValueType} (typed : schema.valueType field = .ok value) :
    isNullable value = field.type.mayBeMissing := by
  rw [Schema.valueType] at typed
  split at typed
  · next isArray =>
    rw [isArray]
    cases items : field.items with
    | none =>
        rw [items] at typed
        cases typed
    | some element =>
        rw [items] at typed
        obtain ⟨type, -, rfl⟩ := Json.exists_of_map_eq_ok typed
        rfl
  · obtain ⟨type, elementTyped, rfl⟩ := Json.exists_of_map_eq_ok typed
    cases isType : field.type with
    | primitive kind =>
        rw [isType] at elementTyped
        cases elementTyped
        rfl
    | reference target =>
        rw [isType] at elementTyped
        obtain ⟨decl, -, rfl⟩ := Json.exists_of_map_eq_ok elementTyped
        rfl

/-- What a field is renamed to: nothing where its identifier says its key. -/
theorem findSome?_renamed_structField {made : RustCode.Field}
    (done : structField schema field = .ok made) :
    (rowsOf made.fragments).findSome? RustCode.renamed? =
      if defaultKey (Convention.rust.fieldName field.name) == field.name then none
      else some field.name := by
  obtain ⟨value, type, -, rows⟩ := rowsOf_structField done
  have skips : (skipRows value).findSome? RustCode.renamed? = none := by
    rw [skipRows]
    split <;> simp [RustCode.renamed?]
  rw [rows, List.findSome?_append, List.findSome?_append, skips, List.findSome?_singleton,
    RustCode.renamed?_field, Option.or_none, Option.or_none, renameRows]
  split
  · rfl
  · rw [List.findSome?_singleton, RustCode.renamed?_rename]

theorem findSome?_declared_structField {made : RustCode.Field}
    (done : structField schema field = .ok made) :
    (rowsOf made.fragments).findSome? RustCode.declared? =
      some (Convention.rust.fieldName field.name) := by
  obtain ⟨value, type, -, rows⟩ := rowsOf_structField done
  have attributes : (renameRows field ++ skipRows value).findSome? RustCode.declared? = none := by
    rw [← map_fieldAttributes]
    refine List.findSome?_eq_none_iff.mpr (List.forall_mem_map.mpr fun text _ => ?_)
    rw [String.append_assoc, RustCode.declared?_attribute]
  have noColon : ':' ∉ (Convention.rust.fieldName field.name).toList :=
    Convention.not_mem_fieldName Convention.rust_mem_languages
      (by decide : Text.isSeparator ':') (by decide) (by decide) field.name
  rw [rows, List.findSome?_append, attributes, Option.none_or, List.findSome?_singleton,
    RustCode.declared?_field noColon]

theorem key?_structField {made : RustCode.Field} (done : structField schema field = .ok made) :
    Language.rust.key? (rowsOf made.fragments) = some field.name := by
  rw [Language.key?, RustCode.key?, findSome?_renamed_structField done,
    findSome?_declared_structField done, Option.map_some, RustCode.unraw_eq_defaultKey]
  split
  · next same => rw [Option.none_or, beq_iff_eq.mp same]
  · rw [Option.some_or]

theorem any_skipsMissing_structField {made : RustCode.Field}
    (done : structField schema field = .ok made) :
    (rowsOf made.fragments).any RustCode.skipsMissing = field.type.mayBeMissing := by
  obtain ⟨value, type, typed, rows⟩ := rowsOf_structField done
  have renames : (renameRows field).any RustCode.skipsMissing = false := by
    rw [renameRows]
    split
    · rfl
    · rw [List.any_cons, RustCode.skipsMissing_rename]
      rfl
  have skips : (skipRows value).any RustCode.skipsMissing = isNullable value := by
    rw [skipRows]
    cases isNullable value <;> decide
  rw [rows, List.any_append, List.any_append, renames, skips, List.any_cons,
    RustCode.skipsMissing_field, List.any_nil, Bool.false_or, Bool.or_false, Bool.or_false,
    isNullable_valueType typed]

end RustTypes

namespace CsCode

/-- A documentation comment has no attribute in it: each of its rows starts with slashes. -/
theorem key?_summary (text : String) : (rowsOf (summary text)).findSome? key? = none := by
  have slashed (content : String) {row : String}
      (within : row.toList <+: ("/// " ++ content).toList) : key? row = none := by
    rw [key?, if_neg]
    rw [List.isPrefixOf_iff_prefix]
    intro opens
    have whole := opens.trans within
    simp at whole
  have rows : rowsOf (summary text) =
      ("/// <summary>" :: (Text.lines text).map fun line =>
        Text.trimEnd ("/// " ++ xmlEscape line)) ++ ["/// </summary>"] := by
    have lines := rowsOf_lines ("/// <summary>" :: (Text.lines text).map fun line =>
      Text.trimEnd ("/// " ++ xmlEscape line))
    rw [List.map_cons, List.map_map] at lines
    rw [summary, rowsOf_append]
    exact congrArg (· ++ ["/// </summary>"]) lines
  rw [rows, List.findSome?_append, List.findSome?_cons, List.findSome?_singleton]
  have opening : key? "/// <summary>" = none := slashed "<summary>" (by simp)
  have closing : key? "/// </summary>" = none := slashed "</summary>" (by simp)
  have lines : ((Text.lines text).map fun line =>
      Text.trimEnd ("/// " ++ xmlEscape line)).findSome? key? = none := by
    refine List.findSome?_eq_none_iff.mpr (List.forall_mem_map.mpr fun line _ =>
      slashed (xmlEscape line) ?_)
    rw [Text.trimEnd, String.toList_ofList]
    exact prefix_dropTrailingBlanks _
  rw [opening, closing, lines]
  rfl

end CsCode

include named in
theorem CsClient.key?_property {made : CsCode.Property} (done : property schema field = .ok made) :
    Language.csharp.key? (rowsOf made.fragments) = some field.name := by
  rw [property] at done
  obtain ⟨type, -, done⟩ := Json.exists_of_bind_eq_ok done
  have docs : (rowsOf (CsCode.docFragments made.doc)).findSome? CsCode.key? = none := by
    cases doc : made.doc with
    | none => rfl
    | some text => exact CsCode.key?_summary text
  have said : CsCode.key? ("[JsonProperty(\"" ++ field.name ++ "\")]") = some field.name := by
    have spelled : ("[JsonProperty(\"" ++ field.name ++ "\")]").toList =
        "[JsonProperty(\"".toList ++ field.name.toList ++ "\")]".toList := by simp
    rw [CsCode.key?, spelled, if_pos (by simp), quotation?_eq (by decide)
      (all_isPlain_of_isIdentifier named) (by decide), Option.map_some, String.ofList_toList]
  rw [Language.key?, CsCode.Property.fragments, rowsOf_append, List.findSome?_append, docs,
    Option.none_or, eq_of_pure_eq_ok done]
  change [_, _].findSome? CsCode.key? = _
  rw [List.findSome?_cons, said]

end Fields

/-! ## Keys in generated files -/

/-- The code of a field. -/
def Language.fieldCode (schema : Schema) (field : Field) :
    Language → Except GenerateError (List Fragment)
  | .go => (GoTypes.structField schema field).map GoCode.Field.fragments
  | .typescript => (TsTypes.interfaceField schema field).map TsCode.InterfaceField.fragments
  | .rust => (RustTypes.structField schema field).map RustCode.Field.fragments
  | .csharp => (CsClient.property schema field).map CsCode.Property.fragments

namespace ModelFile

/-- The rows of each field in a generated file, for each record type. -/
def fieldRows (file : ModelFile) (schema : Schema) :
    Except GenerateError (List (List (List String))) :=
  match file with
  | .go config =>
    (config.file schema).map fun file => (file.decls.filterMap GoCode.Decl.struct?).map fun decl =>
      decl.fields.map fun field => rowsOf field.fragments
  | .typescript =>
    (TsTypes.file schema).map fun file =>
      (file.decls.filterMap TsCode.Decl.interface?).map fun decl =>
        decl.fields.map fun field => rowsOf field.fragments
  | .rust config =>
    (config.file schema).map fun file =>
      (file.decls.filterMap RustCode.Decl.struct?).map fun decl =>
        decl.fields.map fun field => rowsOf field.fragments
  | .csharp config =>
    (config.classes schema).map fun classes => classes.dropLast.dropLast.map fun decl =>
      decl.properties.map fun property => rowsOf property.fragments

variable {file : ModelFile} {schema : Schema}

theorem errorOf_fieldRows : errorOf (file.fieldRows schema) = errorOf (file.outlines schema) := by
  cases file <;> rw [fieldRows, outlines, errorOf_map, errorOf_map]

/-- What is read from the rows of each field, when it is known of the code of one field. -/
theorem map_fieldRows {rows : List (List (List String))} (done : file.fieldRows schema = .ok rows)
    {γ : Type} {look : List String → γ} {known : Field → γ}
    (each : ∀ model ∈ schema.models, ∀ field ∈ model.fields, ∀ code,
      file.language.fieldCode schema field = .ok code → look (rowsOf code) = known field) :
    rows.map (List.map look) = schema.models.map fun model => model.fields.map known := by
  cases file with
  | go config =>
      obtain ⟨code, made, rfl⟩ := Json.exists_of_map_eq_ok done
      obtain ⟨declared, listed, made⟩ := Json.exists_of_bind_eq_ok made
      have looked := map_map_of_mapM_of_mem (GoTypes.fields_fileOf listed)
        fun model isModel field isField made done =>
          each model isModel field isField made.fragments (congrArg (Except.map _) done)
      rw [eq_of_pure_eq_ok made, ← looked]
      simp only [List.map_map, Function.comp_def]
  | typescript =>
      obtain ⟨code, made, rfl⟩ := Json.exists_of_map_eq_ok done
      obtain ⟨interfaces, listed, made⟩ := Json.exists_of_bind_eq_ok made
      have looked := map_map_of_mapM_of_mem (TsTypes.fields_interfaces listed)
        fun model isModel field isField made done =>
          each model isModel field isField made.fragments (congrArg (Except.map _) done)
      rw [eq_of_pure_eq_ok made, ← looked]
      simp only [List.map_map, Function.comp_def]
  | rust config =>
      obtain ⟨code, made, rfl⟩ := Json.exists_of_map_eq_ok done
      obtain ⟨declared, listed, made⟩ := Json.exists_of_bind_eq_ok made
      have looked := map_map_of_mapM_of_mem (RustTypes.fields_fileOf listed)
        fun model isModel field isField made done =>
          each model isModel field isField made.fragments (congrArg (Except.map _) done)
      rw [eq_of_pure_eq_ok made, ← looked]
      simp only [List.map_map, Function.comp_def]
  | csharp config =>
      obtain ⟨classes, made, rfl⟩ := Json.exists_of_map_eq_ok done
      have looked := map_map_of_mapM_of_mem (CsClient.properties_classes made)
        fun model isModel field isField made done =>
          each model isModel field isField made.fragments (congrArg (Except.map _) done)
      rw [← looked]
      simp only [List.map_map, Function.comp_def]

end ModelFile

theorem Language.key?_fieldCode {schema : Schema} {field : Field}
    (named : isIdentifier field.name = true) {language : Language}
    (tagged : language = .go → schema.HasJsonTag) {code : List Fragment}
    (done : language.fieldCode schema field = .ok code) :
    language.key? (rowsOf code) = some field.name := by
  cases language with
  | go =>
      obtain ⟨result, made, rfl⟩ := Json.exists_of_map_eq_ok done
      exact GoTypes.key?_structField named (tagged rfl) made
  | typescript =>
      obtain ⟨result, made, rfl⟩ := Json.exists_of_map_eq_ok done
      exact TsTypes.key?_interfaceField named made
  | rust =>
      obtain ⟨result, made, rfl⟩ := Json.exists_of_map_eq_ok done
      exact RustTypes.key?_structField made
  | csharp =>
      obtain ⟨result, made, rfl⟩ := Json.exists_of_map_eq_ok done
      exact CsClient.key?_property named made

/-- In every file generated for a schema that loads and is accepted, the code of a field says the
field's name for its key, in Go where the tags have a place for it. In Rust exactly timestamps and
references are not written as long as they are missing. The file is there unless it validates and a
default is of another kind than its field. -/
theorem keys_in_files {text : String} {schema : Schema} (loaded : load text = .ok schema)
    (accepted : schema.Accepted) (file : ModelFile) :
    ((file.validates → ∀ field ∈ schema.readFields, field.isMisdefaulted = false) →
      ∃ rows, file.fieldRows schema = .ok rows) ∧
    ∀ rows, file.fieldRows schema = .ok rows →
      ((file.language = .go → schema.HasJsonTag) →
        rows.map (List.map file.language.key?) =
          schema.models.map fun model => model.fields.map fun field => some field.name) ∧
      (file.language = .rust →
        rows.map (List.map (List.any · RustCode.skipsMissing)) =
          schema.models.map fun model =>
            model.fields.map fun field => field.type.mayBeMissing) := by
  refine ⟨fun wellDefaulted => ?_, fun rows done => ⟨fun tagged => ?_, fun isRust => ?_⟩⟩
  · rw [← errorOf_eq_none_iff, ModelFile.errorOf_fieldRows, file.errorOf_outlines accepted]
    split
    · next validates =>
      refine List.findSome?_eq_none_iff.mpr fun field isRead => ?_
      rw [Field.defaultError?, wellDefaulted validates field isRead]
      rfl
    · rfl
  · have named := isNamed_of_load loaded
    refine ModelFile.map_fieldRows done fun model isModel field isField code made => ?_
    exact Language.key?_fieldCode (named.field (Schema.mem_allFields_of_mem_models isModel isField))
      tagged made
  · refine ModelFile.map_fieldRows done fun model isModel field isField code made => ?_
    rw [isRust] at made
    obtain ⟨result, structField, rfl⟩ := Json.exists_of_map_eq_ok made
    exact RustTypes.any_skipsMissing_structField structField

/-- A type with names that are no identifiers of Rust, or that Rust has other cases for. -/
def inbox (tags : List String) : Schema :=
  { name := "inbox"
    version := "1"
    goTags := tags
    types := [
      ("message", {
        name := "message"
        properties := [
          { name := "sentAt", type := .primitive .timestamp },
          { name := "thread", type := .reference (.toType "message") },
          { name := "title", type := .primitive .string },
          { name := "type", type := .primitive .string }] })] }

def inboxText (tags : String) : String :=
  "\x7b\"name\":\"inbox\",\"version\":\"1\",\"description\":\"\",\"groups\":[]," ++
    "\"methods\":[],\"go\":\x7b\"tags\":" ++ tags ++ "\x7d,\"types\":\x7b\"message\":" ++
    "\x7b\"properties\":[\x7b\"name\":\"sentAt\",\"type\":\"timestamp\"\x7d," ++
    "\x7b\"name\":\"thread\",\"type\":\x7b\"$ref\":\"#/types/message\"\x7d\x7d," ++
    "\x7b\"name\":\"title\",\"type\":\"string\"\x7d," ++
    "\x7b\"name\":\"type\",\"type\":\"string\"\x7d]\x7d\x7d\x7d"

theorem keys_in_files_inbox :
    load (inboxText "[\"db\",\"json\"]") = .ok (inbox ["db", "json"]) ∧
      (inbox ["db", "json"]).Accepted ∧ (inbox ["db", "json"]).HasJsonTag ∧
      ∀ file : ModelFile,
        ∃ rows, file.fieldRows (inbox ["db", "json"]) = .ok rows ∧
          rows.map (List.map file.language.key?) =
            [[some "sentAt", some "thread", some "title", some "type"]] ∧
          (file.language = .rust →
            rows.map (List.map (List.any · RustCode.skipsMissing)) =
              [[true, true, false, false]]) := by
  have canonical : (inbox ["db", "json"]).IsCanonical :=
    ⟨by decide, by decide, by decide, by decide, by decide, by decide⟩
  have loads : load (inboxText "[\"db\",\"json\"]") = .ok (inbox ["db", "json"]) :=
    load_of_canonical canonical
      (.append (.append (.append (.append (.append (.append (.append .literal .literal) .literal)
        .literal) .literal) .literal) .literal) .literal)
      (by decide +kernel) (eq_ok_of_toOption (by decide +kernel))
  have accepted : (inbox ["db", "json"]).Accepted := .of_clean (.inl rfl) (by decide +kernel)
  have tagged : (inbox ["db", "json"]).HasJsonTag := ⟨by decide, by decide, by decide⟩
  refine ⟨loads, accepted, tagged, fun file => ?_⟩
  have wellDefaulted : ∀ field ∈ (inbox ["db", "json"]).readFields,
      field.isMisdefaulted = false := by decide
  obtain ⟨exist, keys⟩ := keys_in_files loads accepted file
  obtain ⟨rows, done⟩ := exist fun _ => wellDefaulted
  exact ⟨rows, done, (keys rows done).1 fun _ => tagged, (keys rows done).2⟩

/-- A tag name with a space in it hides those behind it: Go finds no key. -/
theorem keys_unread_inbox :
    load (inboxText "[\"a b\",\"json\"]") = .ok (inbox ["a b", "json"]) ∧
      (inbox ["a b", "json"]).Accepted ∧ "json" ∈ (inbox ["a b", "json"]).goTags ∧
      ∃ rows, (ModelFile.go {}).fieldRows (inbox ["a b", "json"]) = .ok rows ∧
        rows.map (List.map Language.go.key?) = [[none, none, none, none]] := by
  have canonical : (inbox ["a b", "json"]).IsCanonical :=
    ⟨by decide, by decide, by decide, by decide, by decide, by decide⟩
  have loads : load (inboxText "[\"a b\",\"json\"]") = .ok (inbox ["a b", "json"]) :=
    load_of_canonical canonical
      (.append (.append (.append (.append (.append (.append (.append .literal .literal) .literal)
        .literal) .literal) .literal) .literal) .literal)
      (by decide +kernel) (eq_ok_of_toOption (by decide +kernel))
  have accepted : (inbox ["a b", "json"]).Accepted := .of_clean (.inl rfl) (by decide +kernel)
  have rows : (ModelFile.go {}).fieldRows (inbox ["a b", "json"]) = .ok
      [[["SentAt time.Time `a b:\"sentAt\" json:\"sentAt\"`"],
        ["Thread *Message `a b:\"thread\" json:\"thread\"`"],
        ["Title string `a b:\"title\" json:\"title\"`"],
        ["Type string `a b:\"type\" json:\"type\"`"]]] :=
    eq_ok_of_toOption (by decide +kernel)
  exact ⟨loads, accepted, by decide, _, rows, by decide +kernel⟩

end RpcSchema
