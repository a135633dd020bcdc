import RpcSchema.Proofs.Code.Rows
import RpcSchema.Proofs.Dates.Closure
import RpcSchema.Proofs.Generation.FieldTypes

/-!
# References between generated files

Each emitter decides by itself which record types there are and what they are called. Whatever type
of a schema a generated file mentions is declared by the file of record types in its language: in
the types of fields, in the imports of Rust and TypeScript, and in the functions of Go.
-/

namespace RpcSchema

open Code Naming

/-! ## Declared names -/

namespace Schema

variable {schema : Schema}

/-- The names of the record types in a language. -/
def modelNames (schema : Schema) (convention : Convention) : List String :=
  schema.models.map (Model.name convention)

variable (convention : Convention)

theorem typeName_mem_modelNames {entry : String × TypeDecl} (declared : entry ∈ schema.types) :
    convention.typeName entry.2.name ∈ schema.modelNames convention :=
  List.mem_map.mpr ⟨.type entry.2, List.mem_append_left _ (List.mem_map_of_mem declared), rfl⟩

theorem inputType_mem_modelNames {method : Method} (declared : method ∈ schema.methods)
    (reads : method.hasInputs) :
    convention.inputType method.name ∈ schema.modelNames convention := by
  refine List.mem_map.mpr ⟨.input method, List.mem_append_right _ ?_, rfl⟩
  refine List.mem_flatMap.mpr ⟨method, declared, List.mem_append_left _ ?_⟩
  rw [if_pos reads]
  exact List.mem_singleton_self _

theorem outputType_mem_modelNames {method : Method} (declared : method ∈ schema.methods)
    (answers : method.hasOutputs) :
    convention.outputType method.name ∈ schema.modelNames convention := by
  refine List.mem_map.mpr ⟨.output method, List.mem_append_right _ ?_, rfl⟩
  refine List.mem_flatMap.mpr ⟨method, declared, List.mem_append_right _ ?_⟩
  rw [if_pos answers]
  exact List.mem_singleton_self _

/-- What a reference was resolved to is a declared type. -/
theorem exists_of_elementType {type : FieldType} {name : String}
    (resolved : schema.elementType type = .ok (.declared name)) :
    ∃ entry ∈ schema.types, entry.2.name = name := by
  cases type with
  | primitive kind => cases resolved
  | reference target =>
      obtain ⟨decl, found, named⟩ := Json.exists_of_map_eq_ok resolved
      cases named
      exact ⟨(target.name, decl), Json.mem_of_lookup_eq_some (resolve_eq_ok_iff.mp found), rfl⟩

theorem exists_of_valueType {field : Field} {value : ValueType} {name : String}
    (typed : schema.valueType field = .ok value) (declared : value.declared? = some name) :
    ∃ entry ∈ schema.types, entry.2.name = name := by
  rw [valueType] at typed
  split at typed
  · split at typed
    · obtain ⟨element, resolved, rfl⟩ := Json.exists_of_map_eq_ok typed
      cases element with
      | primitive kind => cases declared
      | declared other =>
          cases declared
          exact exists_of_elementType resolved
    · cases typed
  · obtain ⟨type, resolved, rfl⟩ := Json.exists_of_map_eq_ok typed
    cases type with
    | primitive kind => cases declared
    | declared other =>
        cases declared
        exact exists_of_elementType resolved

theorem modelNames_methodTypes {name : String} (listed : name ∈ RustServer.methodTypes schema) :
    name ∈ schema.modelNames .rust := by
  obtain ⟨method, declared, ofMethod⟩ := List.mem_flatMap.mp listed
  simp only [List.mem_append, List.mem_ite_nil_right, List.mem_singleton] at ofMethod
  rcases ofMethod with ⟨reads, rfl⟩ | ⟨answers, rfl⟩
  · exact inputType_mem_modelNames .rust declared reads
  · exact outputType_mem_modelNames .rust declared answers

/-- The search for types that hold timestamps finds declared types only. -/
theorem exists_of_mem_datedTypes {name : String} (dated : name ∈ TsRevivers.datedTypes schema) :
    ∃ entry ∈ schema.types, entry.2.name = name := by
  suffices declared : ∀ {found result}, TsRevivers.Settles (schema.types.map (·.2)) found result →
      ∀ name ∈ result, name ∈ found ∨ ∃ entry ∈ schema.types, entry.2.name = name from
    (declared (TsRevivers.settles_datedTypes schema) name dated).resolve_left List.not_mem_nil
  intro found result settles
  induction settles with
  | done _ => exact fun name => .inl
  | round _ _ ih =>
      intro name member
      refine (ih name member).elim (fun inRound => ?_) .inr
      rcases List.mem_append.mp inRound with before | new
      · exact .inl before
      · obtain ⟨-, type, isType, rfl, -⟩ := TsRevivers.mem_newlyDated.mp new
        obtain ⟨entry, listed, rfl⟩ := List.mem_map.mp isType
        exact .inr ⟨entry, listed, rfl⟩

theorem modelNames_usedTypes {name : String} (used : name ∈ TsClient.usedTypes schema) :
    name ∈ schema.modelNames .typescript := by
  rcases TsClient.mem_usedTypes_iff.mp used with ⟨method, declared, reads, rfl⟩ |
    ⟨method, declared, answers, rfl⟩ | ⟨type, dated, rfl⟩
  · exact inputType_mem_modelNames .typescript declared reads
  · exact outputType_mem_modelNames .typescript declared answers
  · obtain ⟨entry, declared, rfl⟩ := exists_of_mem_datedTypes dated
    exact typeName_mem_modelNames .typescript declared

end Schema

/-! ## Imports of Rust -/

namespace RustCode.Uses

/-- The symbols that are used of a module. -/
def symbolsOf (uses : Uses) (module : String) : List String :=
  (uses.modules.filter fun entry => entry.1 == module).flatMap (·.2)

/-- Using symbols of one module adds these and no others. -/
theorem mem_of_mem_symbolsOf_addAll {uses : Uses} {module other symbol : String}
    {symbols : List String} (used : symbol ∈ (uses.addAll module symbols).symbolsOf other) :
    (module = other ∧ symbol ∈ symbols) ∨ symbol ∈ uses.symbolsOf other := by
  have before {known : List String} (listed : (other, known) ∈ uses.modules)
      (inKnown : symbol ∈ known) : symbol ∈ uses.symbolsOf other :=
    List.mem_flatMap.mpr ⟨_, List.mem_filter.mpr ⟨listed, beq_self_eq_true other⟩, inKnown⟩
  obtain ⟨⟨module', listed⟩, isEntry, inEntry⟩ := List.mem_flatMap.mp used
  obtain ⟨entered, same⟩ := List.mem_filter.mp isEntry
  obtain rfl : module' = other := eq_of_beq same
  rcases Json.mem_of_mem_putMember entered with new | old
  · obtain ⟨rfl, rfl⟩ := Prod.mk.inj new
    refine (mem_insertNames.mp inEntry).imp (fun added => ⟨rfl, added⟩) fun known => ?_
    cases found : uses.modules.lookup module' with
    | none =>
        rw [found] at known
        cases known
    | some known' =>
        rw [found] at known
        exact before (Json.mem_of_lookup_eq_some found) known
  · exact .inr (before old inEntry)

/-- Of each module only symbols are used that are known of it. -/
def Within (known : String → String → Prop) (uses : Uses) : Prop :=
  ∀ module, ∀ symbol ∈ uses.symbolsOf module, known module symbol

namespace Within

variable {known : String → String → Prop} {uses : Uses} {module : String}

theorem empty : Within known {} := fun _ _ used => absurd used List.not_mem_nil

theorem addAll {symbols : List String} (within : uses.Within known)
    (new : ∀ symbol ∈ symbols, known module symbol) :
    (uses.addAll module symbols).Within known := by
  intro other symbol used
  rcases mem_of_mem_symbolsOf_addAll used with ⟨rfl, added⟩ | before
  · exact new symbol added
  · exact within other symbol before

theorem addIf {condition : Bool} {symbol : String} (within : uses.Within known)
    (new : ∀ name ∈ [symbol], known module name) :
    (uses.addIf condition module symbol).Within known := by
  rw [Uses.addIf]
  split
  · exact within.addAll new
  · exact within

end Within

end RustCode.Uses

namespace RustServer

/-- The modules and symbols that servers and their stubs use, other than the types. -/
def fixedSymbols : List (String × String) :=
  [("std::future", "Future"), ("http", "Request"), ("http", "Response"), ("bytes", "Bytes"),
    ("tracing", "Instrument"), ("super::server", "Service")] ++
    ["Error", "Route", "route", "write_error", "write_health", "RequestContext", "read_request",
      "read_validated_request", "respond", "respond_empty"].map (runtimeModule, ·)

/-- What servers and their stubs use: fixed symbols and the types of methods. -/
def MayUse (schema : Schema) (module symbol : String) : Prop :=
  (module, symbol) ∈ fixedSymbols ∨ symbol ∈ methodTypes schema

theorem mayUse_fixed {schema : Schema} {module : String} {symbols : List String}
    (fixed : symbols.all fun symbol => fixedSymbols.contains (module, symbol)) :
    ∀ symbol ∈ symbols, MayUse schema module symbol := fun symbol listed =>
  .inl (List.contains_iff_mem.mp (List.all_eq_true.mp fixed symbol listed))

theorem mayUse_methodTypes {schema : Schema} {module : String} :
    ∀ symbol ∈ methodTypes schema, MayUse schema module symbol := fun _ => .inr

theorem fixedSymbols_answer (config : RustServer) (methods : List Method) :
    ((if methods.any Method.hasInputs then [config.reader.function] else []) ++
      methods.map fun method => (responder method).function).all
        fun symbol => fixedSymbols.contains (runtimeModule, symbol) := by
  rw [List.all_append, Bool.and_eq_true]
  constructor
  · rw [List.all_eq_true]
    intro symbol listed
    rw [List.mem_ite_nil_right, List.mem_singleton] at listed
    obtain ⟨-, rfl⟩ := listed
    cases config.reader <;> decide
  · rw [List.all_eq_true]
    intro symbol listed
    obtain ⟨method, -, rfl⟩ := List.mem_map.mp listed
    cases responder method <;> decide

theorem within_uses (config : RustServer) (schema : Schema) :
    (config.uses schema).Within (MayUse schema) := by
  refine .addAll ?_ mayUse_methodTypes
  refine .addAll ?_ (mayUse_fixed (fixedSymbols_answer config schema.methods))
  refine .addIf ?_ (mayUse_fixed (by decide))
  refine .addIf ?_ (mayUse_fixed (by decide))
  refine .addAll ?_ (mayUse_fixed (by decide))
  refine .addAll ?_ (mayUse_fixed (by decide))
  refine .addAll ?_ (mayUse_fixed (by decide))
  exact .addAll .empty (mayUse_fixed (by decide))

theorem within_stubUses (config : RustServer) (schema : Schema) :
    (config.stubUses schema).Within (MayUse schema) := by
  refine .addAll (.addAll ?_ (mayUse_fixed (by decide))) mayUse_methodTypes
  split
  · exact .empty
  · exact .addAll .empty (mayUse_fixed (by decide))

end RustServer

namespace RustClient

/-- The modules and symbols that clients use, other than the types. -/
def fixedSymbols : List (String × String) :=
  [("std", "fmt"), ("serde", "Deserialize"), ("serde", "Serialize")]

theorem within_uses (config : RustClient) (schema : Schema) :
    (config.file schema).uses.Within fun module symbol =>
      (module, symbol) ∈ fixedSymbols ∨ symbol ∈ RustServer.methodTypes schema := by
  refine .addAll (.addAll (.addAll .empty ?standard) ?serde) fun _ => .inr
  case standard => simp [fixedSymbols]
  case serde => simp [fixedSymbols]

end RustClient

/-! ## What Go mentions -/

namespace GoCode

/-- Whether a row declares a variable of a type; it has no call in it. -/
def isVariable (row : String) : Bool :=
  "var ".toList.isPrefixOf row.toList && !row.toList.contains '('

/-- The receiver, parameters, results and variables of a function. -/
def Func.typeTexts (func : Func) : List String :=
  func.receiver.toList ++ func.params ++ func.returns.toList ++
    (rowsIn func.body).filter isVariable

/-- The texts with types in a declaration. -/
def Decl.typeTexts : Decl → List String
  | .struct decl => decl.fields.map Field.type
  | .func decl => decl.typeTexts
  | .raw _ => []

/-- The words of the types that a file mentions. -/
def File.typeWords (file : File) : List String :=
  (file.decls.flatMap Decl.typeTexts).flatMap Code.typeWords

end GoCode

namespace GoServer

variable (config : GoServer)

/-- The words of types in servers, those of the package of the types among them. -/
def ownWords : List String :=
  ["w", "r", "s", "in", "ctx", "res", "err", "var", "any", "error", "Server", "http", "context",
    "ResponseWriter", "Request", "Context"] ++
    (config.types.map GoCode.packageQualifier).elim [] typeWords

theorem mem_ownWords {text : String}
    (own : (typeWords text).all fun word => (ownWords { }).contains word) :
    ∀ word ∈ typeWords text, word ∈ config.ownWords := by
  intro word member
  have fixed := List.contains_iff_mem.mp (List.all_eq_true.mp own word member)
  rw [ownWords] at fixed ⊢
  exact List.mem_append_left _ (by simpa using fixed)

theorem mem_typeWords_inputType {method : Method} {word : String}
    (member : word ∈ typeWords (config.inputType method)) :
    word ∈ config.ownWords ∨ word = Convention.go.inputType method.name := by
  have named {word : String} (inName : word ∈ typeWords (Convention.go.inputType method.name)) :
      word = Convention.go.inputType method.name :=
    eq_of_mem_typeWords (unmarked_inputType Language.go.convention_mem_languages _) inName
  rw [inputType] at member
  cases located : config.types with
  | none =>
      rw [located] at member
      exact .inr (named member)
  | some path =>
      rw [located] at member
      have front : ((GoCode.packageQualifier path ++ ".").toList.getLast?).all isTypeMark := by
        simp [isTypeMark, typeMarks]
      rw [typeWords_append_of_front front, typeWords_append_of_rest (by decide),
        List.mem_append, List.mem_append] at member
      rcases member with (qualifier | dot) | inName
      · left
        rw [ownWords, located, Option.map_some, Option.elim_some]
        exact List.mem_append_right _ qualifier
      · cases dot
      · exact .inr (named inName)

/-- A text that ends with the type of a method's inputs. -/
theorem mem_typeWords_append_inputType {method : Method} {lead word : String}
    (closed : lead.toList.getLast?.all isTypeMark)
    (own : (typeWords lead).all fun word => (ownWords { }).contains word)
    (member : word ∈ typeWords (lead ++ config.inputType method)) :
    word ∈ config.ownWords ∨ word = Convention.go.inputType method.name := by
  rw [typeWords_append_of_front closed, List.mem_append] at member
  exact member.elim (fun inLead => .inl (config.mem_ownWords own word inLead))
    config.mem_typeWords_inputType

/-- The words of a text are own words of servers or types of methods' inputs. -/
def Mentions (schema : Schema) (text : String) : Prop :=
  ∀ word ∈ typeWords text, word ∈ config.ownWords ∨ word ∈ schema.modelNames .go

variable {config} in
theorem mentions_of_own {schema : Schema} {text : String}
    (own : (typeWords text).all fun word => (ownWords { }).contains word) :
    config.Mentions schema text := fun word member => .inl (config.mem_ownWords own word member)

theorem mentions_inputType {schema : Schema} {method : Method} {lead : String}
    (declared : method ∈ schema.methods) (reads : method.hasInputs)
    (closed : lead.toList.getLast?.all isTypeMark)
    (own : (typeWords lead).all fun word => (ownWords { }).contains word) :
    config.Mentions schema (lead ++ config.inputType method) := by
  intro word member
  refine (config.mem_typeWords_append_inputType closed own member).imp_right fun same => ?_
  rw [same]
  exact Schema.inputType_mem_modelNames .go declared reads

/-- Wrappers declare no variables of a type. -/
theorem variables_wrapper (method : Method) :
    (rowsIn (config.wrapper method).body).filter GoCode.isVariable = [] := by
  have keys : (rowsIn (method.inputs.map fun field => .line (Json.stringText field.name ++
      ": in." ++ Convention.go.fieldName field.name ++ ","))).filter GoCode.isVariable = [] := by
    induction method.inputs with
    | nil => rfl
    | cons field fields ih =>
        simpa [rowsIn, Fragment.rows, GoCode.isVariable, Json.stringText, Json.stringChars] using ih
  unfold wrapper logLines
  cases config.tracing <;> cases method.hasInputs <;> cases method.hasOutputs <;>
    simp [rowsIn, Fragment.rows, block, GoCode.isVariable]
  all_goals simpa [GoCode.isVariable] using keys

theorem mentions_wrapper {schema : Schema} {method : Method} (declared : method ∈ schema.methods) :
    ∀ text ∈ (config.wrapper method).typeTexts, config.Mentions schema text := by
  rw [GoCode.Func.typeTexts, variables_wrapper, List.append_nil]
  intro text member
  have parts : text = "s *Server" ∨ text = "ctx context.Context" ∨
      (method.hasInputs ∧ text = "in " ++ config.inputType method) ∨ text = "(any, error)" := by
    simpa [wrapper, or_assoc] using member
  rcases parts with rfl | rfl | ⟨reads, rfl⟩ | rfl
  · exact mentions_of_own (by decide)
  · exact mentions_of_own (by decide)
  · exact config.mentions_inputType declared reads (by decide) (by decide)
  · exact mentions_of_own (by decide)

theorem variables_methodCase (method : Method) :
    (rowsIn (config.methodCase method)).filter GoCode.isVariable =
      (if method.hasInputs then ["var in " ++ config.inputType method] else []).filter
        GoCode.isVariable := by
  cases reads : method.hasInputs <;>
    simp [methodCase, reads, rowsIn, Fragment.rows, block, List.filter_cons, GoCode.isVariable]

/-- The variables of a router are an answer, an error and the inputs of the methods. -/
theorem variables_router (methods : List Method) :
    (rowsIn (config.router methods).body).filter GoCode.isVariable =
      "var res any" :: "var err error" :: methods.flatMap fun method =>
        (rowsIn (config.methodCase method)).filter GoCode.isVariable := by
  simp [router, getBlock, postBlock, switchOn, invalidMethod, block, rowsIn, Fragment.rows,
    rowsIn_append, rowsIn_flatMap, List.filter_flatMap, GoCode.isVariable]

theorem mentions_router (schema : Schema) :
    ∀ text ∈ (config.router schema.methods).typeTexts, config.Mentions schema text := by
  intro text member
  rw [GoCode.Func.typeTexts, variables_router] at member
  have parts : (text = "s *Server" ∨ text = "w http.ResponseWriter" ∨ text = "r *http.Request" ∨
      text = "var res any" ∨ text = "var err error") ∨ ∃ method ∈ schema.methods,
        method.hasInputs ∧ text = "var in " ++ config.inputType method := by
    simp only [List.mem_append, List.mem_cons, List.mem_flatMap] at member
    rcases member with signature | rfl | rfl | ⟨method, declared, inCase⟩
    · left
      simp [router] at signature
      tauto
    · simp
    · simp
    · right
      rw [variables_methodCase] at inCase
      obtain ⟨reads, spelled⟩ := List.mem_ite_nil_right.mp (List.mem_of_mem_filter inCase)
      exact ⟨method, declared, reads, List.mem_singleton.mp spelled⟩
  rcases parts with (rfl | rfl | rfl | rfl | rfl) | ⟨method, declared, reads, rfl⟩
  · exact mentions_of_own (by decide)
  · exact mentions_of_own (by decide)
  · exact mentions_of_own (by decide)
  · exact mentions_of_own (by decide)
  · exact mentions_of_own (by decide)
  · exact config.mentions_inputType declared reads (by decide) (by decide)

theorem mentions_file {schema : Schema} {word : String}
    (mentioned : word ∈ (config.file schema).typeWords) :
    word ∈ config.ownWords ∨ word ∈ schema.modelNames .go := by
  obtain ⟨text, inFile, inText⟩ := List.mem_flatMap.mp mentioned
  obtain ⟨decl, declared, inDecl⟩ := List.mem_flatMap.mp inFile
  rcases List.mem_cons.mp declared with rfl | ofMethod
  · exact config.mentions_router schema text inDecl word inText
  · obtain ⟨method, isMethod, rfl⟩ := List.mem_map.mp ofMethod
    exact config.mentions_wrapper isMethod text inDecl word inText

end GoServer

namespace GoClient

/-- The words of types in clients. -/
def ownWords : List String := ["c", "in", "out", "var", "error", "string", "http", "Client"]

theorem variables_function (method : Method) :
    (rowsIn (function method).body).filter GoCode.isVariable =
      if method.hasOutputs then ["var out " ++ Convention.go.outputType method.name] else [] := by
  have unmarked : '(' ∉ (Convention.go.outputType method.name).toList :=
    unmarked_outputType Language.go.convention_mem_languages method.name '(' (by decide)
  cases answers : method.hasOutputs <;>
    simp [function, answers, rowsIn, Fragment.rows, GoCode.isVariable, unmarked]

/-- The types of a function are those of the inputs and outputs that its method has. -/
theorem typeTexts_function {method : Method} {text : String}
    (inFunction : text ∈ (function method).typeTexts) :
    text ∈ ["c *Client", "error"] ∨
      (method.hasInputs ∧ text = "in " ++ Convention.go.inputType method.name ++ "") ∨
      (method.hasOutputs ∧
        (text = "(*" ++ Convention.go.outputType method.name ++ ", error)" ∨
          text = "var out " ++ Convention.go.outputType method.name ++ "")) := by
  rw [GoCode.Func.typeTexts, variables_function] at inFunction
  cases reads : method.hasInputs <;> cases answers : method.hasOutputs <;>
    simp [function, reads, answers] at inFunction ⊢ <;> tauto

theorem mentions_function {schema : Schema} {method : Method} (declared : method ∈ schema.methods)
    {text word : String} (inFunction : text ∈ (function method).typeTexts)
    (mentioned : word ∈ typeWords text) : word ∈ ownWords ∨ word ∈ schema.modelNames .go := by
  rcases typeTexts_function inFunction with own | ⟨reads, rfl⟩ | ⟨answers, rfl | rfl⟩
  · have known : ["c *Client", "error"].all fun text =>
        (typeWords text).all ownWords.contains := by
      decide
    have words := List.all_eq_true.mp known text own
    exact .inl (List.contains_iff_mem.mp (List.all_eq_true.mp words word mentioned))
  · refine (mem_typeWords_of_surrounds (unmarked_inputType
      Language.go.convention_mem_languages _) (by decide) mentioned).imp_right fun same => ?_
    exact same ▸ Schema.inputType_mem_modelNames .go declared reads
  · refine (mem_typeWords_of_surrounds (unmarked_outputType
      Language.go.convention_mem_languages _) (by decide) mentioned).imp_right fun same => ?_
    exact same ▸ Schema.outputType_mem_modelNames .go declared answers
  · refine (mem_typeWords_of_surrounds (unmarked_outputType
      Language.go.convention_mem_languages _) (by decide) mentioned).imp_right fun same => ?_
    exact same ▸ Schema.outputType_mem_modelNames .go declared answers

theorem mentions_file (config : GoClient) {schema : Schema} {word : String}
    (mentioned : word ∈ (config.file schema).typeWords) :
    word ∈ ownWords ∨ word ∈ schema.modelNames .go := by
  obtain ⟨text, inFile, inText⟩ := List.mem_flatMap.mp mentioned
  obtain ⟨decl, declared, inDecl⟩ := List.mem_flatMap.mp inFile
  rw [file, List.cons_append, List.mem_cons, List.mem_append, List.mem_singleton] at declared
  rcases declared with rfl | ofMethod | rfl
  · have known : (GoCode.Decl.struct clientStruct).typeTexts.all fun text =>
        (typeWords text).all ownWords.contains := by
      decide
    have words := List.all_eq_true.mp known text inDecl
    exact .inl (List.contains_iff_mem.mp (List.all_eq_true.mp words word inText))
  · obtain ⟨method, isMethod, rfl⟩ := List.mem_map.mp ofMethod
    exact mentions_function isMethod inDecl inText
  · cases inDecl

end GoClient

/-! ## Files beside the types -/

/-- A generated file that relies on the record types of its language. -/
inductive Companion
  | rustServer (config : RustServer)
  | rustStub (config : RustServer)
  | rustClient (config : RustClient)
  | tsClient (config : TsClient)
  | goServer (config : GoServer)
  | goClient (config : GoClient)

namespace Companion

def language : Companion → Language
  | .rustServer _ => .rust
  | .rustStub _ => .rust
  | .rustClient _ => .rust
  | .tsClient _ => .typescript
  | .goServer _ => .go
  | .goClient _ => .go

/-- The names that a file takes from elsewhere: the symbols that it uses of the module of the types
or imports, and in Go the words of the types that it mentions. -/
def mentions (schema : Schema) : Companion → List String
  | .rustServer config => (config.serverFile schema).uses.symbolsOf config.types
  | .rustStub config => (config.stubFile schema).uses.symbolsOf config.types
  | .rustClient config => (config.file schema).uses.symbolsOf config.types
  | .tsClient config => (config.file schema).imports.flatMap TsCode.Import.named
  | .goServer config => (config.file schema).typeWords
  | .goClient config => (config.file schema).typeWords

/-- The names among them that come from no schema. In Rust there are none, unless the module of the
types is configured to be one that is used anyway. -/
def ownWords : Companion → List String
  | .rustServer config => (RustServer.fixedSymbols.filter (·.1 == config.types)).map (·.2)
  | .rustStub config => (RustServer.fixedSymbols.filter (·.1 == config.types)).map (·.2)
  | .rustClient config => (RustClient.fixedSymbols.filter (·.1 == config.types)).map (·.2)
  | .tsClient _ => []
  | .goServer config => config.ownWords
  | .goClient _ => GoClient.ownWords

example : ownWords (.rustServer { }) = [] := by decide

theorem mem_modelNames (companion : Companion) {schema : Schema} {word : String}
    (mentioned : word ∈ companion.mentions schema) :
    word ∈ companion.ownWords ∨ word ∈ schema.modelNames companion.language.convention := by
  have fixed {symbols : List (String × String)} {module : String}
      (known : (module, word) ∈ symbols) :
      word ∈ (symbols.filter (·.1 == module)).map (·.2) :=
    List.mem_map.mpr ⟨_, List.mem_filter.mpr ⟨known, beq_self_eq_true module⟩, rfl⟩
  cases companion with
  | rustServer config =>
      exact (RustServer.within_uses config schema _ _ mentioned).imp fixed
        Schema.modelNames_methodTypes
  | rustStub config =>
      exact (RustServer.within_stubUses config schema _ _ mentioned).imp fixed
        Schema.modelNames_methodTypes
  | rustClient config =>
      exact (RustClient.within_uses config schema _ _ mentioned).imp fixed
        Schema.modelNames_methodTypes
  | tsClient config =>
      obtain ⟨imported, listed, named⟩ := List.mem_flatMap.mp mentioned
      rw [TsClient.file, TsClient.imports] at listed
      split at listed
      · cases listed
      · rw [List.mem_singleton.mp listed] at named
        exact .inr (Schema.modelNames_usedTypes named)
  | goServer config => exact config.mentions_file mentioned
  | goClient config => exact GoClient.mentions_file config mentioned

end Companion

/-! ## Closed references -/

namespace ModelFile

theorem convention_eq (file : ModelFile) : file.convention = file.language.convention := by
  cases file <;> rfl

theorem errorOf_fieldTypes (file : ModelFile) (schema : Schema) :
    errorOf (file.fieldTypes schema) = errorOf (file.outlines schema) := by
  cases file <;> rw [fieldTypes, outlines, errorOf_map, errorOf_map]

theorem exists_fieldTypes {file : ModelFile} {schema : Schema} {outlines : List Outline}
    (done : file.outlines schema = .ok outlines) :
    ∃ types, file.fieldTypes schema = .ok types := by
  rw [← errorOf_eq_none_iff, errorOf_fieldTypes, done]
  rfl

theorem names_eq {file : ModelFile} {schema : Schema} {outlines : List Outline}
    (done : file.outlines schema = .ok outlines) :
    outlines.map Outline.name = schema.modelNames file.language.convention := by
  rw [outlines_eq done, List.map_map, convention_eq]
  rfl

/-- The words of the types of fields are those of the language and names of record types. -/
theorem mem_modelNames {file : ModelFile} {schema : Schema} {types : List (List String)}
    (done : file.fieldTypes schema = .ok types) {text word : String} (typed : text ∈ types.flatten)
    (member : word ∈ typeWords text) :
    word ∈ file.language.ownWords ∨ word ∈ schema.modelNames file.language.convention := by
  obtain ⟨row, isRow, inRow⟩ := List.mem_flatten.mp typed
  have listed : row.map Except.ok ∈ schema.models.map fun model =>
      model.fields.map (file.language.mapping.field schema) :=
    fieldTypes_eq done ▸ List.mem_map_of_mem isRow
  obtain ⟨model, -, same⟩ := List.mem_map.mp listed
  have mapped : Except.ok text ∈ model.fields.map (file.language.mapping.field schema) :=
    same ▸ List.mem_map_of_mem inRow
  obtain ⟨field, -, mapped⟩ := List.mem_map.mp mapped
  obtain ⟨value, typed, spelled⟩ := Json.exists_of_bind_eq_ok mapped
  refine (Language.mem_typeWords_value spelled member).imp_right ?_
  rintro ⟨name, declared, rfl⟩
  obtain ⟨entry, isType, rfl⟩ := Schema.exists_of_valueType typed declared
  exact Schema.typeName_mem_modelNames _ isType

end ModelFile

/-- The generated files of an accepted schema fit together. What a file of record types says of its
fields are the types of the schema's fields, and the names in them are the language's own or are
declared by the file, as is whatever a field refers to. So are the names that servers, their stubs
and clients take from the record types of their language, however each file is configured. -/
theorem references_declared {schema : Schema} (accepted : schema.Accepted) (file : ModelFile) :
    (file.validates = false → ∃ outlines, file.outlines schema = .ok outlines) ∧
      ∀ outlines, file.outlines schema = .ok outlines →
        (∃ types, file.fieldTypes schema = .ok types ∧
          (types.map (List.map Except.ok) = schema.models.map fun model =>
            model.fields.map (file.language.mapping.field schema)) ∧
          ∀ text ∈ types.flatten, ∀ word ∈ typeWords text,
            word ∈ file.language.ownWords ∨ word ∈ outlines.map Outline.name) ∧
        (∀ field ∈ schema.allFields, ∀ value name, schema.valueType field = .ok value →
          value.declared? = some name →
            file.language.convention.typeName name ∈ outlines.map Outline.name) ∧
        ∀ companion : Companion, companion.language = file.language →
          ∀ word ∈ companion.mentions schema,
            word ∈ companion.ownWords ∨ word ∈ outlines.map Outline.name := by
  refine ⟨file.exists_outlines accepted, fun outlines done => ?_⟩
  obtain ⟨types, typed⟩ := ModelFile.exists_fieldTypes done
  rw [ModelFile.names_eq done]
  refine ⟨⟨types, typed, ModelFile.fieldTypes_eq typed, fun text listed word =>
    ModelFile.mem_modelNames typed listed⟩, ?_, ?_⟩
  · intro field _ value name valued declared
    obtain ⟨entry, isType, rfl⟩ := Schema.exists_of_valueType valued declared
    exact Schema.typeName_mem_modelNames _ isType
  · intro companion sameLanguage word mentioned
    rw [← sameLanguage]
    exact companion.mem_modelNames mentioned

/-- Types that refer to each other, in arrays and alone, and methods with inputs, with outputs, with
both and with neither. -/
def harbour : Schema :=
  { name := "harbour"
    version := "1"
    methods := [
      { name := "moor"
        inputs := [{ name := "ship", type := .reference (.toType "ship") }] },
      { name := "list_ships"
        outputs := [
          { name := "ships", type := .primitive .array
            items := some (.reference (.toType "ship")) }] },
      { name := "find_crew"
        inputs := [{ name := "name", type := .primitive .string }]
        outputs := [{ name := "crew", type := .reference (.toType "crew") }] },
      { name := "ping" }]
    types := [
      ("crew", {
        name := "crew"
        properties := [
          { name := "ships", type := .primitive .array
            items := some (.reference (.toType "ship")) }] }),
      ("ship", {
        name := "ship"
        properties := [
          { name := "moored_at", type := .primitive .timestamp },
          { name := "crew", type := .reference (.toType "crew") }] })] }

theorem references_harbour :
    harbour.Accepted ∧
      (Companion.rustServer { }).mentions harbour =
        ["FindCrewInput", "FindCrewOutput", "ListShipsOutput", "MoorInput"] ∧
      ∃ outlines, (ModelFile.rust { }).outlines harbour = .ok outlines ∧
        ∀ word ∈ (Companion.rustServer { }).mentions harbour,
          word ∈ (Companion.rustServer { }).ownWords ∨ word ∈ outlines.map Outline.name := by
  have accepted : harbour.Accepted := .of_clean (.inl rfl) (by decide +kernel)
  obtain ⟨outlines, done⟩ := (references_declared accepted (.rust { })).1 rfl
  exact ⟨accepted, by decide +kernel, outlines, done,
    ((references_declared accepted (.rust { })).2 outlines done).2.2 (.rustServer { }) rfl⟩

end RpcSchema
