import RpcSchema.Proofs.Code.Literals
import RpcSchema.Proofs.Code.Rows
import RpcSchema.Proofs.Generation.Outlines
import RpcSchema.Proofs.Schema.Names

/-!
# What generated clients say on the wire

A server and a client that are written from one schema never see each other's code. What a client
says about the wire is read off its code here: which methods it calls, whether it passes a body and
whether it has the response decoded. All readings are the methods of the schema, in order.

Functions are read from the declarations of a file, row by row; comments are no rows of code.
-/

namespace RpcSchema

open Code Naming

/-- What code says of a method: whether requests and responses have bodies. -/
structure Exchange where
  method : String
  sends : Bool
  receives : Bool
deriving DecidableEq

/-- What a schema says of a method. -/
def Method.exchange (method : Method) : Exchange := ⟨method.name, method.hasInputs, method.hasOutputs⟩

/-! ## Calls -/

/-- How the clients of a language call a method. -/
structure CallForm where
  /-- What stands before the name of the method. -/
  openings : List String
  /-- What stands behind the name when there is a body to pass. -/
  passing : String
  /-- What a row has in it that has the response decoded. -/
  decoding : String

namespace CallForm

def go : CallForm where
  openings := ["call(c.HTTPClient, c.AuthToken, c.URL, \""]
  passing := "\", in, "
  decoding := ", &out)"

def typescript : CallForm where
  openings := ["call(this.url, this.authToken, \""]
  passing := "\", params)"
  decoding := "JSON.parse(res)"

def rust : CallForm where
  openings := ["self.send(\"", "self.send::<()>(\""]
  passing := "\", Some(input))"
  decoding := "res.json()"

def csharp : CallForm where
  openings := ["CallAsync(\""]
  passing := "\", input)"
  decoding := "JsonConvert.DeserializeObject<"

variable (form : CallForm)

/-- Whether a piece of code is the start of a call, up to the name of the method. -/
def opens (before : List Char) : Bool := form.openings.any (·.toList.isSuffixOf before)

/-- Whether the rest of a call passes a body. -/
def passes (after : List Char) : Bool := form.passing.toList.isPrefixOf after

/-- The name that a row passes in a call, and whether it passes a body. -/
def call? (row : String) : Option (String × Bool) :=
  match quotation? row.toList with
  | some ⟨before, name, after⟩ =>
    if form.opens before then some (String.ofList name, form.passes after) else none
  | none => none

/-- Whether a row has a response decoded. -/
def decodes (row : String) : Bool := occurs form.decoding row

/-- The exchanges of a function: one for each of its calls. -/
def exchanges (rows : List String) : List Exchange :=
  (rows.filterMap form.call?).map fun (name, passes) => ⟨name, passes, rows.any form.decodes⟩

variable {form} {row : String}

theorem call?_of_not_mem (unquoted : '"' ∉ row.toList) : form.call? row = none := by
  rw [call?, quotation?_of_not_mem unquoted]

theorem decodes_of_infix (unquoted : '"' ∉ row.toList)
    (within : form.decoding.toList <:+: row.toList) : form.decodes row = true := by
  rw [decodes, occurs_iff, outside_of_not_mem unquoted]
  exact within

variable (form) in
/-- What stands around the name of a method makes a call that passes a body or not, and has the
response decoded or not. -/
def fits (before after : String) (passes decodes : Bool) : Bool :=
  opensText before.toList && form.opens before.toList && closesText after.toList &&
    (form.passes after.toList == passes) &&
    (decide (form.decoding.toList <:+: before.toList ++ outside .text after.toList) == decodes)

/-- A call is read off its row. -/
theorem read_call {before name after : String} {passes decodes : Bool}
    (named : isIdentifier name = true) (spelled : row = before ++ name ++ after)
    (fits : form.fits before after passes decodes = true) :
    form.call? row = some (name, passes) ∧ form.decodes row = decodes := by
  have plain := all_isPlain_of_isIdentifier named
  simp only [CallForm.fits, Bool.and_eq_true, beq_iff_eq] at fits
  obtain ⟨⟨⟨⟨opening, opens⟩, closing⟩, passing⟩, decoding⟩ := fits
  have characters : row.toList = before.toList ++ name.toList ++ after.toList := by
    rw [spelled, String.toList_append, String.toList_append]
  constructor
  · rw [call?, characters, quotation?_eq opening plain closing]
    change (if form.opens before.toList = true then _ else _) = _
    rw [if_pos opens, String.ofList_toList, passing]
  · rw [← decoding, CallForm.decodes, Bool.eq_iff_iff, occurs_iff, decide_eq_true_iff, characters,
      outside_literal opening (staysWithin_of_all_isPlain plain)]

theorem filterMap_call?_of_not_mem {rows : List String}
    (unquoted : ∀ row ∈ rows, '"' ∉ row.toList) : rows.filterMap form.call? = [] :=
  List.filterMap_eq_nil_iff.mpr fun row member => call?_of_not_mem (unquoted row member)

/-- Without literals there are no calls. -/
theorem exchanges_of_not_mem {rows : List String} (unquoted : ∀ row ∈ rows, '"' ∉ row.toList) :
    form.exchanges rows = [] := by
  rw [exchanges, filterMap_call?_of_not_mem unquoted, List.map_nil]

/-- A function with one call; its other rows have no literals. -/
theorem exchanges_eq {rows front behind : List String} {name : String} {passes : Bool}
    (listed : rows = front ++ row :: behind) (called : form.call? row = some (name, passes))
    (unquoted : ∀ other ∈ front ++ behind, '"' ∉ other.toList) :
    form.exchanges rows = [⟨name, passes, rows.any form.decodes⟩] := by
  obtain ⟨ofFront, ofBehind⟩ := List.forall_mem_append.mp unquoted
  have single : rows.filterMap form.call? = [(name, passes)] := by
    rw [listed, List.filterMap_append, filterMap_call?_of_not_mem ofFront, List.filterMap_cons,
      called, filterMap_call?_of_not_mem ofBehind]
    rfl
  rw [exchanges, single]
  rfl

end CallForm

/-! ## Clients -/

theorem not_mem_outputType {convention : Convention} (listed : convention ∈ Convention.languages)
    (method : String) : '"' ∉ (convention.outputType method).toList :=
  Convention.not_mem_outputType listed (by decide) (by decide) method

namespace GoClient

/-- What the functions of a client say, in order. -/
def exchanges (file : GoCode.File) : List Exchange :=
  file.functions.flatMap fun func => CallForm.go.exchanges (rowsOf func.body)

section Call

variable {method : Method} (named : isIdentifier method.name = true)
include named

theorem read_returned :
    CallForm.go.call? ("return " ++ call method "nil") = some (method.name, method.hasInputs) ∧
      CallForm.go.decodes ("return " ++ call method "nil") = false := by
  have spelled : "return " ++ call method "nil" =
      "return " ++ "call(c.HTTPClient, c.AuthToken, c.URL, \"" ++ method.name ++
        ("\", " ++ (if method.hasInputs then "in" else "nil") ++ ", " ++ "nil" ++ ")") := by
    unfold call
    simp only [String.append_assoc]
  exact CallForm.read_call named spelled (by cases method.hasInputs <;> decide +kernel)

theorem read_guarded :
    CallForm.go.call? ("if err := " ++ call method "&out" ++ "; err != nil \x7b") =
        some (method.name, method.hasInputs) ∧
      CallForm.go.decodes ("if err := " ++ call method "&out" ++ "; err != nil \x7b") = true := by
  have spelled : "if err := " ++ call method "&out" ++ "; err != nil \x7b" =
      "if err := " ++ "call(c.HTTPClient, c.AuthToken, c.URL, \"" ++ method.name ++
        ("\", " ++ (if method.hasInputs then "in" else "nil") ++ ", " ++ "&out" ++ ")" ++
          "; err != nil \x7b") := by
    unfold call
    simp only [String.append_assoc]
  exact CallForm.read_call named spelled (by cases method.hasInputs <;> decide +kernel)

theorem exchanges_function :
    CallForm.go.exchanges (rowsOf (function method).body) = [method.exchange] := by
  cases receives : method.hasOutputs with
  | false =>
      obtain ⟨called, ignored⟩ := read_returned named
      have rows : rowsOf (function method).body = [] ++ ["return " ++ call method "nil"] := by
        simp [function, receives, rowsOf, Fragment.row?]
      rw [CallForm.exchanges_eq rows called (by simp), rows, Method.exchange, receives]
      simp [ignored]
  | true =>
      obtain ⟨called, decoded⟩ := read_guarded named
      have rows : rowsOf (function method).body =
          ["var out " ++ Convention.go.outputType method.name] ++
            ("if err := " ++ call method "&out" ++ "; err != nil \x7b") ::
              ["\treturn nil, err", "\x7d", "return &out, nil"] := by
        simp [function, receives, rowsOf, Fragment.row?]
      have unquoted := not_mem_outputType Convention.go_mem_languages method.name
      rw [CallForm.exchanges_eq rows called (by simp [unquoted]), rows, Method.exchange, receives]
      simp [decoded]

end Call

theorem functions_file (config : GoClient) (schema : Schema) :
    (config.file schema).functions = schema.methods.map function := by
  simp only [GoCode.File.functions, file, List.cons_append, List.filterMap_cons,
    GoCode.Decl.func?, List.filterMap_append, List.filterMap_map, Function.comp_def,
    List.filterMap_eq_map', List.filterMap_nil, List.append_nil]

theorem exchanges_file (config : GoClient) {schema : Schema} (named : schema.IsNamed) :
    exchanges (config.file schema) = schema.methods.map Method.exchange := by
  rw [exchanges, functions_file, List.flatMap_map, List.map_eq_flatMap]
  exact List.flatMap_congr fun method declared =>
    exchanges_function (named.methods method declared).1

end GoClient

/-! ### Rust -/

def RustCode.Decl.functions : RustCode.Decl → List RustCode.Func
  | .func decl => [decl]
  | .impl decl => decl.methods
  | .interface decl => decl.items
  | _ => []

/-- The functions that a file declares, those of types and traits among them. -/
def RustCode.File.functions (file : RustCode.File) : List RustCode.Func :=
  file.decls.flatMap RustCode.Decl.functions

namespace RustClient

/-- What the functions of a client say, in order. -/
def exchanges (file : RustCode.File) : List Exchange :=
  file.functions.flatMap fun func => CallForm.rust.exchanges (rowsOf func.body)

section Call

variable {method : Method} (named : isIdentifier method.name = true)
include named

theorem sendCall_eq (lead : String) :
    lead ++ sendCall method ++ ";" =
      (lead ++ if method.hasInputs then "self.send(\"" else "self.send::<()>(\"") ++ method.name ++
        ((if method.hasInputs then "\", Some(input)).await?" else "\", None).await?") ++ ";") := by
  have opened : "self.send(" ++ "\"" = "self.send(\"" := by decide
  have openedBare : "self.send::<()>(" ++ "\"" = "self.send::<()>(\"" := by decide
  have closed : "\"" ++ ", Some(input)).await?" = "\", Some(input)).await?" := by decide
  have closedBare : "\"" ++ ", None).await?" = "\", None).await?" := by decide
  unfold sendCall
  rw [quoted_of_isIdentifier named]
  cases method.hasInputs
  · simp only [Bool.false_eq_true, if_false, ← openedBare, ← closedBare, String.append_assoc]
  · simp only [if_true, ← opened, ← closed, String.append_assoc]

theorem read_sent :
    CallForm.rust.call? ("" ++ sendCall method ++ ";") = some (method.name, method.hasInputs) ∧
      CallForm.rust.decodes ("" ++ sendCall method ++ ";") = false :=
  CallForm.read_call named (sendCall_eq named "") (by cases method.hasInputs <;> decide +kernel)

theorem read_answered :
    CallForm.rust.call? ("let res = " ++ sendCall method ++ ";") =
        some (method.name, method.hasInputs) ∧
      CallForm.rust.decodes ("let res = " ++ sendCall method ++ ";") = false :=
  CallForm.read_call named (sendCall_eq named "let res = ")
    (by cases method.hasInputs <;> decide +kernel)

theorem exchanges_function :
    CallForm.rust.exchanges (rowsOf (function method).body) = [method.exchange] := by
  cases receives : method.hasOutputs with
  | false =>
      obtain ⟨called, ignored⟩ := read_sent named
      have rows : rowsOf (function method).body =
          [] ++ ("" ++ sendCall method ++ ";") :: ["Ok(())"] := by
        simp [function, receives, rowsOf, Fragment.row?]
      have done : CallForm.rust.decodes "Ok(())" = false := by decide
      rw [CallForm.exchanges_eq rows called (by simp), rows, Method.exchange, receives]
      simp only [List.nil_append, List.any_cons, ignored, done, List.any_nil, Bool.or_false]
  | true =>
      obtain ⟨called, -⟩ := read_answered named
      have rows : rowsOf (function method).body =
          [] ++ ("let res = " ++ sendCall method ++ ";") :: ["Ok(res.json().await?)"] := by
        simp [function, receives, rowsOf, Fragment.row?]
      have decoded : CallForm.rust.decodes "Ok(res.json().await?)" = true := by decide
      rw [CallForm.exchanges_eq rows called (by simp), rows, Method.exchange, receives]
      simp only [List.nil_append, List.any_cons, decoded, List.any_nil, Bool.true_or, Bool.or_true]

end Call

theorem functions_file (config : RustClient) (schema : Schema) :
    (config.file schema).functions = constructors ++ schema.methods.map function ++ [sendFunc] := by
  simp [RustCode.File.functions, file, RustCode.Decl.functions]

theorem exchanges_file (config : RustClient) {schema : Schema} (named : schema.IsNamed) :
    exchanges (config.file schema) = schema.methods.map Method.exchange := by
  have fixed : (constructors.flatMap fun func => CallForm.rust.exchanges (rowsOf func.body)) = [] ∧
      CallForm.rust.exchanges (rowsOf sendFunc.body) = [] := by decide +kernel
  rw [exchanges, functions_file, List.flatMap_append, List.flatMap_append, fixed.1,
    List.flatMap_singleton, fixed.2, List.nil_append, List.append_nil, List.flatMap_map,
    List.map_eq_flatMap]
  exact List.flatMap_congr fun method declared =>
    exchanges_function (named.methods method declared).1

end RustClient

/-! ### C# -/

def CsCode.Member.method? : CsCode.Member → Option CsCode.Method
  | .method decl => some decl
  | _ => none

namespace CsClient

/-- What the functions of a client's classes say, in order. -/
def exchanges (classes : List CsCode.ClassDecl) : List Exchange :=
  classes.flatMap fun decl =>
    (decl.members.filterMap CsCode.Member.method?).flatMap fun func =>
      CallForm.csharp.exchanges func.body

section Call

variable {method : Method} (named : isIdentifier method.name = true)
include named

theorem read_call (lead : String) (fits : ∀ sends, CallForm.csharp.fits
      (lead ++ "CallAsync(\"") (("\"" ++ if sends then ", input)" else ")") ++ ";") sends false) :
    CallForm.csharp.call? (lead ++ call method ++ ";") = some (method.name, method.hasInputs) ∧
      CallForm.csharp.decodes (lead ++ call method ++ ";") = false := by
  have spelled : lead ++ call method ++ ";" = lead ++ "CallAsync(\"" ++ method.name ++
      (("\"" ++ if method.hasInputs then ", input)" else ")") ++ ";") := by
    unfold call
    simp only [String.append_assoc]
  exact CallForm.read_call named spelled (fits method.hasInputs)

theorem exchanges_function :
    CallForm.csharp.exchanges (function method).body = [method.exchange] := by
  cases receives : method.hasOutputs with
  | false =>
      obtain ⟨called, ignored⟩ := read_call named "await " (by decide +kernel)
      have rows : (function method).body = [] ++ ["await " ++ call method ++ ";"] := by
        simp [function, receives]
      rw [CallForm.exchanges_eq rows called (by simp), rows, Method.exchange, receives]
      simp [ignored]
  | true =>
      obtain ⟨called, -⟩ := read_call named "var res = await " (by decide +kernel)
      have rows : (function method).body = [] ++ ("var res = await " ++ call method ++ ";") ::
          ["return JsonConvert.DeserializeObject<" ++ Convention.csharp.outputType method.name ++
            ">(res);"] := by
        simp [function, receives]
      have unquoted : '"' ∉ ("return JsonConvert.DeserializeObject<" ++
          Convention.csharp.outputType method.name ++ ">(res);").toList := by
        simp [not_mem_outputType Convention.csharp_mem_languages method.name]
      have decoded : CallForm.csharp.decodes ("return JsonConvert.DeserializeObject<" ++
          Convention.csharp.outputType method.name ++ ">(res);") = true := by
        refine CallForm.decodes_of_infix unquoted ⟨"return ".toList,
          (Convention.csharp.outputType method.name ++ ">(res);").toList, ?_⟩
        simp [CallForm.csharp]
      rw [CallForm.exchanges_eq rows called (by simpa using unquoted), rows, Method.exchange,
        receives]
      simp [decoded]

end Call

theorem methods_declare {schema : Schema} {model : Model} {decl : CsCode.ClassDecl}
    (made : declare schema model = .ok decl) :
    decl.members.filterMap CsCode.Member.method? = [] := by
  obtain ⟨properties, _, made⟩ := Json.exists_of_bind_eq_ok made
  rw [eq_of_pure_eq_ok made, List.filterMap_map]
  exact List.filterMap_eq_nil_iff.mpr fun _ _ => rfl

theorem methods_clientClass (config : CsClient) (schema : Schema) :
    (config.clientClass schema).members.filterMap CsCode.Member.method? =
      schema.methods.map function := by
  simp only [clientClass, List.cons_append, List.filterMap_cons, CsCode.Member.method?,
    List.filterMap_append, List.filterMap_map, Function.comp_def, List.filterMap_eq_map',
    List.filterMap_nil, List.append_nil]

theorem exchanges_classes {config : CsClient} {schema : Schema} (named : schema.IsNamed)
    {classes : List CsCode.ClassDecl} (made : config.classes schema = .ok classes) :
    exchanges classes = schema.methods.map Method.exchange := by
  obtain ⟨models, listed, made⟩ := Json.exists_of_bind_eq_ok made
  have ofModels : (models.flatMap fun decl =>
      (decl.members.filterMap CsCode.Member.method?).flatMap fun func =>
        CallForm.csharp.exchanges func.body) = [] := by
    refine List.flatMap_eq_nil_iff.mpr fun decl member => ?_
    rw [forall_of_mapM_eq_ok methods_declare listed decl member, List.flatMap_nil]
  have ofException : config.exceptionClass.members.filterMap CsCode.Member.method? = [] := rfl
  rw [eq_of_pure_eq_ok made, exchanges, List.flatMap_append, ofModels, List.nil_append,
    List.flatMap_cons, ofException, List.flatMap_nil, List.nil_append, List.flatMap_singleton,
    methods_clientClass, List.flatMap_map, List.map_eq_flatMap]
  exact List.flatMap_congr fun method declared =>
    exchanges_function (named.methods method declared).1

end CsClient

/-! ### TypeScript -/

def TsCode.Decl.func? : TsCode.Decl → Option TsCode.Func
  | .func decl => some decl
  | _ => none

namespace TsClient

/-- What the functions of a client say, in order, and the methods of its class. -/
def exchanges (file : TsCode.File) (decl : List Fragment) : List Exchange :=
  (((file.decls.filterMap TsCode.Decl.func?).map TsCode.Func.body) ++
    (bodiesOf decl).map rowsOf).flatMap CallForm.typescript.exchanges

section Call

variable (dated : List String) {method : Method} (named : isIdentifier method.name = true)
include named

theorem read_call (lead : String) (fits : ∀ sends, CallForm.typescript.fits
      (lead ++ "call(this.url, this.authToken, \"")
      ("\"" ++ (if sends then ", params)" else ")") ++ ";") sends false) :
    CallForm.typescript.call? (lead ++ (Call.ofMethod dated method).expression ++ ";") =
        some (method.name, method.hasInputs) ∧
      CallForm.typescript.decodes (lead ++ (Call.ofMethod dated method).expression ++ ";") =
        false := by
  have input : (Call.ofMethod dated method).input.isSome = method.hasInputs := by
    unfold Call.ofMethod
    cases method.hasInputs <;> rfl
  have spelled : lead ++ (Call.ofMethod dated method).expression ++ ";" =
      lead ++ "call(this.url, this.authToken, \"" ++ method.name ++
        ("\"" ++ (if method.hasInputs then ", params)" else ")") ++ ";") := by
    unfold Call.expression
    rw [input]
    simp only [Call.ofMethod, String.append_assoc]
  exact CallForm.read_call named spelled (fits method.hasInputs)

omit named in
theorem response_cases (method : Method) :
    (method.hasOutputs = false ∧ (Call.ofMethod dated method).response = .ignored) ∨
      (method.hasOutputs = true ∧
        ((Call.ofMethod dated method).response =
            .parsed (Convention.typescript.outputType method.name) ∨
          (Call.ofMethod dated method).response =
            .revived (Convention.typescript.outputType method.name))) := by
  unfold Call.ofMethod
  cases method.hasOutputs with
  | false => exact .inl ⟨rfl, rfl⟩
  | true =>
      cases TsRevivers.isDated dated method with
      | false => exact .inr ⟨rfl, .inl rfl⟩
      | true => exact .inr ⟨rfl, .inr rfl⟩

theorem exchanges_body :
    CallForm.typescript.exchanges (Call.ofMethod dated method).body = [method.exchange] := by
  have unquoted := not_mem_outputType Convention.typescript_mem_languages method.name
  rw [Call.body, Method.exchange]
  rcases response_cases dated method with ⟨receives, response⟩ | ⟨receives, response | response⟩
  · obtain ⟨called, ignored⟩ := read_call dated named "await " (by decide +kernel)
    rw [response, CallForm.exchanges_eq (List.nil_append _).symm called (by simp), receives]
    simp [ignored]
  · obtain ⟨called, -⟩ := read_call dated named "const res = await " (by decide +kernel)
    have decoded : CallForm.typescript.decodes "return JSON.parse(res);" = true := by decide
    rw [response, CallForm.exchanges_eq (List.nil_append _).symm called (by simp), receives]
    simp [decoded]
  · obtain ⟨called, -⟩ := read_call dated named "const res = await " (by decide +kernel)
    have decoded : CallForm.typescript.decodes ("const out: " ++
        Convention.typescript.outputType method.name ++ " = JSON.parse(res);") = true := by
      refine CallForm.decodes_of_infix (by simp [unquoted]) ⟨("const out: " ++
        Convention.typescript.outputType method.name ++ " = ").toList, ";".toList, ?_⟩
      simp [CallForm.typescript]
    rw [response, CallForm.exchanges_eq (List.nil_append _).symm called
      (by simp [unquoted, TsRevivers.functionName]), receives]
    simp [decoded]

end Call

theorem bodiesOf_func (func : TsCode.Func) :
    bodiesOf func.fragments = [func.body.map Fragment.line] := by
  have comments : bodiesOf (func.doc.toList.map Fragment.docBlock) = [] := by
    cases func.doc <;> rfl
  rw [TsCode.Func.fragments, bodiesOf_append, comments, block, bodiesOf, Fragment.bodies,
    bodiesOf_lines]
  rfl

theorem rowsOf_func (func : TsCode.Func) : rowsOf func.fragments = [] := by
  refine List.filterMap_eq_nil_iff.mpr fun fragment member => ?_
  rcases List.mem_append.mp member with comment | whole
  · obtain ⟨text, _, rfl⟩ := List.mem_map.mp comment
    rfl
  · rw [List.mem_singleton.mp whole]
    rfl

theorem bodiesOf_calls (calls : List Call) :
    (bodiesOf (calls.flatMap fun call => .blank :: call.func.fragments)).map rowsOf =
      calls.map Call.body := by
  induction calls with
  | nil => rfl
  | cons call calls ih =>
      rw [List.flatMap_cons, bodiesOf_append, List.map_append, ih, bodiesOf, bodiesOf_func,
        List.map_cons]
      exact congrArg (· :: calls.map Call.body) (rowsOf_lines call.body)

/-- The bodies of the class and of its methods. -/
theorem bodiesOf_clientClass (calls : List Call) :
    (bodiesOf (clientClass calls)).map rowsOf = clientHead :: calls.map Call.body := by
  have rows : rowsOf (calls.flatMap fun call => .blank :: call.func.fragments) = [] := by
    rw [rowsOf, List.filterMap_flatMap, List.flatMap_eq_nil_iff]
    exact fun call _ => rowsOf_func call.func
  have whole : bodiesOf (clientClass calls) =
      (clientHead.map Fragment.line ++ calls.flatMap fun call => .blank :: call.func.fragments) ::
        bodiesOf (clientHead.map Fragment.line ++
          calls.flatMap fun call => .blank :: call.func.fragments) := List.append_nil _
  rw [whole, List.map_cons, bodiesOf_append, bodiesOf_lines, List.nil_append, bodiesOf_calls,
    rowsOf_append, rows, rowsOf_lines, List.append_nil]

/-! Revivers call no method. -/

theorem isPlainKey_of_isIdentifier {name : String} (named : isIdentifier name = true) :
    TsCode.isPlainKey name = true := by
  have letter : ∀ {c : Char}, isIdentifierStart c = true → TsCode.isKeyStart c = true := by
    intro c start
    rw [TsCode.isKeyStart]
    rw [isIdentifierStart] at start
    rw [start]
    rfl
  have part : ∀ {c : Char}, isIdentifierPart c = true →
      (TsCode.isKeyStart c || Text.isAsciiDigit c) = true := by
    intro c part
    simp only [isIdentifierPart, isIdentifierStart, TsCode.isKeyStart, Bool.or_eq_true] at part ⊢
    rcases part with (start | digit) | underscore
    · exact .inl (.inl (.inl start))
    · exact .inr digit
    · exact .inl (.inl (.inr underscore))
  rw [isIdentifier] at named
  rw [TsCode.isPlainKey]
  cases spelled : name.toList with
  | nil =>
      rw [spelled] at named
      cases named
  | cons c rest =>
      rw [spelled, Bool.and_eq_true, List.all_eq_true] at named
      exact Bool.and_eq_true_iff.mpr
        ⟨letter named.1, List.all_eq_true.mpr fun c member => part (named.2 c member)⟩

theorem not_mem_memberAccess {name : String} (named : isIdentifier name = true) :
    '"' ∉ (TsCode.memberAccess name).toList := by
  have unquoted : '"' ∉ name.toList := not_mem_of_isIdentifier named (by decide)
  rw [TsCode.memberAccess, if_pos (isPlainKey_of_isIdentifier named)]
  simp [unquoted]

theorem not_mem_actionText {field : Field} {place : String} (unquoted : '"' ∉ place.toList) :
    '"' ∉ ((TsRevivers.actionOf field).text place).toList := by
  have ofType : ∀ name, '"' ∉ (Convention.typescript.typeName name).toList :=
    Convention.not_mem_typeName Convention.typescript_mem_languages (by decide) (by decide)
  unfold TsRevivers.actionOf
  split
  · cases field.isArray <;> simp [TsRevivers.Action.text, unquoted]
  · cases field.isArray <;>
      simp [TsRevivers.Action.text, TsRevivers.functionName, unquoted, ofType]

theorem not_mem_reviver {dated : List String} {typeName : String} {fields : List Field}
    (named : ∀ field ∈ fields, isIdentifier field.name = true) :
    ∀ row ∈ (TsRevivers.reviver dated typeName fields).func.body, '"' ∉ row.toList := by
  intro row member
  obtain ⟨statement, made, rfl⟩ := List.mem_map.mp member
  obtain ⟨field, kept, rfl⟩ := List.mem_map.mp made
  have place : '"' ∉ ("value" ++ TsCode.memberAccess field.name).toList := by
    simp [not_mem_memberAccess (named field (List.mem_of_mem_filter kept))]
  have action : '"' ∉ ((TsRevivers.actionOf field).text
      ("value" ++ TsCode.memberAccess field.name)).toList := not_mem_actionText place
  have opened : '"' ∉ "if (".toList ∧ '"' ∉ " != null) ".toList := by decide
  unfold TsRevivers.Statement.text
  simp only [String.toList_append, List.mem_append, not_or] at place ⊢
  exact ⟨⟨⟨opened.1, place⟩, opened.2⟩, action⟩

theorem exchanges_revivers {schema : Schema} (named : schema.IsNamed) :
    ((TsRevivers.revivers schema).map fun reviver => reviver.func.body).flatMap
      CallForm.typescript.exchanges = [] := by
  refine List.flatMap_eq_nil_iff.mpr fun rows member => CallForm.exchanges_of_not_mem ?_
  obtain ⟨reviver, isReviver, rfl⟩ := List.mem_map.mp member
  rcases List.mem_append.mp isReviver with ofType | ofMethod
  · obtain ⟨type, kept, rfl⟩ := List.mem_map.mp ofType
    obtain ⟨entry, declared, rfl⟩ := List.mem_map.mp (List.mem_of_mem_filter kept)
    exact not_mem_reviver (named.types entry declared)
  · obtain ⟨method, kept, rfl⟩ := List.mem_map.mp ofMethod
    have names := (named.methods method (List.mem_of_mem_filter kept)).2
    exact not_mem_reviver fun field output => names field (List.mem_append_right _ output)

theorem bodies_file (config : TsClient) (schema : Schema) :
    ((config.file schema).decls.filterMap TsCode.Decl.func?).map TsCode.Func.body =
      (TsRevivers.revivers schema).map fun reviver => reviver.func.body := by
  simp only [file, List.cons_append, List.nil_append, List.filterMap_cons, TsCode.Decl.func?,
    List.filterMap_append, List.filterMap_map, Function.comp_def, List.filterMap_eq_map',
    List.filterMap_nil, List.append_nil, List.map_map]

theorem exchanges_file (config : TsClient) {schema : Schema} (named : schema.IsNamed) :
    exchanges (config.file schema) (clientClass (calls schema)) =
      schema.methods.map Method.exchange := by
  have head : CallForm.typescript.exchanges clientHead = [] :=
    CallForm.exchanges_of_not_mem (by decide)
  rw [exchanges, bodies_file, List.flatMap_append, exchanges_revivers named, List.nil_append,
    bodiesOf_clientClass, List.flatMap_cons, head, List.nil_append, calls, List.map_map,
    List.flatMap_map, List.map_eq_flatMap]
  exact List.flatMap_congr fun method declared =>
    exchanges_body _ (named.methods method declared).1

end TsClient

end RpcSchema
