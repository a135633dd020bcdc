import RpcSchema.Proofs.Wire.Calls

/-!
# What generated servers say on the wire

The counterpart of the calls of clients: the methods that a server's code answers, whether it reads
a body for them and whether it answers with one, as they are read off its arms or cases.
-/

namespace RpcSchema

open Code Naming

/-! ## Rust -/

namespace RustServer

/-- The text that an arm with a given header matches. -/
def armRoute? (header : String) : Option String :=
  match quotation? header.toList with
  | some ⟨before, route, after⟩ =>
    if before = ['"'] ∧ "\" =>".toList.isPrefixOf after then some (String.ofList route) else none
  | none => none

mutual
/-- The arms in a fragment that match texts, with their bodies. -/
def fragmentArms : Fragment → List (String × List Fragment)
  | .line text => (armRoute? text).toList.map (·, [])
  | .block header body _ =>
    match armRoute? header with
    | some route => [(route, body)]
    | none => armsOf body
  | .indent body => armsOf body
  | _ => []

def armsOf : List Fragment → List (String × List Fragment)
  | [] => []
  | fragment :: rest => fragmentArms fragment ++ armsOf rest
end

/-- Whether a fragment reads the body of a request, with validation or without. -/
def readsRequest : Fragment → Bool
  | .block header _ _ =>
    [" = match read_request(&req) \x7b", " = match read_validated_request(&req) \x7b"].any
      (·.toList.isSuffixOf header.toList)
  | _ => false

/-- Whether a row answers with a body; none when it does not answer. -/
def responds? (row : String) : Option Bool :=
  if "respond(".toList.isPrefixOf row.toList then some true
  else if "respond_empty(".toList.isPrefixOf row.toList then some false
  else none

/-- What an arm says; none when it does not answer. -/
def exchange? (route : String) (body : List Fragment) : Option Exchange :=
  ((rowsOf body).findSome? responds?).map (⟨route, body.any readsRequest, ·⟩)

/-- What the arms of a server say, in order. -/
def exchanges (file : RustCode.File) : List (Option Exchange) :=
  (file.functions.flatMap fun func => armsOf func.body).map fun (route, body) =>
    exchange? route body

theorem armsOf_append (front rest : List Fragment) :
    armsOf (front ++ rest) = armsOf front ++ armsOf rest := by
  induction front with
  | nil => rfl
  | cons fragment front ih =>
      rw [List.cons_append, armsOf, ih, armsOf, List.append_assoc]

/-- The body of an arm. -/
def Arm.body (arm : Arm) : List Fragment :=
  arm.readFragments ++ arm.spanFragments ++
    [.line (arm.responder.function ++ "(" ++ arm.call ++ ".await)")]

theorem armRoute?_arm {arm : Arm} (named : isIdentifier arm.route = true) :
    armRoute? (Text.quoted arm.route ++ " => \x7b") = some arm.route := by
  have spelled : (Text.quoted arm.route ++ " => \x7b").toList =
      ['"'] ++ arm.route.toList ++ "\" => \x7b".toList := by
    rw [quoted_of_isIdentifier named]
    simp
  rw [armRoute?, spelled, quotation?_eq (by decide) (all_isPlain_of_isIdentifier named)
    (by decide)]
  change (if _ then _ else _) = _
  rw [if_pos ⟨rfl, by decide⟩, String.ofList_toList]

theorem fragmentArms_fragment {arm : Arm} (named : isIdentifier arm.route = true) :
    fragmentArms arm.fragment = [(arm.route, arm.body)] := by
  rw [Arm.fragment, block, fragmentArms, armRoute?_arm named]
  rfl

theorem armsOf_arms {arms : List Arm} (named : ∀ arm ∈ arms, isIdentifier arm.route = true) :
    armsOf (arms.map Arm.fragment) = arms.map fun arm => (arm.route, arm.body) := by
  induction arms with
  | nil => rfl
  | cons arm arms ih =>
      obtain ⟨here, later⟩ := List.forall_mem_cons.mp named
      rw [List.map_cons, armsOf, fragmentArms_fragment here, ih later]
      rfl

theorem armsOf_dispatchBody {arms : List Arm}
    (named : ∀ arm ∈ arms, isIdentifier arm.route = true) :
    armsOf (dispatchBody arms) = arms.map fun arm => (arm.route, arm.body) := by
  rw [dispatchBody]
  split
  · next none =>
    rw [List.isEmpty_iff.mp none, List.map_nil]
    decide +kernel
  · have routing : fragmentArms (block "let name = match route(&req) \x7b"
        [.line "Route::Health => return write_health(service.health().await),",
          .line ("Route::Invalid => return write_error(&Error::bad_request(" ++
            "\"Invalid method\")),"),
          .line "Route::Call(name) => name,"] "\x7d;") = [] := by
      decide +kernel
    have setting : fragmentArms (.line "let ctx = RequestContext::new(&req);") = [] := by
      decide +kernel
    have fallback : armsOf [otherwise] = [] := by decide +kernel
    have unquoted : armRoute? "match name.as_str() \x7b" = none := by decide
    have matched : fragmentArms (block "match name.as_str() \x7b"
        (arms.map Arm.fragment ++ [otherwise]) "\x7d") =
          armsOf (arms.map Arm.fragment ++ [otherwise]) := by
      rw [block, fragmentArms, unquoted]
    rw [armsOf, routing, armsOf, setting, armsOf, armsOf, matched, armsOf_append, fallback,
      armsOf_arms named]
    simp [armsOf, fragmentArms]

section Arm

variable (config : RustServer) (method : Method)

theorem readsRequest_read (type : String) (reader : Reader) (body : List Fragment) :
    readsRequest (block ("let input: " ++ type ++ " = match " ++ reader.function ++ "(&req) \x7b")
      body "\x7d;") = true := by
  have header : ∀ function : String,
      (" = match " ++ function ++ "(&req) \x7b").toList <:+
        ("let input: " ++ type ++ " = match " ++ function ++ "(&req) \x7b").toList := by
    intro function
    simp only [String.append_assoc, String.toList_append]
    exact List.suffix_append_of_suffix (List.suffix_append _ _)
  have plain := List.isSuffixOf_iff_suffix.mpr (header "read_request")
  have validated := List.isSuffixOf_iff_suffix.mpr (header "read_validated_request")
  rw [block, readsRequest, List.any_cons, List.any_cons]
  cases reader with
  | plain => exact Bool.or_eq_true_iff.mpr (.inl plain)
  | validated => exact Bool.or_eq_true_iff.mpr (.inr (Bool.or_eq_true_iff.mpr (.inl validated)))

theorem any_readsRequest :
    (Arm.ofMethod config method).body.any readsRequest = method.hasInputs := by
  have noSpan : ∀ arm : Arm, arm.spanFragments.any readsRequest = false := by
    intro arm
    cases arm with
    | mk route function input responder span => cases span <;> rfl
  have answers : ∀ row : String, [Fragment.line row].any readsRequest = false := fun _ => rfl
  rw [Arm.body, List.any_append, List.any_append, noSpan, answers, Bool.or_false, Bool.or_false]
  cases reads : method.hasInputs with
  | false => simp [Arm.readFragments, Arm.ofMethod, reads]
  | true => simp [Arm.readFragments, Arm.ofMethod, reads, readsRequest_read]

theorem responds?_answer (responder : Responder) (call : String) :
    responds? (responder.function ++ "(" ++ call ++ ".await)") = some (responder == .body) := by
  cases responder <;> simp [responds?, Responder.function]

/-- What reads a request or traces a call does not answer. -/
theorem findSome?_rowsOf_spanFragments (arm : Arm) :
    (rowsOf arm.spanFragments).findSome? responds? = none := by
  cases arm with
  | mk route function input responder span =>
      cases span with
      | none => rfl
      | some fields => simp [Arm.spanFragments, rowsOf, Fragment.row?, responds?]

theorem findSome?_responds :
    (rowsOf (Arm.ofMethod config method).body).findSome? responds? = some method.hasOutputs := by
  have reading : rowsOf (Arm.ofMethod config method).readFragments = [] := by
    unfold Arm.readFragments
    cases (Arm.ofMethod config method).input <;> rfl
  have answer : ∀ row : String, rowsOf [.line row] = [row] := fun _ => rfl
  rw [Arm.body, rowsOf_append, rowsOf_append, reading, List.nil_append, List.findSome?_append,
    findSome?_rowsOf_spanFragments, answer, List.findSome?_singleton, responds?_answer,
    Arm.ofMethod, responder]
  cases method.hasOutputs <;> rfl

theorem exchange?_ofMethod :
    exchange? method.name (Arm.ofMethod config method).body = some method.exchange := by
  rw [exchange?, findSome?_responds, any_readsRequest]
  rfl

end Arm

theorem functions_serverFile (config : RustServer) (schema : Schema) :
    (config.serverFile schema).functions =
      healthFunc :: schema.methods.map serviceFunc ++ [dispatch (config.arms schema)] := by
  simp [RustCode.File.functions, serverFile, RustCode.Decl.functions, serviceTrait]

/-- Methods are called by their names, which are identifiers. -/
theorem isIdentifier_route {config : RustServer} {schema : Schema} (named : schema.IsNamed) :
    ∀ arm ∈ config.arms schema, isIdentifier arm.route = true :=
  List.forall_mem_map.mpr fun method declared => (named.methods method declared).1

theorem exchanges_serverFile (config : RustServer) {schema : Schema} (named : schema.IsNamed) :
    exchanges (config.serverFile schema) =
      schema.methods.map fun method => some method.exchange := by
  have health : armsOf healthFunc.body = [] := by decide +kernel
  have declared : (schema.methods.map serviceFunc).flatMap (fun func => armsOf func.body) = [] := by
    rw [List.flatMap_map]
    exact List.flatMap_eq_nil_iff.mpr fun _ _ => rfl
  rw [exchanges, functions_serverFile, List.cons_append, List.flatMap_cons, health,
    List.flatMap_append, declared, List.nil_append, List.nil_append, List.flatMap_singleton,
    dispatch, armsOf_dispatchBody (isIdentifier_route named), arms, List.map_map, List.map_map]
  exact List.map_congr_left fun method _ => exchange?_ofMethod config method

end RustServer

/-! ## Go -/

namespace GoServer

/-- The text that a case of a switch is for. -/
def casePath? (row : String) : Option String :=
  match quotation? row.toList with
  | some ⟨before, path, after⟩ =>
    if before = "case \"".toList ∧ after = "\":".toList then some (String.ofList path) else none
  | none => none

mutual
/-- The cases in a fragment, with the rows under them; the fragment stands behind the row of a case
with the given path. -/
def fragmentCases (path : Option String) : Fragment → List (String × List String)
  | .indent body => path.toList.map (·, rowsOf body) ++ casesOf none body
  | .block _ body _ => casesOf none body
  | _ => []

def casesOf (path : Option String) : List Fragment → List (String × List String)
  | [] => []
  | fragment :: rest => fragmentCases path fragment ++ casesOf (fragment.row?.bind casePath?) rest
end

/-- Whether a row reads the body of a request. -/
def readsRequest (row : String) : Bool := ".ReadRequest(r, &in)".toList.isSuffixOf row.toList

/-- The wrapper that a row calls. -/
def wrapper? (row : String) : Option String :=
  if "res, err = s.".toList.isPrefixOf row.toList &&
      ["(ctx)", "(ctx, in)"].any (·.toList.isSuffixOf row.toList) then
    some (String.ofList ((row.toList.drop "res, err = s.".length).takeWhile (· != '(')))
  else none

/-- A case of the router: its path, whether it reads the body of a request, and the wrapper that it
calls. -/
structure Case where
  path : String
  reads : Bool
  wrapper : Option String
deriving DecidableEq

/-- A case as it is read off its path and the rows under it. -/
def Case.ofRows (found : String × List String) : Case :=
  ⟨found.1, found.2.any readsRequest, found.2.findSome? wrapper?⟩

/-- The cases of a server's switches, in order. -/
def cases (file : GoCode.File) : List Case :=
  (file.functions.flatMap fun func => casesOf none func.body).map Case.ofRows

/-- Whether a row returns the result of a method; none when it does not return. -/
def returns? (row : String) : Option Bool :=
  if row = "return res, err" then some true
  else if row = "return nil, err" then some false
  else none

/-- The wrappers of a server, and whether they return the result of their method. -/
def wrappers (file : GoCode.File) : List (String × Option Bool) :=
  (file.functions.filter fun func => func.returns == some "(any, error)").map fun func =>
    (func.name, (rowsOf func.body).findSome? returns?)

section Router

variable (config : GoServer)

theorem not_mem_wrapperName (method : Method) : '(' ∉ (wrapperName method).toList :=
  Convention.not_mem_safeName Convention.go_mem_languages (by decide) (by decide)
    (not_mem_memberName (by decide) _ _)

theorem wrapper?_call (method : Method) {arguments : String}
    (known : arguments ∈ ["(ctx)", "(ctx, in)"]) :
    wrapper? ("res, err = s." ++ wrapperName method ++ arguments) = some (wrapperName method) := by
  have called : ["(ctx)", "(ctx, in)"].any (·.toList.isSuffixOf
      ("res, err = s." ++ wrapperName method ++ arguments).toList) = true := by
    refine List.any_eq_true.mpr ⟨arguments, known, List.isSuffixOf_iff_suffix.mpr ?_⟩
    rw [String.toList_append]
    exact List.suffix_append _ _
  have starts : "res, err = s.".toList.isPrefixOf
      ("res, err = s." ++ wrapperName method ++ arguments).toList = true := by
    rw [List.isPrefixOf_iff_prefix, String.append_assoc, String.toList_append]
    exact List.prefix_append _ _
  have behind : ("res, err = s." ++ wrapperName method ++ arguments).toList.drop
      "res, err = s.".length = (wrapperName method).toList ++ arguments.toList := by
    rw [String.append_assoc, String.toList_append, String.toList_append]
    exact List.drop_left' (by decide)
  have name : ((wrapperName method).toList ++ arguments.toList).takeWhile (· != '(') =
      (wrapperName method).toList := by
    have other : ∀ c ∈ (wrapperName method).toList, (c != '(') = true := fun c member => by
      simpa using fun same : c = '(' => not_mem_wrapperName method (same ▸ member)
    have stops : arguments.toList.takeWhile (· != '(') = [] := by
      rcases List.mem_cons.mp known with rfl | known
      · decide
      · rw [List.mem_singleton.mp known]
        decide
    rw [List.takeWhile_append_of_pos other, stops, List.append_nil]
  rw [wrapper?, starts, called, behind, name, String.ofList_toList]
  rfl

theorem casePath?_case {method : Method} (named : isIdentifier method.name = true) :
    casePath? ("case \"/" ++ method.name ++ "\":") = some ("/" ++ method.name) := by
  have plain : ("/" ++ method.name).toList.all isPlain = true := by
    rw [String.toList_append, List.all_append, all_isPlain_of_isIdentifier named]
    decide
  have spelled : ("case \"/" ++ method.name ++ "\":").toList =
      "case \"".toList ++ ("/" ++ method.name).toList ++ "\":".toList := by
    simp
  rw [casePath?, spelled, quotation?_eq (by decide) plain (by decide)]
  change (if _ then _ else _) = _
  rw [if_pos ⟨rfl, rfl⟩, String.ofList_toList]

/-- The rows under the case of a method. -/
def methodRows (method : Method) : List String :=
  if method.hasInputs then
    ["var in " ++ config.inputType method, "err = " ++ config.rpc ++ ".ReadRequest(r, &in)",
      "res, err = s." ++ wrapperName method ++ "(ctx, in)"]
  else ["res, err = s." ++ wrapperName method ++ "(ctx)"]

theorem casesOf_methodCase {method : Method} (named : isIdentifier method.name = true)
    (path : Option String) (rest : List Fragment) :
    casesOf path (config.methodCase method ++ rest) =
      ("/" ++ method.name, config.methodRows method) :: casesOf none rest := by
  have found : (Fragment.line ("case \"/" ++ method.name ++ "\":")).row?.bind casePath? =
      some ("/" ++ method.name) := casePath?_case named
  rw [methodCase, List.cons_append, casesOf, found]
  cases reads : method.hasInputs with
  | false => simp [fragmentCases, casesOf, methodRows, reads, rowsOf, Fragment.row?]
  | true =>
      simp [fragmentCases, casesOf, methodRows, reads, rowsOf, Fragment.row?, block]
      rfl

theorem casesOf_methodCases {methods : List Method}
    (named : ∀ method ∈ methods, isIdentifier method.name = true) (path : Option String)
    (rest : List Fragment) :
    ∃ last, casesOf path (methods.flatMap config.methodCase ++ rest) =
      methods.map (fun method => ("/" ++ method.name, config.methodRows method)) ++
        casesOf last rest := by
  induction methods generalizing path with
  | nil => exact ⟨path, rfl⟩
  | cons method methods ih =>
      obtain ⟨here, later⟩ := List.forall_mem_cons.mp named
      obtain ⟨last, others⟩ := ih later none
      refine ⟨last, ?_⟩
      rw [List.flatMap_cons, List.append_assoc, casesOf_methodCase config here, others]
      rfl

theorem any_readsRequest (method : Method) :
    (config.methodRows method).any readsRequest = method.hasInputs := by
  have called : ∀ arguments ∈ ["(ctx)", "(ctx, in)"],
      readsRequest ("res, err = s." ++ wrapperName method ++ arguments) = false := by
    intro arguments known
    -- Two ends of one row that are unlike.
    have unlike : ∀ arguments ∈ ["(ctx)", "(ctx, in)"],
        ¬ ".ReadRequest(r, &in)".toList <:+ arguments.toList ∧
          ¬ arguments.toList <:+ ".ReadRequest(r, &in)".toList := by
      decide
    rw [readsRequest, String.toList_append, ← Bool.not_eq_true, List.isSuffixOf_iff_suffix]
    intro ends
    exact (List.suffix_or_suffix_of_suffix ends (List.suffix_append _ _)).elim
      (unlike arguments known).1 (unlike arguments known).2
  have reads : readsRequest ("err = " ++ config.rpc ++ ".ReadRequest(r, &in)") = true := by
    rw [readsRequest, String.toList_append]
    exact List.isSuffixOf_iff_suffix.mpr (List.suffix_append _ _)
  unfold methodRows
  cases method.hasInputs with
  | false => simp [called]
  | true => simp [reads]

theorem findSome?_wrapper (method : Method) :
    (config.methodRows method).findSome? wrapper? = some (wrapperName method) := by
  have reading : wrapper? ("err = " ++ config.rpc ++ ".ReadRequest(r, &in)") = none := by
    simp [wrapper?]
  have declared : wrapper? ("var in " ++ config.inputType method) = none := by
    simp [wrapper?]
  unfold methodRows
  cases method.hasInputs with
  | false => simp [wrapper?_call]
  | true => simp [reading, declared, wrapper?_call]

theorem casesOf_getBlock (path : Option String) :
    fragmentCases path config.getBlock = [("/_health", [config.rpc ++ ".WriteHealth(w, s)"])] := by
  have health : casePath? "case \"/_health\":" = some "/_health" := by decide
  have fallback : casePath? "default:" = none := by decide
  simp only [getBlock, block, switchOn, fragmentCases, List.cons_append, List.nil_append,
    casesOf, Fragment.row?, Option.bind_some, health, fallback, Option.toList_none,
    Option.toList_some, List.map_cons, List.map_nil, rowsOf, List.filterMap_cons,
    List.filterMap_nil, List.append_nil, invalidMethod]

/-- What the router does behind its cases: it writes what they left. -/
def epilogue : List Fragment :=
  [.line "default:",
    .indent [.line ("err = " ++ config.rpc ++ ".BadRequest(\"Invalid method\")")],
    .line "\x7d", .blank,
    block "if err != nil \x7b"
      [.line (config.rpc ++ ".WriteError(w, err)"), .line "return"] "\x7d",
    .blank, .line (config.rpc ++ ".WriteResponse(w, res)"), .line "return"]

theorem casesOf_epilogue (path : Option String) : casesOf path config.epilogue = [] := by
  have fallback : casePath? "default:" = none := by decide
  simp only [epilogue, block, fragmentCases, casesOf, Fragment.row?, Option.bind_some, fallback,
    Option.toList_none, List.map_nil, List.append_nil]

/-- The code for calls: what is set up, the cases of a switch, and what is done behind them. -/
def postBody (methods : List Method) : List Fragment :=
  .line ("ctx := " ++ config.rpc ++ ".NewRequestContext(r.Context(), r)") ::
    .line "var res any" :: .line "var err error" :: .line "switch r.URL.Path \x7b" ::
      (methods.flatMap config.methodCase ++ config.epilogue)

theorem postBlock_eq (methods : List Method) :
    config.postBlock methods =
      block "if r.Method == \"POST\" \x7b" (config.postBody methods) "\x7d" := by
  have switch : "switch " ++ "r.URL.Path" ++ " \x7b" = "switch r.URL.Path \x7b" := by decide
  unfold postBlock postBody switchOn epilogue
  rw [switch]
  simp only [List.cons_append, List.nil_append, List.append_assoc]

theorem casesOf_postBlock {methods : List Method}
    (named : ∀ method ∈ methods, isIdentifier method.name = true) (path : Option String) :
    fragmentCases path (config.postBlock methods) =
      methods.map fun method => ("/" ++ method.name, config.methodRows method) := by
  -- Only an indented body belongs to a case, so the rows above the switch are passed over.
  have passed : ∀ path row rest,
      casesOf path (.line row :: rest) = casesOf (casePath? row) rest := fun _ _ _ => rfl
  obtain ⟨last, others⟩ := casesOf_methodCases config named (casePath? "switch r.URL.Path \x7b")
    config.epilogue
  rw [postBlock_eq, block, fragmentCases, postBody, passed, passed, passed, passed, others,
    casesOf_epilogue, List.append_nil]

theorem casesOf_router {methods : List Method}
    (named : ∀ method ∈ methods, isIdentifier method.name = true) :
    casesOf none (config.router methods).body =
      ("/_health", [config.rpc ++ ".WriteHealth(w, s)"]) ::
        methods.map fun method => ("/" ++ method.name, config.methodRows method) := by
  rw [router, casesOf, casesOf_getBlock, casesOf, casesOf, casesOf_postBlock config named]
  simp [casesOf, fragmentCases, invalidMethod]

theorem casesOf_lines {α : Type} (row : α → String) (path : Option String) (items : List α) :
    casesOf path (items.map fun item => .line (row item)) = [] := by
  induction items generalizing path with
  | nil => rfl
  | cons item items ih => exact ih _

theorem casesOf_wrapper (method : Method) : casesOf none (config.wrapper method).body = [] := by
  unfold wrapper logLines
  cases config.tracing <;> cases method.hasInputs <;> cases method.hasOutputs <;>
    simp [casesOf, fragmentCases, casesOf_lines, block]

theorem ofRows_health :
    Case.ofRows ("/_health", [config.rpc ++ ".WriteHealth(w, s)"]) = ⟨"/_health", false, none⟩ := by
  -- The row of the health check has an end of its own.
  have unlike : ∀ ending ∈ [".ReadRequest(r, &in)", "(ctx)", "(ctx, in)"],
      ending.toList.isSuffixOf (config.rpc ++ ".WriteHealth(w, s)").toList = false := by
    have distinct : ∀ ending ∈ [".ReadRequest(r, &in)", "(ctx)", "(ctx, in)"],
        ¬ ending.toList <:+ ".WriteHealth(w, s)".toList ∧
          ¬ ".WriteHealth(w, s)".toList <:+ ending.toList := by
      decide
    intro ending known
    rw [String.toList_append, ← Bool.not_eq_true, List.isSuffixOf_iff_suffix]
    intro ends
    exact (List.suffix_or_suffix_of_suffix ends (List.suffix_append _ _)).elim
      (distinct ending known).1 (distinct ending known).2
  have reads : readsRequest (config.rpc ++ ".WriteHealth(w, s)") = false :=
    unlike _ (by decide)
  have calls : ["(ctx)", "(ctx, in)"].any
      (·.toList.isSuffixOf (config.rpc ++ ".WriteHealth(w, s)").toList) = false := by
    rw [List.any_eq_false]
    exact fun ending known => Bool.not_eq_true _ ▸ unlike ending (List.mem_cons_of_mem _ known)
  rw [Case.ofRows, List.any_cons, reads, List.findSome?_singleton, wrapper?, calls, Bool.and_false]
  rfl

theorem ofRows_method (method : Method) (path : String) :
    Case.ofRows (path, config.methodRows method) =
      ⟨path, method.hasInputs, some (wrapperName method)⟩ := by
  rw [Case.ofRows, any_readsRequest, findSome?_wrapper]

theorem functions_file (schema : Schema) :
    (config.file schema).functions =
      config.router schema.methods :: schema.methods.map config.wrapper := by
  have wrappers : schema.methods.filterMap (fun method => some (config.wrapper method)) =
      schema.methods.map config.wrapper := congrFun List.filterMap_eq_map' schema.methods
  simp only [GoCode.File.functions, file, List.filterMap_cons, GoCode.Decl.func?,
    List.filterMap_map, Function.comp_def, wrappers]

theorem cases_file {schema : Schema} (named : schema.IsNamed) :
    cases (config.file schema) =
      ⟨"/_health", false, none⟩ ::
        schema.methods.map fun method =>
          ⟨"/" ++ method.name, method.hasInputs, some (wrapperName method)⟩ := by
  have quiet : (schema.methods.map config.wrapper).flatMap (fun func => casesOf none func.body) =
      [] := by
    rw [List.flatMap_map]
    exact List.flatMap_eq_nil_iff.mpr fun method _ => casesOf_wrapper config method
  rw [cases, functions_file, List.flatMap_cons, quiet, List.append_nil,
    casesOf_router config fun method declared => (named.methods method declared).1, List.map_cons,
    List.map_map, ofRows_health]
  exact congrArg _ (List.map_congr_left fun method _ => ofRows_method config method _)

theorem findSome?_returns_logLines (method : Method) :
    (rowsOf (logLines method)).findSome? returns? = none := by
  have rows : rowsOf (logLines method) = ["logs := log.FromContext(ctx).WithField(\"method\", " ++
      Json.stringText method.name ++ ")"] := by
    unfold logLines
    cases method.hasInputs <;> simp [rowsOf, Fragment.row?, block]
  have assigned (rest : String) :
      returns? ("logs := log.FromContext(ctx).WithField(\"method\", " ++ rest) = none := by
    simp [returns?, ← String.toList_inj]
  rw [rows, List.findSome?_singleton, String.append_assoc, assigned]

theorem findSome?_returns_wrapper (method : Method) :
    (rowsOf (config.wrapper method).body).findSome? returns? = some method.hasOutputs := by
  have assigned (rest : String) : returns? ("res, err := " ++ rest) = none ∧
      returns? ("err := " ++ rest) = none := by
    simp [returns?, ← String.toList_inj]
  have returned : returns? "return res, err" = some true ∧
      returns? "return nil, err" = some false := by
    decide
  have logged : (rowsOf (if config.tracing then logLines method else [])).findSome? returns? =
      none := by
    cases config.tracing
    · rfl
    · exact findSome?_returns_logLines method
  unfold wrapper
  rw [rowsOf_append, List.findSome?_append, logged, Option.none_or]
  cases method.hasOutputs <;>
    simp only [rowsOf, Fragment.row?, Bool.false_eq_true, if_false, if_true, List.filterMap_cons,
      List.filterMap_nil, List.findSome?_cons, assigned, returned]

theorem wrappers_file (schema : Schema) :
    wrappers (config.file schema) =
      schema.methods.map fun method => (wrapperName method, some method.hasOutputs) := by
  have router : ((config.router schema.methods).returns == some "(any, error)") = false := rfl
  have kept : (schema.methods.map config.wrapper).filter
      (fun func => func.returns == some "(any, error)") = schema.methods.map config.wrapper := by
    refine List.filter_eq_self.mpr fun func member => ?_
    obtain ⟨method, _, rfl⟩ := List.mem_map.mp member
    rfl
  rw [wrappers, functions_file, List.filter_cons, router, if_neg Bool.false_ne_true, kept,
    List.map_map]
  refine List.map_congr_left fun method _ => ?_
  rw [Function.comp_apply, findSome?_returns_wrapper]
  rfl

end Router

end GoServer

end RpcSchema
