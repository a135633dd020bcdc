import RpcSchema.Proofs.Wire.Dispatch
import RpcSchema.Proofs.Wire.Exchanges

/-!
# Where the servers of a schema send a request

Two servers of one schema route a call in their own ways. In Rust, the leading slashes of the path
are taken off and a match on the rest selects an arm; in Go, a switch on the whole path selects a
case. Both are read here off the code that is written. A path of one slash and the name of a method
selects that method in both. A path with more than one slash in front of the name selects it in Rust
only; every other path selects no method, and is answered as an invalid one in both.
-/

namespace RpcSchema

open Code Naming Wire

/-- The body of the first block under a row. -/
def Code.bodyUnder? (header : String) : List Fragment → Option (List Fragment)
  | [] => none
  | .block other body _ :: rest => if other = header then some body else bodyUnder? header rest
  | _ :: rest => bodyUnder? header rest

/-! ## The match of a Rust server -/

namespace RustServer

/-- The row of an arm, up to its body. -/
def header? : Fragment → Option String
  | .line text => some text
  | .block header _ _ => some header
  | _ => none

/-- The arm that a match takes: the first whose row fits. -/
def takenArm? (fits : String → Bool) (arms : List Fragment) : Option Fragment :=
  arms.find? fun arm => (header? arm).any fits

/-- Whether a row starts an arm for everything. -/
def isWildcard (row : String) : Bool := "_ => ".toList.isPrefixOf row.toList

/-- The pattern of a route, and of all routes alike. -/
def pattern : Route → String
  | .health => "Route::Health"
  | .invalid => "Route::Invalid"
  | .call _ => "Route::Call(name)"

def fitsRoute (route : Route) (row : String) : Bool :=
  (pattern route ++ " => ").toList.isPrefixOf row.toList || isWildcard row

def fitsText (text row : String) : Bool := armRoute? row == some text || isWildcard row

/-- The arm that the code of a dispatch ends at for a route: one of a match on the route, or of one
on the name in it. -/
def reachedArm? (route : Route) (code : List Fragment) : Option Fragment :=
  match bodyUnder? "match route(&req) \x7b" code with
  | some arms => takenArm? (fitsRoute route) arms
  | none => do
    let arm ← takenArm? (fitsRoute route) (← bodyUnder? "let name = match route(&req) \x7b" code)
    match route with
    | .call name =>
      if header? arm = some "Route::Call(name) => name," then
        takenArm? (fitsText name) (← bodyUnder? "match name.as_str() \x7b" code)
      else some arm
    | _ => some arm

/-- The code of the dispatch in a file, which is a function outside the service. -/
def dispatchCode (file : RustCode.File) : List Fragment :=
  file.decls.flatMap fun
    | .func func => if func.name = "dispatch" then func.body else []
    | _ => []

theorem bind_armRoute? {arm : Arm} (named : isIdentifier arm.route = true) :
    (header? arm.fragment).bind armRoute? = some arm.route := by
  rw [Arm.fragment, block, header?, Option.bind_some, armRoute?_arm named]

theorem fitsText_arm {arm : Arm} (named : isIdentifier arm.route = true) (text : String) :
    (header? arm.fragment).any (fitsText text) = (arm.route == text) := by
  have specific : isWildcard (Text.quoted arm.route ++ " => \x7b") = false := by
    rw [isWildcard, quoted_of_isIdentifier named, String.append_assoc, String.append_assoc,
      String.toList_append]
    rfl
  rw [Arm.fragment, block, header?, Option.any_some, fitsText, armRoute?_arm named, specific,
    Bool.or_false]
  rfl

/-- Of the arms of a dispatch, a match on a text takes the one of that name, or the one for
everything else. -/
theorem takenArm?_arms {arms : List Arm} (named : ∀ arm ∈ arms, isIdentifier arm.route = true)
    (text : String) :
    takenArm? (fitsText text) (arms.map Arm.fragment ++ [otherwise]) =
      some (((arms.find? (·.route == text)).map Arm.fragment).getD otherwise) := by
  induction arms with
  | nil =>
      have wild : isWildcard "_ => write_error(&Error::bad_request(\"Invalid method\"))," := by
        decide
      have fits : (header? otherwise).any (fitsText text) = true := by
        rw [otherwise, header?, Option.any_some, fitsText, wild, Bool.or_true]
      exact List.find?_cons_of_pos fits
  | cons arm arms ih =>
      obtain ⟨here, later⟩ := List.forall_mem_cons.mp named
      rw [takenArm?] at ih ⊢
      rw [List.map_cons, List.cons_append, List.find?_cons, fitsText_arm here, List.find?_cons]
      cases arm.route == text with
      | true => rfl
      | false => exact ih later

/-- A call ends at the arm of its name, or at the one for everything else. -/
theorem reachedArm?_dispatchBody {arms : List Arm}
    (named : ∀ arm ∈ arms, isIdentifier arm.route = true) (name : String) :
    reachedArm? (.call name) (dispatchBody arms) =
      some (((arms.find? (·.route == name)).map Arm.fragment).getD otherwise) := by
  -- Of a route, the pattern is looked at, and not the name in it.
  have fits : ∀ row, fitsRoute (.call name) row = fitsRoute (.call "") row := fun _ => rfl
  have health : ∀ row ∈ ["Route::Health => write_health(service.health().await),",
      "Route::Health => return write_health(service.health().await),",
      "Route::Invalid => return write_error(&Error::bad_request(\"Invalid method\")),"],
      fitsRoute (.call "") row = false := by
    decide
  have call : fitsRoute (.call "") "Route::Call(name) => name," = true := by decide
  have wild : fitsRoute (.call "") "_ => write_error(&Error::bad_request(\"Invalid method\"))," =
      true := by
    decide
  rw [dispatchBody]
  split
  · next none =>
    rw [List.isEmpty_iff.mp none]
    simp [reachedArm?, bodyUnder?, block, takenArm?, header?, otherwise, fits, health, wild]
  · have chosen : takenArm? (fitsRoute (.call name))
        [.line "Route::Health => return write_health(service.health().await),",
          .line "Route::Invalid => return write_error(&Error::bad_request(\"Invalid method\")),",
          .line "Route::Call(name) => name,"] = some (.line "Route::Call(name) => name,") := by
      simp [takenArm?, header?, fits, health, call]
    rw [← takenArm?_arms named]
    simp [reachedArm?, bodyUnder?, block, chosen, header?]

theorem dispatchCode_serverFile (config : RustServer) (schema : Schema) :
    dispatchCode (config.serverFile schema) = dispatchBody (config.arms schema) := by
  rw [dispatchCode, serverFile]
  simp [dispatch]

end RustServer

/-! ## The switch of a Go server -/

namespace GoServer

/-- The first case whose row fits, with the code under it. -/
def findCase? (fits : String → Bool) : List Fragment → Option (List Fragment)
  | .line row :: .indent code :: rest =>
    if fits row then some [.line row, .indent code] else findCase? fits rest
  | _ :: rest => findCase? fits rest
  | [] => none

/-- The case that a switch takes for a path: one with that path, or else the default. -/
def takenCase? (path : String) (code : List Fragment) : Option (List Fragment) :=
  (findCase? (fun row => casePath? row == some path) code).or
    (findCase? (· == "default:") code)

/-- The case that the router in a file takes for a call by its path. -/
def reachedCase? (file : GoCode.File) (path : String) : Option (List Fragment) := do
  let router ← file.functions.find? (·.name == "ServeHTTP")
  takenCase? path (← bodyUnder? "if r.Method == \"POST\" \x7b" router.body)

/-- The default of the router: the call is answered as one of no method. -/
def otherwise (config : GoServer) : List Fragment :=
  [.line "default:",
    .indent [.line ("err = " ++ config.rpc ++ ".BadRequest(\"Invalid method\")")]]

variable (config : GoServer)

/-- The row of the case of a method. -/
abbrev caseRow (method : Method) : String := "case \"/" ++ method.name ++ "\":"

theorem findCase?_methodCases (fits : String → Bool) (methods : List Method)
    (rest : List Fragment) :
    findCase? fits (methods.flatMap config.methodCase ++ rest) =
      ((methods.find? fun method => fits (caseRow method)).map config.methodCase).or
        (findCase? fits rest) := by
  induction methods with
  | nil => rfl
  | cons method methods ih =>
      rw [List.flatMap_cons, List.append_assoc, methodCase, List.cons_append, List.cons_append,
        List.nil_append, findCase?, List.find?_cons, ih]
      split
      · next here => rw [here]; rfl
      · next other => rw [Bool.not_eq_true] at other; rw [other]

theorem findCase?_epilogue (path : String) :
    findCase? (fun row => casePath? row == some path) config.epilogue = none ∧
      findCase? (· == "default:") config.epilogue = some config.otherwise := by
  have fallback : casePath? "default:" = none := by decide
  constructor
  · simp [epilogue, findCase?, fallback, block]
  · simp [epilogue, findCase?, otherwise]

/-- The rows above the cases belong to none. -/
theorem findCase?_postBody (fits : String → Bool) (methods : List Method) :
    findCase? fits (config.postBody methods) =
      ((methods.find? fun method => fits (caseRow method)).map config.methodCase).or
        (findCase? fits config.epilogue) := by
  have starts : ∃ row rest, methods.flatMap config.methodCase ++ config.epilogue =
      .line row :: rest := by
    cases methods with
    | nil => exact ⟨_, _, rfl⟩
    | cons method methods => exact ⟨_, _, rfl⟩
  obtain ⟨row, rest, layout⟩ := starts
  rw [← findCase?_methodCases, postBody, layout]
  rfl

theorem takenCase?_postBody {methods : List Method}
    (named : ∀ method ∈ methods, isIdentifier method.name = true) (path : String) :
    takenCase? path (config.postBody methods) =
      some (((methods.find? fun method => "/" ++ method.name == path).map
        config.methodCase).getD config.otherwise) := by
  have paths : (methods.find? fun method => casePath? (caseRow method) == some path) =
      methods.find? fun method => "/" ++ method.name == path :=
    List.find?_congr fun method declared => by
      rw [casePath?_case (named method declared)]
      rfl
  have noDefault : (methods.find? fun method => caseRow method == "default:") = none := by
    rw [List.find?_eq_none]
    simp [caseRow, ← String.toList_inj]
  rw [takenCase?, findCase?_postBody, findCase?_postBody, (config.findCase?_epilogue path).1,
    (config.findCase?_epilogue path).2, paths, noDefault]
  cases methods.find? fun method => "/" ++ method.name == path <;> rfl

/-- A call ends at the case of its path, or at the default. -/
theorem reachedCase?_file {schema : Schema} (named : schema.IsNamed) (path : String) :
    reachedCase? (config.file schema) path =
      some (((schema.methods.find? fun method => "/" ++ method.name == path).map
        config.methodCase).getD config.otherwise) := by
  have entered : bodyUnder? "if r.Method == \"POST\" \x7b" (config.router schema.methods).body =
      some (config.postBody schema.methods) := by
    simp [router, bodyUnder?, getBlock, block, postBlock_eq]
  rw [reachedCase?, functions_file, List.find?_cons_of_pos (by rfl)]
  simp only [Option.bind_eq_bind, Option.bind_some, entered]
  exact config.takenCase?_postBody (fun method declared => (named.methods method declared).1) path

end GoServer

/-! ## Paths of requests -/

namespace Wire

/-- The path of a request starts with a slash, where it is not empty or a star. -/
theorem pathChars_cases (address : List Char) :
    pathChars address = [] ∨ pathChars address = ['*'] ∨
      ∃ rest, pathChars address = '/' :: rest := by
  unfold pathChars
  split
  · exact .inr (.inr ⟨_, rfl⟩)
  · exact .inr (.inl rfl)
  · split
    · next rest _ =>
      -- Behind the host there is a slash, or the path is over.
      have stops := List.head?_dropWhile_not (fun c => !endsHost c) rest
      cases behind : rest.dropWhile fun c => !endsHost c with
      | nil => exact .inr (.inr ⟨[], rfl⟩)
      | cons c others =>
          rw [behind] at stops
          simp only [List.head?_cons, Bool.not_eq_false', endsHost, Bool.or_eq_true,
            beq_iff_eq] at stops
          rcases stops with rfl | ends
          · exact .inr (.inr ⟨_, rfl⟩)
          · rw [leadingPath, List.takeWhile_cons_of_neg (by simpa using ends)]
            exact .inr (.inr ⟨[], rfl⟩)
    · exact .inl rfl

/-- A number of slashes. -/
def slashes (count : Nat) : String := String.ofList (List.replicate count '/')

/-- Slashes in front of a name that has none are what is taken off a path. -/
theorem calledName_eq_iff {path name : String} (bare : name.toList.head? ≠ some '/') :
    calledName path = name ↔ ∃ count, path = slashes count ++ name := by
  simp only [calledName, slashes, ← String.toList_inj, String.toList_append, String.toList_ofList]
  constructor
  · intro rest
    have front : path.toList.takeWhile (· == '/') =
        List.replicate (path.toList.takeWhile (· == '/')).length '/' :=
      List.eq_replicate_of_mem fun c member => by simpa using List.mem_takeWhile_imp member
    exact ⟨_, by rw [← front, ← rest, List.takeWhile_append_dropWhile]⟩
  · rintro ⟨count, spelled⟩
    rw [spelled, List.dropWhile_append_of_pos fun c member => by
      rw [List.eq_of_mem_replicate member]
      rfl]
    cases begins : name.toList with
    | nil => rfl
    | cons c rest =>
        rw [begins] at bare
        exact List.dropWhile_cons_of_neg (by simpa using bare)

theorem slashes_one : slashes 1 = "/" := by decide

/-- The slashes in front of a name are counted. -/
theorem eq_of_slashes_append {count other : Nat} {name : String}
    (same : slashes count ++ name = slashes other ++ name) : count = other := by
  have lengths := congrArg String.length ((String.append_left_inj name).mp same)
  simpa [slashes] using lengths

theorem head?_ne_slash {name : String} (named : isIdentifier name = true) :
    name.toList.head? ≠ some '/' := by
  intro slash
  obtain ⟨rest, spelled⟩ := List.head?_eq_some_iff.mp slash
  rw [isIdentifier, spelled, Bool.and_eq_true] at named
  exact absurd named.1 (by decide)

/-- A path is no name: there is a slash, a star or nothing at its start. -/
theorem Request.path_ne {request : Request} {name : String} (named : isIdentifier name = true) :
    request.path ≠ name := by
  rintro rfl
  have forms := pathChars_cases request.target.toList
  rw [← String.toList_ofList (l := pathChars request.target.toList)] at forms
  change request.path.toList = [] ∨ request.path.toList = ['*'] ∨
    ∃ rest, request.path.toList = '/' :: rest at forms
  rw [isIdentifier] at named
  rcases forms with none | star | ⟨rest, slash⟩
  · rw [none] at named
    cases named
  · rw [star] at named
    exact absurd named (by decide)
  · rw [slash, Bool.and_eq_true] at named
    exact absurd named.1 (by decide)

end Wire

/-! ## Both servers -/

theorem find?_eq_some_iff_of_nodup {α : Type} {key : α → String} {list : List α}
    (distinct : (list.map key).Nodup) {item : α} {text : String} :
    (list.find? fun other => key other == text) = some item ↔ item ∈ list ∧ key item = text := by
  constructor
  · intro found
    have same := List.find?_some found
    exact ⟨List.mem_of_find?_eq_some found, eq_of_beq same⟩
  · rintro ⟨member, rfl⟩
    exact find?_of_nodup distinct member

/-- What stands for one of several items, or for none of them, tells which it is. -/
theorem getD_map_eq_iff {α β : Type} (code : α → β) {fallback : β} {chosen : Option α} {item : α}
    (apart : fallback ≠ code item)
    (told : ∀ other ∈ chosen, code other = code item → other = item) :
    (chosen.map code).getD fallback = code item ↔ chosen = some item := by
  cases chosen with
  | none => simpa using apart
  | some other =>
      rw [Option.map_some, Option.getD_some, Option.some.injEq]
      exact ⟨told other rfl, congrArg code⟩

/-- The dispatch of a Rust server goes on with the arm of a method. -/
def RustServer.Reaches (config : RustServer) (schema : Schema) (request : Request)
    (method : Method) : Prop :=
  RustServer.reachedArm? request.route (RustServer.dispatchCode (config.serverFile schema)) =
    some (RustServer.Arm.ofMethod config method).fragment

/-- The dispatch of a Rust server answers that there is no such method. -/
def RustServer.Refuses (config : RustServer) (schema : Schema) (request : Request) : Prop :=
  RustServer.reachedArm? request.route (RustServer.dispatchCode (config.serverFile schema)) =
    some RustServer.otherwise

/-- The router of a Go server goes on with the case of a method. -/
def GoServer.Reaches (config : GoServer) (schema : Schema) (path : String) (method : Method) :
    Prop :=
  GoServer.reachedCase? (config.file schema) path = some (config.methodCase method)

/-- The router of a Go server answers that there is no such method. -/
def GoServer.Refuses (config : GoServer) (schema : Schema) (path : String) : Prop :=
  GoServer.reachedCase? (config.file schema) path = some config.otherwise

section Schema

variable {schema : Schema} (named : schema.IsNamed)
  (names : (schema.methods.map Method.name).Nodup)
include named

section Rust

variable (config : RustServer) {request : Request} (post : request.verb = "POST")
include post

theorem RustServer.reachedArm?_serverFile :
    reachedArm? request.route (dispatchCode (config.serverFile schema)) =
      some (((schema.methods.find? (·.name == calledName request.path)).map fun method =>
        (Arm.ofMethod config method).fragment).getD otherwise) := by
  rw [Request.route, if_pos post, dispatchCode_serverFile,
    reachedArm?_dispatchBody (isIdentifier_route named), arms, List.find?_map, Option.map_map]
  rfl

include names in
theorem RustServer.reaches_iff {method : Method} (declared : method ∈ schema.methods) :
    config.Reaches schema request method ↔ calledName request.path = method.name := by
  have apart : RustServer.otherwise ≠ (Arm.ofMethod config method).fragment := by
    rintro ⟨⟩
  have told : ∀ other ∈ schema.methods.find? (·.name == calledName request.path),
      (Arm.ofMethod config other).fragment = (Arm.ofMethod config method).fragment →
        other = method := by
    intro other found same
    have listed := List.mem_of_find?_eq_some found
    have route := @bind_armRoute? (.ofMethod config other) (named.methods other listed).1
    rw [same, @bind_armRoute? (.ofMethod config method) (named.methods method declared).1] at route
    exact List.inj_on_of_nodup_map names listed declared (Option.some.inj route).symm
  rw [Reaches, reachedArm?_serverFile named config post, Option.some.injEq,
    getD_map_eq_iff (fun method => (Arm.ofMethod config method).fragment) apart told,
    find?_eq_some_iff_of_nodup names]
  exact ⟨fun chosen => chosen.2.symm, fun same => ⟨declared, same.symm⟩⟩

/-- Where no method has the name that is called, none is. -/
theorem RustServer.refuses_of_ne
    (other : ∀ method ∈ schema.methods, calledName request.path ≠ method.name) :
    config.Refuses schema request ∧
      ∀ {σ : Type} (service : Dispatching.Implementation σ) (state : σ),
        Dispatching.run service (config.arms schema) request state =
          Dispatching.refuse service state := by
  have none : schema.methods.find? (·.name == calledName request.path) = none := by
    rw [List.find?_eq_none]
    intro method declared same
    exact other method declared (eq_of_beq same).symm
  refine ⟨?_, fun service state => ?_⟩
  · rw [Refuses, reachedArm?_serverFile named config post, none]
    rfl
  · have noArm : ((config.arms schema).find? fun arm => arm.route == calledName request.path) =
        Option.none := by
      rw [arms, List.find?_map, Option.map_eq_none_iff]
      exact none
    rw [Dispatching.run_eq, Request.route, if_pos post]
    simp only [noArm]

end Rust

section Go

variable (config : GoServer) {path : String}

include names in
theorem GoServer.reaches_iff {method : Method} (declared : method ∈ schema.methods) :
    config.Reaches schema path method ↔ path = "/" ++ method.name := by
  have paths : (schema.methods.map fun method => "/" ++ method.name).Nodup := by
    rw [← Function.comp_def ("/" ++ ·) Method.name, ← List.map_map]
    exact names.map fun _ _ => (String.append_right_inj "/").mp
  have apart : config.otherwise ≠ config.methodCase method := by
    intro same
    have sameRow : "default:" = caseRow method := Fragment.line.inj (List.cons.inj same).1
    simp [caseRow, ← String.toList_inj] at sameRow
  have told : ∀ other ∈ schema.methods.find? (fun method => "/" ++ method.name == path),
      config.methodCase other = config.methodCase method → other = method := by
    intro other found same
    have listed := List.mem_of_find?_eq_some found
    have sameRow : caseRow other = caseRow method := Fragment.line.inj (List.cons.inj same).1
    have samePath := congrArg casePath? sameRow
    rw [casePath?_case (named.methods other listed).1,
      casePath?_case (named.methods method declared).1, Option.some.injEq] at samePath
    exact List.inj_on_of_nodup_map names listed declared ((String.append_right_inj "/").mp samePath)
  rw [Reaches, reachedCase?_file config named, Option.some.injEq, getD_map_eq_iff _ apart told,
    find?_eq_some_iff_of_nodup paths]
  exact ⟨fun chosen => chosen.2.symm, fun same => ⟨declared, same.symm⟩⟩

theorem GoServer.refuses_of_ne (other : ∀ method ∈ schema.methods, path ≠ "/" ++ method.name) :
    config.Refuses schema path := by
  have none : (schema.methods.find? fun method => "/" ++ method.name == path) = none := by
    rw [List.find?_eq_none]
    intro method declared same
    exact other method declared (eq_of_beq same).symm
  rw [Refuses, reachedCase?_file config named, none]
  rfl

end Go

/-- A call reaches a method in Rust when slashes stand in front of its name, at least one. -/
theorem RustServer.reaches_iff_slashes (config : RustServer) {request : Request}
    (names : (schema.methods.map Method.name).Nodup) (post : request.verb = "POST")
    {method : Method} (declared : method ∈ schema.methods) :
    config.Reaches schema request method ↔
      ∃ count, request.path = slashes (count + 1) ++ method.name := by
  have identifier := (named.methods method declared).1
  rw [reaches_iff named names config post declared, calledName_eq_iff (head?_ne_slash identifier)]
  constructor
  · rintro ⟨count, spelled⟩
    cases count with
    | zero =>
        have noSlash : request.path = method.name := by
          rw [spelled, show slashes 0 = "" by decide, String.empty_append]
        exact absurd noSlash (Request.path_ne identifier)
    | succ count => exact ⟨count, spelled⟩
  · rintro ⟨count, spelled⟩
    exact ⟨count + 1, spelled⟩

end Schema

def dimCall : Request := { target := "/dim" }

def blinkCall : Request := { target := "//blink" }

end RpcSchema
