import RpcSchema.Proofs.CommandLine.Batches

/-!
# What a run leaves behind

A run that generates code either fails before it has any effect, or prints a single file, or puts
files below a directory. What it puts there is all that it changes, apart from directories that it
makes.
-/

namespace RpcSchema

open Files

namespace CommandLine

/-- What a run leaves that puts files below a directory. -/
structure Leaves (directory : String) (files : List GeneratedFile) (tree : Tree)
    (result : Report × Tree) : Prop where
  /-- All files are delivered, unless the tree does not take one of them. -/
  done : (∀ file ∈ files, (file.deliver directory tree).1 ≠ .failed) → result.1.error = none
  /-- A run that fails says which file the tree does not take. -/
  failure : result.1.error = none ∨
    ∃ file ∈ files, result.1.error = some (.unwritable (file.destination directory))
  /-- Elsewhere nothing changes, apart from directories that are made. -/
  elsewhere : ∀ location, (∀ file ∈ files, file.place tree.working directory ≠ location) →
    Tree.entry? result.2 location = tree.entry? location ∨
      tree.entry? location = none ∧ Tree.entry? result.2 location = some .directory
  /-- A file that replaces what is there is written in its turn, and stays unless another one comes
  into its place. -/
  written : result.1.error = none → ∀ front file rest, files = front ++ file :: rest →
    file.overwrite = .always →
      (file.deliver directory (deliverAll directory front tree).2).1 = .written ∧
      ((∀ other ∈ rest,
        other.place tree.working directory ≠ file.place tree.working directory) →
      Tree.entry? result.2 (file.place tree.working directory) = some (.file file.content.toUTF8))
  /-- What is in the place of any other file stays. -/
  kept : result.1.error = none → ∀ file ∈ files, file.overwrite = .ifMissing →
    ∀ entry, tree.entry? (file.place tree.working directory) = some entry →
      Tree.entry? result.2 (file.place tree.working directory) = some entry
  /-- Where nothing is, such a file is written as well. -/
  filled : result.1.error = none → ∀ file ∈ files, file.overwrite = .ifMissing →
    (file.deliver directory tree).1 ≠ .failed →
    tree.entry? (file.place tree.working directory) = none →
      Tree.entry? result.2 (file.place tree.working directory) = some (.file file.content.toUTF8)

section Leaves

variable {files : List GeneratedFile} {tree : Tree} (directory : String)

/-- What is known of files in general. -/
theorem leaves_of_apart
    (apart : ∀ file ∈ files, ∀ other ∈ files,
      file.place tree.working directory ∈ other.way tree.working directory →
        file.place tree.working directory ∈ file.way tree.working directory)
    (beside : ∀ file ∈ files, file.overwrite = .ifMissing →
      (deliverAll directory files tree).1.error = none →
      (∀ entry, tree.entry? (file.place tree.working directory) = some entry →
        Tree.entry? (deliverAll directory files tree).2 (file.place tree.working directory) =
          some entry) ∧
      ((file.deliver directory tree).1 ≠ .failed →
        tree.entry? (file.place tree.working directory) = none →
        Tree.entry? (deliverAll directory files tree).2 (file.place tree.working directory) =
          some (.file file.content.toUTF8))) :
    Leaves directory files tree (deliverAll directory files tree) where
  done delivered := deliverAll_done delivered apart
  failure := deliverAll_error directory files tree
  elsewhere location apart := by
    refine (deliverAll_grows directory files tree).entry_of_notMem fun member => ?_
    obtain ⟨file, listed, same⟩ := List.mem_map.mp member
    exact apart file listed same
  written done front file rest split always := by
    subst split
    exact written_of_always done always
  kept done file member keeps := (beside file member keeps done).1
  filled done file member keeps := (beside file member keeps done).2

/-- The files of a generator are delivered. -/
theorem leaves_of_isBatch (batch : IsBatch files) (start : tree.isDirectory tree.working = true) :
    Leaves directory files tree (deliverAll directory files tree) := by
  refine leaves_of_apart directory (batch.apart tree.working directory) ?_
  cases batch with
  | single always =>
      intro file member keeps
      rw [List.mem_singleton.mp member, always] at keeps
      cases keeps
  | pages several always =>
      intro file member keeps
      rw [always file member] at keeps
      cases keeps
  | service server stub =>
      intro file member keeps done
      rcases List.mem_cons.mp member with rfl | isStub
      · cases keeps
      · obtain rfl := List.mem_singleton.mp isStub
        have inner : IsInner "server.rs" ∧ IsInner "service_impl.rs" := by decide
        have steps : (Path.ofText "server.rs").steps = ["server.rs"] ∧
            (Path.ofText "service_impl.rs").steps = ["service_impl.rs"] := by decide
        refine deliverAll_beside rfl rfl ?_ ?_ start done
        · rw [GeneratedFile.way, GeneratedFile.way, GeneratedFile.destination,
            GeneratedFile.destination, crossed_join _ _ inner.2 (by decide),
            crossed_join _ _ inner.1 (by decide), steps.1, steps.2]
          rfl
        · rw [GeneratedFile.place, GeneratedFile.place, GeneratedFile.destination,
            GeneratedFile.destination, resolve_join _ _ inner.2, resolve_join _ _ inner.1,
            steps.1, steps.2]
          exact fun same => absurd (List.append_cancel_left same) (by decide)

end Leaves

/-! ## Plans -/

section Plan

variable {source : SchemaSource} {output : Option String} {backend : Backend}
  {content : Option ByteArray} {schema : Schema} {files : List GeneratedFile}

theorem plan_of_unloaded {error : CommandError} (failed : source.load content = .error error) :
    (Command.generate source output backend).plan content = .error error := by
  rw [Command.plan, failed]
  rfl

theorem plan_of_error {error : GenerateError} (loaded : source.load content = .ok schema)
    (failed : (backend.generate schema).files backend.name = .error error) :
    (Command.generate source output backend).plan content =
      .error (.generate backend.name error) := by
  rw [Command.plan, loaded]
  simp only [bind, Except.bind, failed]
  rfl

theorem plan_of_done (loaded : source.load content = .ok schema)
    (done : backend.generate schema = .done files) :
    (Command.generate source output backend).plan content =
      Plan.ofFiles backend.name output files := by
  rw [Command.plan, loaded]
  simp only [bind, Except.bind, done]
  rfl

theorem ofFiles_of_several (name : String) (several : 2 ≤ files.length) :
    Plan.ofFiles name none files = .error (.needsDirectory name files.length) := by
  match files, several with
  | _ :: _ :: _, _ => rfl

end Plan

section Run

variable {arguments : List String} {command : Command} {tree : Tree}

theorem run_of_plan {plan : Plan} (parsed : Command.ofArguments? arguments = some command)
    (planned : command.plan (command.schemaPath?.bind tree.read?) = .ok plan) :
    run arguments tree = plan.run tree := by
  simp only [run, parsed, Command.run, planned]

/-- Without a plan there is no effect. -/
theorem run_of_error {error : CommandError} (parsed : Command.ofArguments? arguments = some command)
    (failed : command.plan (command.schemaPath?.bind tree.read?) = .error error) :
    run arguments tree = ({ error := some error }, tree) := by
  simp only [run, parsed, Command.run, failed]

/-- With a directory, what is generated is delivered. -/
theorem run_of_output {source : SchemaSource} {directory : String} {backend : Backend}
    {schema : Schema} {files : List GeneratedFile}
    (parsed : Command.ofArguments? arguments = some (.generate source (some directory) backend))
    (loaded : source.load (tree.read? source.path) = .ok schema)
    (done : backend.generate schema = .done files) :
    run arguments tree = deliverAll directory files tree :=
  run_of_plan parsed (plan_of_done loaded done)

end Run

/-! ## Runs that generate code -/

/-- A run that generates code. When the schema cannot be loaded or is refused, when nothing is
generated from it, and when there are several files but no directory for them, nothing is printed
and nothing is written. Without a directory, a single file is printed and nothing is written. With
one, all files are written, or kept when something was in their place and they do not replace it,
and nothing else changes but for directories that are made. Files lie below the directory, unless
that of a C# client is named otherwise. -/
theorem run_of_generate {arguments : List String} {source : SchemaSource} {output : Option String}
    {backend : Backend} {tree : Tree}
    (parsed : Command.ofArguments? arguments = some (.generate source output backend))
    (start : tree.isDirectory tree.working = true) :
    (∀ error, source.load (tree.read? source.path) = .error error →
      run arguments tree = ({ error := some error }, tree)) ∧
    ∀ schema, source.load (tree.read? source.path) = .ok schema →
      (∀ error, (backend.generate schema).files backend.name = .error error →
        run arguments tree = ({ error := some (.generate backend.name error) }, tree)) ∧
      ∀ files, backend.generate schema = .done files →
        (output = none → 2 ≤ files.length →
          run arguments tree =
            ({ error := some (.needsDirectory backend.name files.length) }, tree)) ∧
        (output = none → files.length < 2 →
          ∃ file, files = [file] ∧ run arguments tree = ({ output := file.content }, tree)) ∧
        ∀ directory, output = some directory →
          Leaves directory files tree (run arguments tree) ∧
          (∀ file ∈ files, IsInner file.path →
            file.place tree.working directory =
              resolve tree.working directory ++ (Path.ofText file.path).steps) ∧
          (backend.name ≠ "dotnet-client" → ∀ file ∈ files, IsInner file.path) := by
  obtain ⟨target, rfl⟩ := exists_target_of_arguments parsed
  refine ⟨fun error failed => run_of_error parsed (plan_of_unloaded failed),
    fun schema loaded => ⟨fun error failed => run_of_error parsed (plan_of_error loaded failed),
      fun files done => ?_⟩⟩
  obtain ⟨batch, inner⟩ := target.isBatch (isNamed_of_source loaded) done
  have planned : (Command.generate source output target.backend).plan (tree.read? source.path) =
      Plan.ofFiles target.backend.name output files := plan_of_done loaded done
  refine ⟨?_, ?_, ?_⟩
  · rintro rfl several
    exact run_of_error parsed (planned.trans (ofFiles_of_several _ several))
  · rintro rfl few
    have single : files.length = 1 := by
      have some := batch.length_pos
      omega
    obtain ⟨file, rfl⟩ := List.length_eq_one_iff.mp single
    exact ⟨file, rfl, run_of_plan parsed planned⟩
  · rintro directory rfl
    rw [run_of_output parsed loaded done]
    exact ⟨leaves_of_isBatch directory batch start,
      fun file _ isInner => resolve_join tree.working directory isInner, inner⟩

/-! ## A bell -/

theorem fromUTF8?_toUTF8 (text : String) : String.fromUTF8? text.toUTF8 = some text := by
  rw [String.fromUTF8?]
  exact dif_pos text.isValidUTF8

/-- A schema that validation has nothing against is loaded from its file. -/
theorem load_of_clean {source : SchemaSource} {text : String} {schema : Schema}
    (loaded : RpcSchema.load text = .ok schema)
    (clean : ((ValidatePhase.standard.groupPolicy source.policy).toPhase.run
      (.ofSchema schema)).1.errors = []) :
    source.load (some text.toUTF8) = .ok schema := by
  have read : loadFile source.path (some text.toUTF8) = .ok schema := by
    rw [loadFile, Option.bind_some, fromUTF8?_toUTF8]
    exact loaded
  have ran := ValidatePhase.run_of_clean _ clean
  rw [SchemaSource.load, read]
  simp only [ran, schema_of_run ran]

def bell : Schema :=
  { name := "bell"
    version := "1"
    methods := [{ name := "ring" }] }

def bellText : String :=
  "\x7b\"name\":\"bell\",\"version\":\"1\",\"description\":\"\",\"groups\":[]," ++
    "\"types\":\x7b\x7d,\"methods\":[\x7b\"name\":\"ring\"\x7d]\x7d"

theorem load_bellText : RpcSchema.load bellText = .ok bell :=
  load_of_canonical ⟨by decide, by decide, by decide, by decide, by decide, by decide⟩
    (.append .literal .literal) (by decide +kernel) (eq_ok_of_toOption (by decide +kernel))

theorem load_bell {source : SchemaSource} :
    source.load (some bellText.toUTF8) = .ok bell :=
  load_of_clean load_bellText (by cases source.policy <;> decide +kernel)

/-- A directory with the schema, and one with a stub that somebody has edited. -/
def bellTree : Tree :=
  { entries := [
      (["schema.json"], .file bellText.toUTF8),
      (["out"], .directory),
      (["out", "service_impl.rs"], .file "edited".toUTF8)] }

/-- The server of the bell is written beside the stub that is there, which stays. -/
theorem run_of_generate_bell :
    ∃ server : String,
      (run ["rust-server", "-o", "out"] bellTree).1.error = none ∧
      Tree.entry? (run ["rust-server", "-o", "out"] bellTree).2 ["out", "server.rs"] =
        some (.file server.toUTF8) ∧
      Tree.entry? (run ["rust-server", "-o", "out"] bellTree).2 ["out", "service_impl.rs"] =
        some (.file "edited".toUTF8) := by
  have parsed : Command.ofArguments? ["rust-server", "-o", "out"] =
      some (.generate {} (some "out") (RustServer.backend {})) := rfl
  have start : bellTree.isDirectory bellTree.working = true := rfl
  have loaded : ({} : SchemaSource).load (bellTree.read? "schema.json") = .ok bell := load_bell
  obtain ⟨server, stub, generated⟩ : ∃ server stub, (RustServer.backend {}).generate bell = .done [
      { path := "server.rs", content := server },
      { path := "service_impl.rs", content := stub, overwrite := .ifMissing }] := ⟨_, _, rfl⟩
  have leaves := ((((run_of_generate parsed start).2 bell loaded).2 _ generated).2.2 "out" rfl).1
  have writable : (bellTree.write (join "out" "server.rs") .empty).1 = true := by decide +kernel
  have isThere : bellTree.contains (join "out" "service_impl.rs") = true := by decide +kernel
  have done := leaves.done (List.forall_mem_cons.mpr
    ⟨GeneratedFile.deliver_ne_failed_of_write writable, List.forall_mem_singleton.mpr
      (GeneratedFile.deliver_ne_failed_of_contains rfl isThere)⟩)
  have places : resolve [] (join "out" "server.rs") = ["out", "server.rs"] ∧
      resolve [] (join "out" "service_impl.rs") = ["out", "service_impl.rs"] := by decide
  have written := (leaves.written done [] _ _ rfl rfl).2 (List.forall_mem_singleton.mpr fun same =>
    absurd (places.2.symm.trans (same.trans places.1)) (by decide))
  have kept := leaves.kept done _ (List.mem_cons_of_mem _ List.mem_cons_self) rfl
    (.file "edited".toUTF8)
  simp only [GeneratedFile.place] at written kept
  exact ⟨server, done, places.1 ▸ written, places.2 ▸ kept (places.2 ▸ rfl)⟩

theorem generate_escaping :
    ∃ client, (CsClient.backend { className := "../x" }).generate bell =
      .done [{ path := "../x.cs", content := client }] := by
  have references : bell.checkReferences = .ok () := rfl
  have models : bell.models.mapM (CsClient.declare bell) = .ok [] := rfl
  obtain ⟨classes, declared⟩ : ∃ classes,
      (CsClient.classes { className := "../x" } bell) = .ok classes := by
    rw [CsClient.classes, models]
    exact ⟨_, rfl⟩
  have path : "../x" ++ ".cs" = "../x.cs" := by decide
  have emitted : CsClient.emit { className := "../x" } bell =
      .ok [{
        path := "../x.cs"
        content := CsCode.source (CsClient.fragments { className := "../x" } classes) }] := by
    rw [CsClient.emit, declared, ← path]
    rfl
  refine ⟨CsCode.source (CsClient.fragments { className := "../x" } classes), ?_⟩
  rw [Backend.generate, references]
  simp only [CsClient.backend, Backend.ofEmit, emitted]
  rfl

/-- The file of a C# client goes where its name leads, even out of the directory. -/
theorem run_escapes_bell :
    bellTree.isDirectory bellTree.working = true ∧ bellTree.entry? ["x.cs"] = none ∧
      (run ["dotnet-client", "--class", "../x", "-o", "out"] bellTree).1.error = none ∧
      (∃ content, Tree.entry? (run ["dotnet-client", "--class", "../x", "-o", "out"] bellTree).2
        ["x.cs"] = some (.file content)) ∧
      ¬ resolve bellTree.working "out" <+: ["x.cs"] := by
  have parsed : Command.ofArguments? ["dotnet-client", "--class", "../x", "-o", "out"] =
      some (.generate {} (some "out") (CsClient.backend { className := "../x" })) := rfl
  have loaded : ({} : SchemaSource).load (bellTree.read? "schema.json") = .ok bell := load_bell
  obtain ⟨client, generated⟩ := generate_escaping
  have writable : (bellTree.write (join "out" "../x.cs") .empty).1 = true := by decide +kernel
  have start : bellTree.isDirectory bellTree.working = true := rfl
  rw [run_of_output parsed loaded generated]
  have leaves := leaves_of_isBatch "out"
    (.single rfl : IsBatch [{ path := "../x.cs", content := client }]) start
  have done := leaves.done (List.forall_mem_singleton.mpr
    (GeneratedFile.deliver_ne_failed_of_write writable))
  have place : resolve [] (join "out" "../x.cs") = ["x.cs"] := by decide
  have written := (leaves.written done [] _ _ rfl rfl).2 (fun _ absent => nomatch absent)
  simp only [GeneratedFile.place] at written
  exact ⟨start, rfl, done, ⟨_, place ▸ written⟩, by decide⟩

end CommandLine

end RpcSchema
