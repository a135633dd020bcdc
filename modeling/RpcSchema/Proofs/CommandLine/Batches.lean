import RpcSchema.CommandLine.Run
import RpcSchema.Proofs.Documentation.Paths
import RpcSchema.Proofs.Files.Delivery
import RpcSchema.Target

/-!
# Files that a command returns

What a generating command returns is a single file, a page for each part of the documentation, or a
server with its stub. Several files always lie equally deep, so that none is in the way of another;
and only the file of a C# client, whose name is given on the command line, may lie outside the
directory it is meant for.
-/

namespace RpcSchema

open Files

/-- The files of a generator. -/
inductive IsBatch : List GeneratedFile → Prop
  | single {file : GeneratedFile} (always : file.overwrite = .always) : IsBatch [file]
  | pages {files : List GeneratedFile} {depth : Nat} (several : 2 ≤ files.length)
      (always : ∀ file ∈ files, file.overwrite = .always)
      (inner : ∀ file ∈ files, IsInner file.path)
      (equal : ∀ file ∈ files, (Path.ofText file.path).steps.length = depth + 1) : IsBatch files
  | service (server stub : String) :
      IsBatch [
        { path := "server.rs", content := server },
        { path := "service_impl.rs", content := stub, overwrite := .ifMissing }]

namespace Backend

theorem emit_of_done {name : String} {emit : Schema → Except GenerateError (List GeneratedFile)}
    {schema : Schema} {files : List GeneratedFile}
    (done : (ofEmit name emit).generate schema = .done files) : emit schema = .ok files := by
  rw [generate] at done
  split at done
  · simp only [ofEmit] at done
    cases emitted : emit schema with
    | ok made =>
        rw [emitted] at done
        cases done
        rfl
    | error error =>
        rw [emitted] at done
        cases done
  · cases done

end Backend

namespace MarkdownDocs

variable {schema : Schema} {config : MarkdownDocs}

/-- A page of its own lies in one of two directories. -/
theorem exists_steps_perFile (named : schema.IsNamed) {path : String}
    (member : path ∈ (config.perFile schema).map Prod.fst) :
    ∃ directory ∈ ["types", "methods"], ∃ name : String,
      (Path.ofText path).steps = [directory, name ++ ".md"] := by
  obtain ⟨page, listed, rfl⟩ := List.mem_map.mp member
  have lies := List.mem_map_of_mem (f := fun page => (Path.ofText page.1).steps) listed
  rw [steps_perFile named, List.mem_append, List.mem_map, List.mem_map] at lies
  rcases lies with ⟨name, -, steps⟩ | ⟨name, -, steps⟩
  · exact ⟨"types", by decide, name, steps.symm⟩
  · exact ⟨"methods", by decide, name, steps.symm⟩

theorem isInner_perFile (named : schema.IsNamed) {path : String}
    (member : path ∈ (config.perFile schema).map Prod.fst) :
    IsInner path ∧ (Path.ofText path).steps.length = 2 := by
  obtain ⟨directory, isDirectory, name, steps⟩ := exists_steps_perFile named member
  refine ⟨⟨relative_perFile member, ?_⟩, by rw [steps]; rfl⟩
  have noDirectory : ∀ directory ∈ ["types", "methods"], ".." ≠ directory := by decide
  rw [steps, List.mem_cons, List.mem_singleton, not_or]
  exact ⟨noDirectory directory isDirectory, (page_ne_outwards name).symm⟩

theorem isBatch_emit (config : MarkdownDocs) (named : schema.IsNamed) :
    IsBatch (config.emit schema) ∧ ∀ file ∈ config.emit schema, IsInner file.path := by
  have paths : ∀ file ∈ config.emit schema, file.path ∈ (config.pages schema).map Prod.fst := by
    intro file member
    obtain ⟨page, listed, rfl⟩ := List.mem_map.mp member
    exact List.mem_map_of_mem listed
  have always : ∀ file ∈ config.emit schema, file.overwrite = .always := by
    intro file member
    obtain ⟨page, listed, rfl⟩ := List.mem_map.mp member
    rfl
  have count : (config.emit schema).length = (config.pages schema).length := List.length_map _
  rw [pages] at paths count
  cases layout : config.layout with
  | perFile =>
      rw [layout] at paths count
      have inner := fun file member => isInner_perFile named (paths file member)
      refine ⟨.pages ?_ always (fun file member => (inner file member).1)
        (fun file member => (inner file member).2), fun file member => (inner file member).1⟩
      rw [count, perFile]
      simp only [List.length_append, List.length_singleton]
      omega
  | singlePage =>
      rw [layout] at paths count
      have inner : ∀ path ∈ ["types.md", "methods.md"],
          IsInner path ∧ (Path.ofText path).steps.length = 0 + 1 := by decide
      exact ⟨.pages count.ge always (fun file member => (inner _ (paths file member)).1)
        (fun file member => (inner _ (paths file member)).2),
        fun file member => (inner _ (paths file member)).1⟩

end MarkdownDocs

/-- One file at a fixed path. -/
theorem isBatch_of_path {path : String} (inner : IsInner path) (content : String) :
    IsBatch [{ path := path, content := content }] ∧
      ∀ file ∈ [({ path := path, content := content } : GeneratedFile)], IsInner file.path :=
  ⟨.single rfl, List.forall_mem_singleton.mpr inner⟩

/-- The one file that is made of what could be generated. -/
theorem exists_of_bind {α : Type} {generated : Except GenerateError α} {make : α → GeneratedFile}
    {files : List GeneratedFile}
    (made : (generated >>= fun code => pure [make code]) = .ok files) :
    ∃ code, files = [make code] := by
  cases generated with
  | ok code =>
      cases made
      exact ⟨code, rfl⟩
  | error error => cases made

/-- What a generator returns, and where its files are meant to lie. -/
theorem Target.isBatch (target : Target) {schema : Schema} (named : schema.IsNamed)
    {files : List GeneratedFile} (done : target.backend.generate schema = .done files) :
    IsBatch files ∧
      (target.backend.name ≠ "dotnet-client" → ∀ file ∈ files, IsInner file.path) := by
  cases target with
  | goTypes config | rustTypes config | tsTypes =>
      obtain ⟨file, rfl⟩ := exists_of_bind (Backend.emit_of_done done)
      exact (isBatch_of_path (by decide) _).imp_right fun inner _ => inner
  | goServer config | goClient config | tsClient config | rustClient config =>
      cases Backend.emit_of_done done
      exact (isBatch_of_path (by decide) _).imp_right fun inner _ => inner
  | rustServer config =>
      cases Backend.emit_of_done done
      have server : IsInner "server.rs" := by decide
      have stub : IsInner "service_impl.rs" := by decide
      exact ⟨.service _ _, fun _ =>
        List.forall_mem_cons.mpr ⟨server, List.forall_mem_singleton.mpr stub⟩⟩
  | csClient config =>
      obtain ⟨classes, rfl⟩ := exists_of_bind (Backend.emit_of_done done)
      exact ⟨.single rfl, fun named => absurd rfl named⟩
  | markdownDocs config =>
      cases Backend.emit_of_done done
      exact (config.isBatch_emit named).imp_right fun inner _ => inner

namespace IsBatch

variable {files : List GeneratedFile}

theorem length_pos (batch : IsBatch files) : 0 < files.length := by
  cases batch with
  | single => exact Nat.one_pos
  | pages several => omega
  | service => exact Nat.two_pos

/-- Files that lie equally deep in a directory are apart. -/
theorem apart_of_equal {depth : Nat} (inner : ∀ file ∈ files, IsInner file.path)
    (equal : ∀ file ∈ files, (Path.ofText file.path).steps.length = depth + 1)
    (working : Location) (directory : String) :
    ∀ file ∈ files, ∀ other ∈ files,
      file.place working directory ∈ other.way working directory →
        file.place working directory ∈ file.way working directory := by
  intro file member other alsoMember onWay
  have nonempty : (Path.ofText file.path).steps ≠ [] := by
    rw [← List.length_pos_iff, equal file member]
    exact Nat.succ_pos depth
  exact resolve_mem_crossed working directory (inner file member) (inner other alsoMember) nonempty
    ((equal other alsoMember).trans (equal file member).symm) onWay

/-- None of the files lies on the way of another, unless it already lies on its own. -/
theorem apart (batch : IsBatch files) (working : Location) (directory : String) :
    ∀ file ∈ files, ∀ other ∈ files,
      file.place working directory ∈ other.way working directory →
        file.place working directory ∈ file.way working directory := by
  cases batch with
  | single always =>
      intro file member other alsoMember
      rw [List.mem_singleton.mp member, List.mem_singleton.mp alsoMember]
      exact id
  | pages several always inner equal => exact apart_of_equal inner equal working directory
  | service server stub =>
      have inner : IsInner "server.rs" ∧ IsInner "service_impl.rs" := by decide
      exact apart_of_equal (by simpa using inner) (by simpa using ⟨rfl, rfl⟩) working directory

end IsBatch

namespace CommandLine

/-! ## Command lines -/

theorem exists_target : ∀ generator ∈ generators, ∀ settings,
    ∃ target : Target, generator.backend settings = target.backend := by
  rw [generators]
  simp only [List.forall_mem_cons]
  exact ⟨fun _ => ⟨.goTypes _, rfl⟩, fun _ => ⟨.goServer _, rfl⟩, fun _ => ⟨.goClient _, rfl⟩,
    fun _ => ⟨.tsTypes, rfl⟩, fun _ => ⟨.tsClient _, rfl⟩, fun _ => ⟨.rustTypes _, rfl⟩,
    fun _ => ⟨.rustServer _, rfl⟩, fun _ => ⟨.rustClient _, rfl⟩, fun _ => ⟨.csClient _, rfl⟩,
    fun _ => ⟨.markdownDocs _, rfl⟩, fun _ absent => absurd absent List.not_mem_nil⟩

/-- Whatever is given on a command line that generates, it runs one of the generators. -/
theorem exists_target_of_arguments {arguments : List String} {source : SchemaSource}
    {output : Option String} {backend : Backend}
    (parsed : Command.ofArguments? arguments = some (.generate source output backend)) :
    ∃ target : Target, backend = target.backend := by
  cases arguments with
  | nil => cases parsed
  | cons first rest =>
      rw [Command.ofArguments?] at parsed
      split at parsed
      · cases parsed
      · split at parsed
        · obtain ⟨settings, -, isCheck⟩ := Option.bind_eq_some_iff.mp parsed
          cases isCheck
        · obtain ⟨generator, found, read⟩ := Option.bind_eq_some_iff.mp parsed
          obtain ⟨settings, -, isGenerate⟩ := Option.bind_eq_some_iff.mp read
          cases isGenerate
          exact exists_target generator (List.mem_of_find?_eq_some found) settings

/-- Validation leaves the schema as it is. -/
theorem schema_of_run {phase : ValidatePhase} {schema : Schema} {context : Context}
    (ran : Pipeline.run ⟨phase, []⟩ schema = .ok context) : context.schema = schema := by
  rw [Pipeline.run, runPhases] at ran
  split at ran
  · cases ran
  · next validated =>
    cases ran
    exact (congrArg (fun result => result.1.schema) validated).symm

/-- The schema of a source is what its file has, and its names are proper. -/
theorem isNamed_of_source {source : SchemaSource} {content : Option ByteArray} {schema : Schema}
    (loaded : source.load content = .ok schema) : schema.IsNamed := by
  rw [SchemaSource.load] at loaded
  split at loaded
  · cases loaded
  · next read =>
    dsimp only at loaded
    split at loaded
    · next context ran =>
      cases loaded
      rw [schema_of_run ran]
      rw [loadFile] at read
      split at read
      · exact isNamed_of_load read
      · cases read
    · cases loaded

end CommandLine

end RpcSchema
