import RpcSchema.Proofs.CommandLine.Batches

/-!
# Paths of generated files

The key of a type can be any text, but a file is named after its words alone: what stands between
words stays out, and no change of case makes a mark of a letter. So whatever the types of a schema
are called, no generated file lies outside the directory it is written to. Only the class of a C#
client is not a name of the schema, and the path is what was asked for.
-/

namespace RpcSchema

open Files Naming Text

namespace Files

/-- A path that leads inwards on every system: names between single slashes, and no mark that starts
at a root or a drive. -/
structure IsNested (path : String) : Prop where
  parts : ∀ part ∈ splitSlashes path.toList, part ≠ [] ∧ part ≠ ['.'] ∧ part ≠ ['.', '.']
  noBackslash : '\\' ∉ path.toList
  noDrive : ':' ∉ path.toList

instance (path : String) : Decidable (IsNested path) :=
  decidable_of_iff (_ ∧ _ ∧ _)
    ⟨fun nested => ⟨nested.1, nested.2.1, nested.2.2⟩,
      fun nested => ⟨nested.parts, nested.noBackslash, nested.noDrive⟩⟩

namespace IsNested

variable {path : String}

/-- Every part is a step. -/
theorem steps_eq (nested : IsNested path) :
    (Path.ofText path).steps = (splitSlashes path.toList).map String.ofList := by
  have leads : ∀ part ∈ splitSlashes path.toList, (!isIdle part) = true := by
    intro part member
    obtain ⟨nonempty, noDot, -⟩ := nested.parts part member
    simp [isIdle, nonempty, noDot]
  rw [Path.ofText, List.filter_eq_self.mpr leads]

theorem isInner (nested : IsNested path) : IsInner path := by
  constructor
  · intro atRoot
    obtain ⟨rest, spelled⟩ := List.head?_eq_some_iff.mp atRoot
    have first : [] ∈ splitSlashes path.toList := by
      rw [spelled, splitSlashes, if_pos rfl]
      exact List.mem_cons_self
    exact (nested.parts [] first).1 rfl
  · rw [nested.steps_eq]
    intro member
    obtain ⟨part, listed, outwards⟩ := List.mem_map.mp member
    refine (nested.parts part listed).2.2 ?_
    rw [← String.toList_ofList (l := part), outwards]
    rfl

end IsNested

/-- A page with a plain name in a directory. -/
theorem isNested_page {directory name : String} (outer : IsNested directory)
    (plain : '/' ∉ name.toList ∧ '\\' ∉ name.toList ∧ ':' ∉ name.toList) :
    IsNested (directory ++ "/" ++ name ++ ".md") := by
  have spelled : (directory ++ "/" ++ name ++ ".md").toList =
      directory.toList ++ '/' :: (name.toList ++ ['.', 'm', 'd']) := by
    simp
  have single : '/' ∉ name.toList ++ ['.', 'm', 'd'] := by
    simpa using plain.1
  constructor
  · rw [spelled, splitSlashes_append, splitSlashes_of_not_mem single]
    refine List.forall_mem_append.mpr ⟨outer.parts, List.forall_mem_singleton.mpr ?_⟩
    -- The part is longer than a dot or two.
    have long : 3 ≤ (name.toList ++ ['.', 'm', 'd']).length := by simp
    exact ⟨fun same => by simp [same] at long, fun same => by simp [same] at long,
      fun same => by simp [same] at long⟩
  · simpa [spelled] using ⟨outer.noBackslash, plain.2.1⟩
  · simpa [spelled] using ⟨outer.noDrive, plain.2.2⟩

end Files

/-! ## Documentation -/

namespace MarkdownDocs

variable {schema : Schema} {config : MarkdownDocs}

theorem isNested_perFile (named : schema.IsNamed) :
    ∀ path ∈ (config.perFile schema).map Prod.fst, IsNested path := by
  have index : IsNested "types/index.md" ∧ IsNested "methods/index.md" := by decide
  rw [paths_perFile]
  refine List.forall_mem_append.mpr ⟨List.forall_mem_map.mpr ?_, List.forall_mem_map.mpr ?_⟩
  · refine List.forall_mem_cons.mpr ⟨index.1, List.forall_mem_map.mpr fun type _ => ?_⟩
    exact isNested_page (by decide) ⟨not_mem_exportedName (by decide) _ type.name,
      not_mem_exportedName (by decide) _ type.name, not_mem_exportedName (by decide) _ type.name⟩
  · refine List.forall_mem_cons.mpr ⟨index.2, List.forall_mem_map.mpr fun method visible => ?_⟩
    have identifier := (named.methods method (mem_methods.mp visible).1).1
    exact isNested_page (by decide) ⟨Code.not_mem_of_isIdentifier identifier (by decide),
      Code.not_mem_of_isIdentifier identifier (by decide),
      Code.not_mem_of_isIdentifier identifier (by decide)⟩

theorem isNested_emit (named : schema.IsNamed) :
    ∀ file ∈ config.emit schema, IsNested file.path := by
  refine List.forall_mem_map.mpr fun page listed => ?_
  rw [pages] at listed
  split at listed
  · exact isNested_perFile named _ (List.mem_map_of_mem listed)
  · have single : ∀ path ∈ ["types.md", "methods.md"], IsNested path := by decide
    exact single _ (List.mem_map_of_mem (f := Prod.fst) listed)

end MarkdownDocs

/-! ## All backends -/

theorem isNested_single {path : String} (nested : IsNested path) (content : String) :
    ∀ file ∈ [({ path := path, content := content } : GeneratedFile)], IsNested file.path :=
  List.forall_mem_singleton.mpr nested

/-- Files of backends, but for a C# client of another name, lie inside the directory. -/
theorem Target.isNested {target : Target}
    (usual : ∀ config, target = .csClient config → config.className = "Client") {schema : Schema}
    (named : schema.IsNamed) {files : List GeneratedFile}
    (done : target.backend.generate schema = .done files) : ∀ file ∈ files, IsNested file.path := by
  cases target with
  | goTypes config | rustTypes config | tsTypes =>
      obtain ⟨file, rfl⟩ := exists_of_bind (Backend.emit_of_done done)
      exact isNested_single (by decide) _
  | goServer config | goClient config | tsClient config | rustClient config =>
      cases Backend.emit_of_done done
      exact isNested_single (by decide) _
  | rustServer config =>
      cases Backend.emit_of_done done
      have server : IsNested "server.rs" := by decide
      have stub : IsNested "service_impl.rs" := by decide
      exact List.forall_mem_cons.mpr ⟨server, List.forall_mem_singleton.mpr stub⟩
  | csClient config =>
      obtain ⟨classes, rfl⟩ := exists_of_bind (Backend.emit_of_done done)
      rw [usual config rfl]
      exact isNested_single (by decide) _
  | markdownDocs config =>
      cases Backend.emit_of_done done
      exact MarkdownDocs.isNested_emit named

/-- Whatever the types of a loaded schema are called, every file of every backend has a path that
leads inwards, where the client of C# has its usual name. Below any directory, read in any place,
the file lies behind the directory, at the end of the names that its path has between slashes. -/
theorem files_stay_inside {text : String} {schema : Schema} (loaded : load text = .ok schema)
    {target : Target} (usual : ∀ config, target = .csClient config → config.className = "Client")
    {files : List GeneratedFile} (done : target.backend.generate schema = .done files) :
    ∀ file ∈ files, IsNested file.path ∧ ∀ working directory,
      file.place working directory =
        resolve working directory ++ (splitSlashes file.path.toList).map String.ofList := by
  intro file member
  have nested := target.isNested usual (isNamed_of_load loaded) done file member
  refine ⟨nested, fun working directory => ?_⟩
  rw [GeneratedFile.place, GeneratedFile.destination, resolve_join _ _ nested.isInner,
    nested.steps_eq]

/-- Types whose keys lead outwards, to a drive and to the root. -/
def burrow : Schema :=
  { name := "k"
    version := ""
    types := [
      ("../../up", { name := "../../up" }), ("..\\up", { name := "..\\up" }),
      ("/root", { name := "/root" }), ("C:\\x", { name := "C:\\x" })] }

def burrowText : String :=
  "\x7b\"name\":\"k\",\"version\":\"\",\"description\":\"\",\"groups\":[],\"methods\":[]," ++
    "\"types\":\x7b\"../../up\":\x7b\x7d,\"..\\\\up\":\x7b\x7d,\"/root\":\x7b\x7d," ++
    "\"C:\\\\x\":\x7b\x7d\x7d\x7d"

theorem files_stay_inside_burrow :
    load burrowText = .ok burrow ∧
      ∃ files, (Target.markdownDocs {}).backend.generate burrow = .done files ∧
        files.map GeneratedFile.path =
          ["types/index.md", "types/Up.md", "types/Up.md", "types/Root.md", "types/CX.md",
            "methods/index.md"] ∧
        ∀ file ∈ files, IsNested file.path := by
  have loads : load burrowText = .ok burrow :=
    load_of_canonical ⟨by decide, by decide, by decide, by decide, by decide, by decide⟩
      (.append (.append .literal .literal) .literal)
      (by decide +kernel) (eq_ok_of_toOption (by decide +kernel))
  have accepted : burrow.Accepted := .of_clean (.inl rfl) (by decide +kernel)
  have generated := MarkdownDocs.generate_eq {} accepted
  have usual : ∀ config, Target.markdownDocs {} = .csClient config →
      config.className = "Client" := nofun
  have inside := files_stay_inside loads usual generated
  exact ⟨loads, _, generated, by decide +kernel, fun file member => (inside file member).1⟩

end RpcSchema
