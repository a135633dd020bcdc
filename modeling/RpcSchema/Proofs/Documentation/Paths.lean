import Mathlib.Data.List.Nodup
import RpcSchema.Files.Delivery
import RpcSchema.Proofs.Documentation.Pages
import RpcSchema.Proofs.Schema.Equality

/-!
# Paths of documentation files

With a file for each type and method, a directory has the names of its pages and that of its index.
No type is documented under the name of the index, since exported names do not start in lower case;
but a method may have that name, and types may be exported under one. Apart from that, files never
take the place of one another, wherever they are written to.
-/

namespace RpcSchema

open Files MarkdownPage Naming Text

/-! ## Capitals -/

namespace Text

/-- A code point of another character than a lower-case ASCII letter. -/
def isRaised (code : Nat) : Bool := !isAsciiLower (Char.ofNat code)

theorem isRaised_of_le {code : Nat} (outside : 128 ≤ code) : isRaised code := by
  rw [isRaised, Bool.not_eq_true', isAsciiLower, Bool.and_eq_false_iff, decide_eq_false_iff_not,
    decide_eq_false_iff_not, Char.le_def, Char.le_def, UInt32.le_iff_toNat_le,
    UInt32.le_iff_toNat_le]
  have number := Char.toNat_ofNat code
  simp only [Char.toNat] at number
  have first : 'a'.val.toNat = 97 := rfl
  have last : 'z'.val.toNat = 122 := rfl
  split at number <;> omega

theorem isRaised_upperShifts : ∀ entry ∈ upperShifts.toList, entry.keeps isRaised := by
  decide +kernel

theorem isRaised_upperExpansions :
    ∀ entry ∈ upperExpansions.toList, entry.2 ≠ [] ∧ ∀ code ∈ entry.2, isRaised code := by
  decide +kernel

/-- In upper case a character is written with other characters than lower-case ASCII letters. -/
theorem upperChar_raised (c : Char) :
    upperChar c ≠ [] ∧ ∀ upper ∈ upperChar c, isAsciiLower upper = false := by
  by_cases ascii : c.val < 0x80
  · rw [upperChar, if_pos ascii]
    refine ⟨List.cons_ne_nil _ _, fun upper member => ?_⟩
    obtain rfl := List.mem_singleton.mp member
    split
    · next lower =>
      exact of_ascii (fun c => isAsciiLower c → isAsciiLower (Char.ofNat (c.toNat - 32)) = false)
        (by decide) ascii lower
    · next other => exact Bool.eq_false_iff.mpr other
  · rw [upperChar, if_neg ascii]
    split
    · next entry found =>
      obtain ⟨nonempty, raised⟩ := isRaised_upperExpansions entry
        (Array.mem_toList_iff.mpr (Array.mem_of_find?_eq_some found))
      refine ⟨by simpa using nonempty, List.forall_mem_map.mpr fun code member => ?_⟩
      simpa [isRaised] using raised code member
    · refine ⟨List.cons_ne_nil _ _, List.forall_mem_singleton.mpr ?_⟩
      have raised := holds_shiftCode (fun _ => isRaised_of_le) isRaised_upperShifts
        (Nat.le_of_not_lt ascii)
      simpa [isRaised] using raised

end Text

/-! ## Names of pages -/

/-- A capitalized word starts with no lower-case letter. -/
theorem head_capitalize {word : String} (nonempty : word ≠ "") :
    ∃ first rest, (capitalize word).toList = first :: rest ∧ isAsciiLower first = false := by
  cases spelled : word.toList with
  | nil => exact absurd (String.toList_eq_nil_iff.mp spelled) nonempty
  | cons c rest =>
      obtain ⟨written, raised⟩ := upperChar_raised c
      obtain ⟨first, others, upper⟩ := List.exists_cons_of_ne_nil written
      refine ⟨first, others ++ rest, ?_, raised first (upper ▸ List.mem_cons_self)⟩
      rw [toList_capitalize, spelled, capitalized, upper, List.cons_append]

theorem head_pascalCase {name : String} {first : Char} {rest : List Char}
    (spelled : (pascalCase name).toList = first :: rest) : isAsciiLower first = false := by
  cases found : words name with
  | nil => simp [pascalCase, found] at spelled
  | cons word others =>
      have nonempty := ne_empty_of_mem_words (found.symm ▸ List.mem_cons_self : word ∈ words name)
      obtain ⟨capital, behind, written, raised⟩ := head_capitalize nonempty
      rw [pascalCase, found, List.map_cons, String.join_cons, String.toList_append, written,
        List.cons_append] at spelled
      rwa [(List.cons.inj spelled).1] at raised

/-- No type is documented under the name of the index. -/
theorem docName_ne_index (name : String) : docName name ≠ "index" := by
  intro same
  rw [docName, Acronyms.exportedName, Acronyms.upcaseEnding] at same
  split at same
  · next entry found =>
    -- An acronym in capitals is no end of the word.
    have ends : (upperText entry).toList <:+ "index".toList :=
      ⟨_, (String.toList_append ..).symm.trans (congrArg String.toList same)⟩
    have apart : ∀ entry ∈ Acronyms.standard.entries,
        ¬ (upperText entry).toList <:+ "index".toList := by decide
    exact apart entry (Acronyms.mem_of_ending? found).1 ends
  · have lower := head_pascalCase (congrArg String.toList same)
    exact absurd lower (by decide)

/-! ## Places of pages -/

namespace MarkdownDocs

variable {schema : Schema} {config : MarkdownDocs}

/-- The names in the directory of types, that of the index first. -/
def typeNames (config : MarkdownDocs) (schema : Schema) : List String :=
  "index" :: (config.types schema).map fun type => docName type.name

/-- The names in the directory of methods, that of the index first. -/
def methodNames (config : MarkdownDocs) (schema : Schema) : List String :=
  "index" :: (config.methods schema).map Method.name

/-- The paths of the pages by their names. -/
theorem paths_perFile (config : MarkdownDocs) (schema : Schema) :
    (config.perFile schema).map Prod.fst =
      ((config.typeNames schema).map fun name => "types" ++ "/" ++ name ++ ".md") ++
        (config.methodNames schema).map fun name => "methods" ++ "/" ++ name ++ ".md" := by
  simp only [perFile, typeNames, methodNames, List.map_append, List.map_cons, List.map_map,
    List.cons_append, List.nil_append, List.append_assoc]
  rfl

theorem isPlain_of_mem_typeNames {name : String} (member : name ∈ config.typeNames schema) :
    IsPlain name := by
  rcases List.mem_cons.mp member with rfl | ofType
  · exact ⟨by decide, by decide⟩
  · obtain ⟨type, -, rfl⟩ := List.mem_map.mp ofType
    exact isPlain_docName type.name

theorem isPlain_of_mem_methodNames (named : schema.IsNamed) {name : String}
    (member : name ∈ config.methodNames schema) : IsPlain name := by
  rcases List.mem_cons.mp member with rfl | ofMethod
  · exact ⟨by decide, by decide⟩
  · obtain ⟨method, visible, rfl⟩ := List.mem_map.mp ofMethod
    exact (named.methods method (mem_methods.mp visible).1).isPlain

/-- Where the pages lie. -/
theorem steps_perFile (named : schema.IsNamed) :
    (config.perFile schema).map (fun entry => (Path.ofText entry.1).steps) =
      ((config.typeNames schema).map fun name => ["types", name ++ ".md"]) ++
        (config.methodNames schema).map fun name => ["methods", name ++ ".md"] := by
  have paths := congrArg (List.map fun path => (Path.ofText path).steps)
    (config.paths_perFile schema)
  simp only [List.map_map, List.map_append] at paths
  refine paths.trans (congrArg₂ _ (List.map_congr_left fun name member => ?_)
    (List.map_congr_left fun name member => ?_))
  · exact Path.steps_page "types" (isPlain_of_mem_typeNames member).1
  · exact Path.steps_page "methods" (isPlain_of_mem_methodNames named member).1

/-- Names are apart in both directories. -/
theorem nodup_names_iff (accepted : schema.Accepted) :
    (config.typeNames schema).Nodup ∧ (config.methodNames schema).Nodup ↔
      ((config.types schema).map fun type => docName type.name).Nodup ∧
        ∀ method ∈ config.methods schema, method.name ≠ "index" := by
  have types : "index" ∉ (config.types schema).map fun type => docName type.name := by
    rintro member
    obtain ⟨type, -, same⟩ := List.mem_map.mp member
    exact docName_ne_index type.name same
  have methods : ((config.methods schema).map Method.name).Nodup :=
    accepted.method_names_nodup.sublist (List.filter_sublist.map _)
  rw [typeNames, methodNames, List.nodup_cons, List.nodup_cons, and_iff_right types,
    and_iff_left methods]
  simp [eq_comm]

theorem steps_nodup_iff (named : schema.IsNamed) :
    ((config.perFile schema).map fun entry => (Path.ofText entry.1).steps).Nodup ↔
      (config.typeNames schema).Nodup ∧ (config.methodNames schema).Nodup := by
  have inDirectory : ∀ directory : String,
      Function.Injective fun name : String => [directory, name ++ ".md"] := by
    intro directory name other same
    simpa using same
  have apart : ((config.typeNames schema).map fun name => ["types", name ++ ".md"]).Disjoint
      ((config.methodNames schema).map fun name => ["methods", name ++ ".md"]) := by
    rintro steps ofTypes ofMethods
    obtain ⟨name, -, rfl⟩ := List.mem_map.mp ofTypes
    obtain ⟨other, -, same⟩ := List.mem_map.mp ofMethods
    exact absurd (List.cons.inj same).1 (by decide)
  rw [steps_perFile named, List.nodup_append', List.nodup_map_iff (inDirectory "types"),
    List.nodup_map_iff (inDirectory "methods"), and_iff_left apart]

theorem paths_nodup_iff (named : schema.IsNamed) :
    ((config.perFile schema).map Prod.fst).Nodup ↔
      (config.typeNames schema).Nodup ∧ (config.methodNames schema).Nodup := by
  constructor
  · intro distinct
    rw [paths_perFile] at distinct
    exact ⟨distinct.of_append_left.of_map _, distinct.of_append_right.of_map _⟩
  · intro distinct
    have places : (((config.perFile schema).map Prod.fst).map
        fun path => (Path.ofText path).steps).Nodup := by
      rw [List.map_map]
      exact (steps_nodup_iff named).mpr distinct
    exact places.of_map _

/-- No path starts at the root. -/
theorem relative_perFile {path : String} (member : path ∈ (config.perFile schema).map Prod.fst) :
    path.toList.head? ≠ some '/' := by
  rw [paths_perFile, List.mem_append, List.mem_map, List.mem_map] at member
  rcases member with ⟨name, -, rfl⟩ | ⟨name, -, rfl⟩ <;> simp

/-- Below any directory the pages lie behind the steps to it. -/
theorem steps_join_perFile (directory : String) :
    (config.perFile schema).map (fun entry => (Path.ofText (join directory entry.1)).steps) =
      ((config.perFile schema).map fun entry => (Path.ofText entry.1).steps).map
        ((Path.ofText directory).steps ++ ·) := by
  rw [List.map_map]
  exact List.map_congr_left fun entry member =>
    Path.steps_join directory (relative_perFile (List.mem_map_of_mem member))

end MarkdownDocs

/-- The files of documentation with a file for each type and method have distinct paths when no two
documented types have one exported name and no documented method has the name of the index, and only
then; and then they are written to distinct places below any directory. -/
theorem files_apart_iff {text : String} {schema : Schema} (loaded : load text = .ok schema)
    (accepted : schema.Accepted) {config : MarkdownDocs} (perFile : config.layout = .perFile) :
    ∃ files, config.backend.generate schema = .done files ∧
      ((files.map GeneratedFile.path).Nodup ↔
        ((config.types schema).map fun type => docName type.name).Nodup ∧
          ∀ method ∈ config.methods schema, method.name ≠ "index") ∧
      ∀ directory,
        (files.map fun file => (Path.ofText (file.destination directory)).steps).Nodup ↔
          (files.map GeneratedFile.path).Nodup := by
  have named := isNamed_of_load loaded
  have paths : (config.emit schema).map GeneratedFile.path =
      (config.perFile schema).map Prod.fst := by
    rw [MarkdownDocs.emit, MarkdownDocs.pages, perFile, List.map_map]
    rfl
  have places : ∀ directory,
      (config.emit schema).map (fun file => (Path.ofText (file.destination directory)).steps) =
        (config.perFile schema).map fun entry =>
          (Path.ofText (join directory entry.1)).steps := by
    intro directory
    rw [MarkdownDocs.emit, MarkdownDocs.pages, perFile, List.map_map]
    rfl
  refine ⟨config.emit schema, config.generate_eq accepted, ?_, fun directory => ?_⟩
  · rw [paths, MarkdownDocs.paths_nodup_iff named, MarkdownDocs.nodup_names_iff accepted]
  · rw [places, paths, MarkdownDocs.steps_join_perFile,
      List.nodup_map_iff (List.append_right_injective _), MarkdownDocs.steps_nodup_iff named,
      MarkdownDocs.paths_nodup_iff named]

/-- Two types with words in common, and methods that are called like a type. -/
def shelf : Schema :=
  { name := "k"
    version := ""
    methods := [{ name := "Index" }, { name := "book" }]
    types := [
      ("book", { name := "book" }), ("book_id", { name := "book_id" }),
      ("index", { name := "index" })] }

def shelfText : String :=
  "\x7b\"name\":\"k\",\"version\":\"\",\"description\":\"\",\"groups\":[]," ++
    "\"methods\":[\x7b\"name\":\"Index\",\"description\":\"\"\x7d," ++
    "\x7b\"name\":\"book\",\"description\":\"\"\x7d]," ++
    "\"types\":\x7b\"book\":\x7b\x7d,\"book_id\":\x7b\x7d,\"index\":\x7b\x7d\x7d\x7d"

theorem files_apart_shelf :
    load shelfText = .ok shelf ∧ shelf.Accepted ∧
      ∃ files, (MarkdownDocs.mk .perFile false).backend.generate shelf = .done files ∧
        (files.map GeneratedFile.path).Nodup := by
  have loads : load shelfText = .ok shelf :=
    load_of_canonical ⟨by decide, by decide, by decide, by decide, by decide, by decide⟩
      (.append (.append (.append .literal .literal) .literal) .literal)
      (by decide +kernel) (eq_ok_of_toOption (by decide +kernel))
  have accepted : shelf.Accepted := .of_clean (.inl rfl) (by decide +kernel)
  have perFile : (MarkdownDocs.mk .perFile false).layout = .perFile := rfl
  obtain ⟨files, generated, apart, -⟩ := files_apart_iff loads accepted perFile
  exact ⟨loads, accepted, files, generated, apart.mpr (by decide +kernel)⟩

/-- A method of the name that the index has, and two types with one exported name. -/
def register : Schema :=
  { name := "k"
    version := ""
    methods := [{ name := "index" }]
    types := [("bookId", { name := "bookId" }), ("book_id", { name := "book_id" })] }

def registerText : String :=
  "\x7b\"name\":\"k\",\"version\":\"\",\"description\":\"\",\"groups\":[]," ++
    "\"methods\":[\x7b\"name\":\"index\",\"description\":\"\"\x7d]," ++
    "\"types\":\x7b\"bookId\":\x7b\x7d,\"book_id\":\x7b\x7d\x7d\x7d"

/-- The page of a method can take the place of the index, and a type that of another. -/
theorem files_overlap_register :
    load registerText = .ok register ∧ register.Accepted ∧ ∀ includePrivate,
      ∃ files, (MarkdownDocs.mk .perFile includePrivate).backend.generate register = .done files ∧
        files.map GeneratedFile.path =
          ["types/index.md", "types/BookID.md", "types/BookID.md", "methods/index.md",
            "methods/index.md"] := by
  have loads : load registerText = .ok register :=
    load_of_canonical ⟨by decide, by decide, by decide, by decide, by decide, by decide⟩
      (.append (.append .literal .literal) .literal)
      (by decide +kernel) (eq_ok_of_toOption (by decide +kernel))
  have accepted : register.Accepted := .of_clean (.inl rfl) (by decide +kernel)
  refine ⟨loads, accepted, fun includePrivate => ⟨_, MarkdownDocs.generate_eq _ accepted, ?_⟩⟩
  cases includePrivate <;> decide +kernel

end RpcSchema
