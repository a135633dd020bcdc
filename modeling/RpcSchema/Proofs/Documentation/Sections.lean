import Mathlib.Data.List.Nodup
import RpcSchema.Proofs.Documentation.Pages
import RpcSchema.Proofs.Schema.Equality

/-!
# Sections of the page of methods

The page of methods is read back as chapters: what stands behind each anchor, up to the next. There
is a chapter with a table for each group that has visible methods, and behind it a chapter for each
of the methods; a last table is for the methods of no declared group. So a method is documented as
often as its group is declared, and once when it is of no declared group.
-/

namespace RpcSchema

open MarkdownPage Naming

namespace MarkdownPage

/-! ## Chapters -/

/-- What stands before the first anchor of a page, and what stands behind each. -/
def split : List Element → List Element × List (String × List Element)
  | [] => ([], [])
  | .anchor id :: rest => ([], (id, (split rest).1) :: (split rest).2)
  | element :: rest => (element :: (split rest).1, (split rest).2)

/-- What stands behind each anchor of a page. -/
def chaptersOf (page : List Element) : List (String × List Element) := (split page).2

/-- The elements of a chapter, with its anchor. -/
def chapter (entry : String × List Element) : List Element := .anchor entry.1 :: entry.2

theorem split_append {front : List Element} (unanchored : anchorsOf front = [])
    (rest : List Element) :
    split (front ++ rest) = (front ++ (split rest).1, (split rest).2) := by
  induction front with
  | nil => rfl
  | cons element front ih =>
      rw [anchorsOf, partsOf_cons, List.append_eq_nil_iff] at unanchored
      obtain ⟨here, later⟩ := unanchored
      cases element with
      | anchor id => cases here
      | _ => rw [List.cons_append, split, ih later] <;> simp

theorem split_chapters {chapters : List (String × List Element)}
    (unanchored : ∀ entry ∈ chapters, anchorsOf entry.2 = []) :
    split (chapters.flatMap chapter) = ([], chapters) := by
  induction chapters with
  | nil => rfl
  | cons entry rest ih =>
      obtain ⟨here, later⟩ := List.forall_mem_cons.mp unanchored
      rw [List.flatMap_cons, chapter, List.cons_append, split, split_append here, ih later,
        List.append_nil]

theorem chaptersOf_append {front : List Element} {chapters : List (String × List Element)}
    (unanchored : anchorsOf front = []) (apart : ∀ entry ∈ chapters, anchorsOf entry.2 = []) :
    chaptersOf (front ++ chapters.flatMap chapter) = chapters := by
  rw [chaptersOf, split_append unanchored, split_chapters apart]

/-! ## Rows and anchors -/

def Element.row? : Element → Option Link
  | .methodRow link _ => some link
  | _ => none

/-- The links in the tables of methods on a page. -/
def rowsOf (page : List Element) : List Link := partsOf Element.row? page

@[simp] theorem rows_of_isProse {page : List Element} (prose : page.all Element.isProse) :
    partsOf Element.row? page = [] :=
  partsOf_of_isProse (fun element isProse => by cases element <;> first | rfl | cases isProse) prose

@[simp] theorem anchors_of_isProse {page : List Element} (prose : page.all Element.isProse) :
    partsOf Element.anchor? page = [] :=
  partsOf_of_isProse (fun element isProse => by cases element <;> first | rfl | cases isProse) prose

end MarkdownPage

namespace MarkdownDocs

variable {schema : Schema}

@[simp] theorem rows_methodBody (links : TypeLinks) (level : Nat) (method : Method) :
    partsOf Element.row? (methodBody links level method) = [] := by
  rw [methodBody]
  split <;> split <;> split <;> simp [fieldTable, Element.row?]

@[simp] theorem anchors_methodBody (links : TypeLinks) (level : Nat) (method : Method) :
    partsOf Element.anchor? (methodBody links level method) = [] := by
  rw [methodBody]
  split <;> split <;> split <;> simp [fieldTable, Element.anchor?]

/-! ## The page of methods -/

/-- The title of the section that a method belongs to. -/
def sectionTitle (schema : Schema) (method : Method) : String :=
  if (schema.groupNamed? method.group).isSome then method.group else "other"

/-- The link to a method in the table of its section. -/
def methodLink (schema : Schema) (method : Method) : Link :=
  ⟨method.name, "#" ++ methodAnchor (anchorName (sectionTitle schema method)) method⟩

/-- The chapter of a method. -/
def methodChapter (schema : Schema) (method : Method) : String × List Element :=
  (methodAnchor (anchorName (sectionTitle schema method)) method,
    heading 3 method.name ++ methodBody .anchors 4 method)

/-- The chapter that opens a section, with a table of its methods. -/
def tableChapter (schema : Schema) (entry : Group × List Method) : String × List Element :=
  (anchorName entry.1.name,
    heading 2 (capitalize entry.1.name) ++ paragraph entry.1.description ++
      [.tableHead ["Method", "Description"]] ++
      (entry.2.map fun method =>
        .methodRow (methodLink schema method) (capitalize method.description)) ++ [.blank])

/-- Every method of a section belongs there. -/
theorem sectionTitle_of_mem_sections {config : MarkdownDocs} {entry : Group × List Method}
    (listed : entry ∈ config.sections schema) :
    ∀ method ∈ entry.2, sectionTitle schema method = entry.1.name := by
  intro method member
  rcases List.mem_append.mp listed with grouped | others
  · obtain ⟨declared, isGroup, -⟩ := mem_groupedMethods.mp grouped
    rw [isGroup] at member
    have same : method.group = entry.1.name := by simpa using (List.mem_filter.mp member).2
    have found : (schema.groupNamed? method.group).isSome := by
      rw [Schema.groupNamed?, List.find?_isSome]
      exact ⟨entry.1, declared, by simp [same]⟩
    rw [sectionTitle, if_pos found, same]
  · split at others
    · cases others
    · obtain rfl := List.mem_singleton.mp others
      have undeclared : (schema.groupNamed? method.group).isNone := (List.mem_filter.mp member).2
      rw [sectionTitle, if_neg (by simpa using undeclared)]

/-- A section is a chapter with its table and then the chapters of its methods. -/
theorem methodSection_eq {entry : Group × List Method}
    (belongs : ∀ method ∈ entry.2, sectionTitle schema method = entry.1.name) :
    methodSection entry.1.name entry.1.description entry.2 =
      (tableChapter schema entry :: entry.2.map (methodChapter schema)).flatMap chapter := by
  have chapters : (entry.2.map (methodChapter schema)).flatMap chapter =
      entry.2.flatMap fun method =>
        .anchor (methodAnchor (anchorName entry.1.name) method) :: heading 3 method.name ++
          methodBody .anchors 4 method := by
    rw [List.flatMap_map]
    refine List.flatMap_congr fun method member => ?_
    rw [methodChapter, chapter, belongs method member, List.cons_append]
  have rows : entry.2.map (fun method => Element.methodRow
        ⟨method.name, "#" ++ methodAnchor (anchorName entry.1.name) method⟩
        (capitalize method.description)) =
      entry.2.map fun method =>
        .methodRow (methodLink schema method) (capitalize method.description) :=
    List.map_congr_left fun method member => by rw [methodLink, belongs method member]
  rw [List.flatMap_cons, chapters, methodSection, rows, chapter, tableChapter]
  simp

/-- The chapters of a section. -/
def sectionChapters (schema : Schema) (entry : Group × List Method) :
    List (String × List Element) :=
  tableChapter schema entry :: entry.2.map (methodChapter schema)

theorem anchorsOf_sectionChapters (entry : Group × List Method) :
    ∀ found ∈ sectionChapters schema entry, anchorsOf found.2 = [] := by
  refine List.forall_mem_cons.mpr ⟨?_, List.forall_mem_map.mpr fun method _ => ?_⟩
  · simp [tableChapter, anchorsOf, Element.anchor?]
  · simp [methodChapter, anchorsOf]

theorem singleMethodsPage_eq_chapters (config : MarkdownDocs) (schema : Schema) :
    config.singleMethodsPage schema =
      frontMatter "Methods" "methods" ("Method documentation for the " ++ schema.name ++ " API.") ++
        ((config.sections schema).flatMap (sectionChapters schema)).flatMap chapter := by
  rw [singleMethodsPage_eq, List.flatMap_assoc]
  refine congrArg _ (List.flatMap_congr fun entry listed => ?_)
  exact methodSection_eq (sectionTitle_of_mem_sections listed)

theorem chaptersOf_singleMethodsPage (config : MarkdownDocs) (schema : Schema) :
    chaptersOf (config.singleMethodsPage schema) =
      (config.sections schema).flatMap (sectionChapters schema) := by
  rw [singleMethodsPage_eq_chapters]
  refine chaptersOf_append (by simp [frontMatter, anchorsOf, Element.anchor?]) ?_
  intro found member
  obtain ⟨entry, -, within⟩ := List.mem_flatMap.mp member
  exact anchorsOf_sectionChapters entry found within

theorem rows_section (entry : Group × List Method) :
    partsOf Element.row? ((sectionChapters schema entry).flatMap chapter) =
      entry.2.map (methodLink schema) := by
  simp [sectionChapters, chapter, tableChapter, methodChapter, Element.row?, List.flatMap_map,
    ← List.map_eq_flatMap]

theorem rowsOf_singleMethodsPage (config : MarkdownDocs) (schema : Schema) :
    rowsOf (config.singleMethodsPage schema) =
      ((config.sections schema).flatMap Prod.snd).map (methodLink schema) := by
  have front : ∀ teaser, partsOf Element.row? (frontMatter "Methods" "methods" teaser) = [] :=
    fun teaser => rfl
  rw [singleMethodsPage_eq_chapters, rowsOf, partsOf_append, front, List.nil_append,
    List.flatMap_assoc, partsOf_flatMap, List.map_flatMap]
  exact List.flatMap_congr fun entry _ => rows_section entry

/-! ## Once each -/

theorem flatMap_sections (config : MarkdownDocs) (schema : Schema) :
    (config.sections schema).flatMap Prod.snd =
      (config.groupedMethods schema).flatMap Prod.snd ++ config.ungroupedMethods schema := by
  rw [sections, List.flatMap_append]
  split
  · next none => simp [List.isEmpty_iff.mp none]
  · rw [List.flatMap_singleton]

/-- The visible methods are those of the sections. -/
theorem mem_flatMap_sections {config : MarkdownDocs} {method : Method} :
    method ∈ (config.sections schema).flatMap Prod.snd ↔ method ∈ config.methods schema := by
  constructor
  · intro member
    obtain ⟨entry, listed, within⟩ := List.mem_flatMap.mp member
    exact mem_methods_of_mem_sections listed within
  · intro visible
    rw [flatMap_sections, List.mem_append]
    cases found : schema.groupNamed? method.group with
    | none => exact .inr (List.mem_filter.mpr ⟨visible, by simp [found]⟩)
    | some group =>
        rw [Schema.groupNamed?] at found
        have named : group.name = method.group := by simpa using List.find?_some found
        have inGroup : method ∈
            (config.methods schema).filter fun method => method.group == group.name :=
          List.mem_filter.mpr ⟨visible, by simp [named]⟩
        refine .inl (List.mem_flatMap.mpr ⟨(group, _), mem_groupedMethods.mpr
          ⟨List.mem_of_find?_eq_some found, rfl, List.ne_nil_of_mem inGroup⟩, inGroup⟩)

/-- Sections of groups share no method when the groups have other names, and only then. -/
theorem disjoint_iff {config : MarkdownDocs} {entry other : Group × List Method}
    (listed : entry ∈ config.groupedMethods schema)
    (otherListed : other ∈ config.groupedMethods schema) :
    entry.2.Disjoint other.2 ↔ entry.1.name ≠ other.1.name := by
  obtain ⟨-, methods, nonempty⟩ := mem_groupedMethods.mp listed
  obtain ⟨-, otherMethods, -⟩ := mem_groupedMethods.mp otherListed
  constructor
  · intro apart sameName
    have same : entry.2 = other.2 := by rw [methods, otherMethods, sameName]
    obtain ⟨method, member⟩ := List.exists_mem_of_ne_nil _ nonempty
    exact apart member (same ▸ member)
  · intro otherName method member otherMember
    rw [methods] at member
    rw [otherMethods] at otherMember
    have here : method.group = entry.1.name := by simpa using (List.mem_filter.mp member).2
    have there : method.group = other.1.name := by simpa using (List.mem_filter.mp otherMember).2
    exact otherName (here.symm.trans there)

theorem disjoint_ungroupedMethods (config : MarkdownDocs) (schema : Schema) :
    ((config.groupedMethods schema).flatMap Prod.snd).Disjoint
      (config.ungroupedMethods schema) := by
  intro method member ungrouped
  obtain ⟨entry, listed, within⟩ := List.mem_flatMap.mp member
  have title := sectionTitle_of_mem_sections (List.mem_append_left _ listed) method within
  obtain ⟨declared, methods, -⟩ := mem_groupedMethods.mp listed
  rw [methods] at within
  have named : method.group = entry.1.name := by simpa using (List.mem_filter.mp within).2
  have undeclared : schema.groupNamed? method.group = none := by
    simpa using (List.mem_filter.mp ungrouped).2
  rw [Schema.groupNamed?, List.find?_eq_none] at undeclared
  exact undeclared entry.1 declared (by simp [named])

/-- The methods of the sections are distinct when no two groups with visible methods have one
name, and only then. -/
theorem nodup_sections_iff {config : MarkdownDocs} (distinct : (config.methods schema).Nodup) :
    ((config.sections schema).flatMap Prod.snd).Nodup ↔
      ((config.groupedMethods schema).map fun entry => entry.1.name).Nodup := by
  have each : ∀ entry ∈ config.groupedMethods schema, entry.2.Nodup := fun entry listed => by
    rw [(mem_groupedMethods.mp listed).2.1]
    exact distinct.filter _
  have grouped : ((config.groupedMethods schema).flatMap Prod.snd).Nodup ↔
      ((config.groupedMethods schema).map fun entry => entry.1.name).Nodup := by
    rw [List.nodup_flatMap]
    exact (and_iff_right each).trans
      ((List.Pairwise.iff_of_mem disjoint_iff).trans List.pairwise_map.symm)
  rw [flatMap_sections, List.nodup_append', ← grouped]
  exact ⟨And.left, fun once => ⟨once, distinct.filter _, config.disjoint_ungroupedMethods schema⟩⟩

/-- The visible methods are those of the sections, each once, when no two groups with visible
methods have one name, and only then. -/
theorem perm_methods_iff {config : MarkdownDocs} (distinct : (config.methods schema).Nodup) :
    ((config.groupedMethods schema).flatMap Prod.snd ++ config.ungroupedMethods schema).Perm
        (config.methods schema) ↔
      ((config.groupedMethods schema).map fun entry => entry.1.name).Nodup := by
  rw [← flatMap_sections, ← nodup_sections_iff distinct]
  constructor
  · intro perm
    exact perm.nodup_iff.mpr distinct
  · intro once
    exact (List.perm_ext_iff_of_nodup once distinct).mpr fun method => mem_flatMap_sections

/-- A page documents every visible method once: it has one row, and one chapter, in the section of
its group or in the last one. -/
structure DocumentsOnce (config : MarkdownDocs) (schema : Schema) (page : List Element) : Prop where
  sections :
    ((config.groupedMethods schema).flatMap Prod.snd ++ config.ungroupedMethods schema).Perm
      (config.methods schema)
  rows : (rowsOf page).Perm ((config.methods schema).map (methodLink schema))
  chapters : (chaptersOf page).Perm ((config.sections schema).map (tableChapter schema) ++
    (config.methods schema).map (methodChapter schema))

theorem documentsOnce_iff {config : MarkdownDocs} (distinct : (config.methods schema).Nodup) :
    config.DocumentsOnce schema (config.singleMethodsPage schema) ↔
      ((config.groupedMethods schema).map fun entry => entry.1.name).Nodup := by
  rw [← perm_methods_iff distinct]
  refine ⟨DocumentsOnce.sections, fun once => ⟨once, ?_, ?_⟩⟩
  · rw [rowsOf_singleMethodsPage, flatMap_sections]
    exact once.map _
  · rw [chaptersOf_singleMethodsPage]
    have tables := List.map_append_flatMap_perm (config.sections schema) (tableChapter schema)
      fun entry => entry.2.map (methodChapter schema)
    rw [← List.map_flatMap, flatMap_sections] at tables
    exact tables.symm.trans ((once.map _).append_left _)

end MarkdownDocs

/-- On the single page of methods of an accepted schema, the chapters of the visible methods stand
behind the table of the section they belong to. Every visible method is documented once when no two
groups with visible methods have one name, and only then. -/
theorem methods_documented {schema : Schema} (accepted : schema.Accepted) {config : MarkdownDocs}
    (single : config.layout = .singlePage) :
    ∃ types page,
      config.backend.generate schema =
        .done [types, { path := "methods.md", content := MarkdownPage.text page }] ∧
      chaptersOf page = (config.sections schema).flatMap (MarkdownDocs.sectionChapters schema) ∧
      (∀ entry ∈ config.sections schema, ∀ method ∈ entry.2, method ∈ config.methods schema ∧
        MarkdownDocs.sectionTitle schema method = entry.1.name) ∧
      (config.DocumentsOnce schema page ↔
        ((config.groupedMethods schema).map fun entry => entry.1.name).Nodup) := by
  have distinct : (config.methods schema).Nodup := (accepted.method_names_nodup.of_map _).filter _
  have generated : config.backend.generate schema = .done
      [{ path := "types.md", content := MarkdownPage.text (config.singleTypesPage schema) },
        { path := "methods.md"
          content := MarkdownPage.text (config.singleMethodsPage schema) }] := by
    rw [config.generate_eq accepted, MarkdownDocs.emit, MarkdownDocs.pages, single]
    rfl
  exact ⟨_, _, generated, config.chaptersOf_singleMethodsPage schema,
    fun entry listed method member => ⟨MarkdownDocs.mem_methods_of_mem_sections listed member,
      MarkdownDocs.sectionTitle_of_mem_sections listed method member⟩,
    MarkdownDocs.documentsOnce_iff distinct⟩

/-- Methods of a group, of an undeclared group and of none, one of them private. -/
def reception : Schema :=
  { name := "k"
    version := ""
    groups := [{ name := "bells" }, { name := "doors" }]
    methods := [
      { name := "greet" },
      { name := "listen", isPrivate := true, group := "bells" },
      { name := "open", group := "doors" },
      { name := "ring", group := "bells" },
      { name := "wave", group := "hands" }] }

theorem methods_documented_reception :
    reception.Accepted ∧ ∃ types page,
      (MarkdownDocs.mk .singlePage false).backend.generate reception =
        .done [types, { path := "methods.md", content := MarkdownPage.text page }] ∧
      (MarkdownDocs.mk .singlePage false).DocumentsOnce reception page := by
  have accepted : reception.Accepted := .of_clean (.inl rfl) (by decide +kernel)
  have single : (MarkdownDocs.mk .singlePage false).layout = .singlePage := rfl
  obtain ⟨types, page, generated, -, -, once⟩ := methods_documented accepted single
  exact ⟨accepted, types, page, generated, once.mpr (by decide +kernel)⟩

/-- A group that is declared twice, and its only method. -/
def echo : Schema :=
  { name := "k"
    version := ""
    groups := [{ name := "calls" }, { name := "calls" }]
    methods := [{ name := "ring", group := "calls" }] }

def echoText : String :=
  "\x7b\"name\":\"k\",\"version\":\"\",\"description\":\"\"," ++
    "\"groups\":[\x7b\"name\":\"calls\"\x7d,\x7b\"name\":\"calls\"\x7d]," ++
    "\"methods\":[\x7b\"name\":\"ring\",\"description\":\"\",\"group\":\"calls\"\x7d]," ++
    "\"types\":\x7b\x7d\x7d"

/-- A method is documented twice when its group is declared twice. -/
theorem methods_repeated_echo :
    load echoText = .ok echo ∧ echo.Accepted ∧ ∀ includePrivate,
      let config := MarkdownDocs.mk .singlePage includePrivate
      ¬ ((config.groupedMethods echo).flatMap Prod.snd ++ config.ungroupedMethods echo).Perm
          (config.methods echo) ∧
        (rowsOf (config.singleMethodsPage echo)).map Link.text = ["ring", "ring"] := by
  have loads : load echoText = .ok echo :=
    load_of_canonical ⟨by decide, by decide, by decide, by decide, by decide, by decide⟩
      (.append (.append (.append .literal .literal) .literal) .literal)
      (by decide +kernel) (eq_ok_of_toOption (by decide +kernel))
  refine ⟨loads, .of_clean (.inl rfl) (by decide +kernel), fun includePrivate => ?_⟩
  refine ⟨fun perm => ?_, ?_⟩
  · have lengths := perm.length_eq
    cases includePrivate <;> cases lengths
  · cases includePrivate <;> decide +kernel

end RpcSchema
