import RpcSchema.Proofs.Documentation.Pages
import RpcSchema.Proofs.Schema.Equality
import RpcSchema.Target.TsRevivers

/-!
# Links in the documentation

A link leads from the directory of its page to another page, or stays on its page, and may name an
anchor there. Items of indexes and rows of tables lead to what is documented. The types of fields
lead to the documentation of a type whether or not there is any: where private types are left out, a
field of a private type has a link that leads nowhere.
-/

namespace RpcSchema

open Files MarkdownPage Naming

namespace MarkdownPage

/-! ## Where links lead -/

namespace Link

/-- The path of a link, up to the anchor. -/
def path (link : Link) : String := .ofList (link.target.toList.takeWhile (· != '#'))

/-- The anchor that a link names on the page it leads to. -/
def anchor? (link : Link) : Option String :=
  (link.target.toList.dropWhile (· != '#')).tail?.map .ofList

end Link

/-- Where steps lead from a directory. -/
def follow (directory : List String) : List String → List String
  | [] => directory
  | step :: rest => follow (if step = ".." then directory.dropLast else directory ++ [step]) rest

/-- Where a link on a page leads: without a path it stays on the page. -/
def Link.place (page : String) (link : Link) : List String :=
  let here := (Path.ofText page).steps
  if link.path.isEmpty then here else follow here.dropLast (Path.ofText link.path).steps

/-- A link on a page leads to one of the pages, and to an anchor there if it names one. -/
def Link.Resolves (pages : List (String × List Element)) (page : String) (link : Link) : Prop :=
  ∃ entry ∈ pages, (Path.ofText entry.1).steps = link.place page ∧
    ∀ id ∈ link.anchor?, id ∈ anchorsOf entry.2

instance (pages : List (String × List Element)) (page : String) (link : Link) :
    Decidable (link.Resolves pages page) :=
  inferInstanceAs (Decidable (∃ entry ∈ pages, _ ∧ ∀ id ∈ link.anchor?, _))

theorem Link.path_of_not_mem {link : Link} (plain : '#' ∉ link.target.toList) :
    link.path = link.target ∧ link.anchor? = none := by
  have before : ∀ c ∈ link.target.toList, (c != '#') = true := fun c member =>
    bne_iff_ne.mpr fun same => plain (same ▸ member)
  rw [path, anchor?, List.takeWhile_eq_self_iff.mpr before, List.dropWhile_eq_nil_iff.mpr before]
  exact ⟨String.ofList_toList, rfl⟩

theorem Link.path_of_anchor {link : Link} {front id : String} (plain : '#' ∉ front.toList)
    (spelled : link.target = front ++ "#" ++ id) : link.path = front ∧ link.anchor? = some id := by
  have before : ∀ c ∈ front.toList, (c != '#') = true := fun c member =>
    bne_iff_ne.mpr fun same => plain (same ▸ member)
  have characters : link.target.toList = front.toList ++ '#' :: id.toList := by simp [spelled]
  rw [path, anchor?, characters, List.takeWhile_append_of_pos before,
    List.dropWhile_append_of_pos before]
  simp

theorem follow_append (directory steps rest : List String) :
    follow directory (steps ++ rest) = follow (follow directory steps) rest := by
  induction steps generalizing directory with
  | nil => rfl
  | cons step steps ih => rw [List.cons_append, follow, follow, ih]

theorem follow_page (directory : List String) (name : String) :
    follow directory [name ++ ".md"] = directory ++ [name ++ ".md"] := by
  rw [follow, if_neg (page_ne_outwards name), follow]

/-- A link through a directory to the name of a page leads to the page. -/
theorem Link.resolves_page {pages : List (String × List Element)} {page : String} {link : Link}
    (directory : String) {name : String} (onPath : '#' ∉ directory.toList) (plain : IsPlain name)
    (spelled : link.target = directory ++ "/" ++ name ++ ".md")
    {entry : String × List Element} (member : entry ∈ pages)
    (there : (Path.ofText entry.1).steps =
      follow (Path.ofText page).steps.dropLast (Path.ofText directory).steps ++ [name ++ ".md"]) :
    link.Resolves pages page := by
  have unanchored : '#' ∉ link.target.toList := by simp [spelled, onPath, plain.2]
  obtain ⟨whole, none⟩ := path_of_not_mem unanchored
  refine ⟨entry, member, ?_, by simp [none]⟩
  have nonempty : link.path.isEmpty = false := by simp [whole, spelled]
  rw [place, nonempty, whole, spelled, Path.steps_page directory plain.1, follow_append,
    follow_page, there]
  rfl

/-- A link to an anchor leads to a page that has it. -/
theorem Link.resolves_anchor {pages : List (String × List Element)} {page id : String} {link : Link}
    (front : String) (onPath : '#' ∉ front.toList) (spelled : link.target = front ++ "#" ++ id)
    {entry : String × List Element} (member : entry ∈ pages) (anchored : id ∈ anchorsOf entry.2)
    (there : (Path.ofText entry.1).steps =
      if front.isEmpty then (Path.ofText page).steps
      else follow (Path.ofText page).steps.dropLast (Path.ofText front).steps) :
    link.Resolves pages page := by
  obtain ⟨before, named⟩ := path_of_anchor onPath spelled
  refine ⟨entry, member, ?_, by simp [named, anchored]⟩
  rw [there, place, before]

/-! ## Links on pages -/

def TypeCell.link? : TypeCell → Option Link
  | .kind _ => none
  | .declared link => some link

def FieldCell.link? : FieldCell → Option Link
  | .one type => type.link?
  | .many element => element.link?

/-- The link that is written in a part of a page. -/
def Element.link? : Element → Option Link
  | .item link _ => some link
  | .methodRow link _ => some link
  | .fieldRow _ type _ => type.link?
  | _ => none

/-- The links that are written on a page. -/
def linksOn (page : List Element) : List Link := partsOf Element.link? page

/-- The links in a table of fields: one for each field with values of a declared type. -/
def fieldLinks (links : TypeLinks) (fields : List Field) : List Link :=
  fields.flatMap fun field => (field.elementType.reference?.map (typeLink links)).toList

theorem link?_fieldCell (links : TypeLinks) (field : Field) :
    (fieldCell links field).link? = field.elementType.reference?.map (typeLink links) := by
  have cell : ∀ type, (typeCell links type).link? = type.reference?.map (typeLink links) :=
    fun type => by cases type <;> rfl
  rw [fieldCell]
  split
  · next element isArray declared =>
    rw [FieldCell.link?, cell, Field.elementType, Field.isArray, isArray, declared]
    rfl
  · next noItems =>
    rw [FieldCell.link?, cell, Field.elementType]
    split
    · next isArray =>
      -- An array that declares no items has its own type for theirs.
      cases declared : field.items with
      | none => rfl
      | some element =>
          exact absurd declared (noItems element (by simpa [Field.isArray] using isArray))
    · rfl

@[simp] theorem links_fieldTable (links : TypeLinks) (fields : List Field) :
    partsOf Element.link? (fieldTable links fields) = fieldLinks links fields := by
  simp [fieldTable, fieldLinks, Element.link?, link?_fieldCell]

@[simp] theorem links_of_isProse {page : List Element} (prose : page.all Element.isProse) :
    partsOf Element.link? page = [] :=
  partsOf_of_isProse (fun element isProse => by cases element <;> first | rfl | cases isProse) prose

end MarkdownPage

namespace MarkdownDocs

variable {schema : Schema}

@[simp] theorem links_typeBody (links : TypeLinks) (level : Nat) (type : TypeDecl) :
    partsOf Element.link? (typeBody links level type) = fieldLinks links type.properties := by
  rw [typeBody]
  cases type.properties <;> split <;> simp [fieldLinks]

@[simp] theorem links_methodBody (links : TypeLinks) (level : Nat) (method : Method) :
    partsOf Element.link? (methodBody links level method) = fieldLinks links method.fields := by
  rw [methodBody, Method.hasInputs, Method.hasOutputs, Method.fields]
  cases method.inputs <;> cases method.outputs <;> split <;> simp [fieldLinks, Element.link?]

/-- A link in a section leads to one of its methods, or is that of a field. -/
theorem mem_linksOn_methodSection {title description : String} {methods : List Method}
    {link : Link} :
    link ∈ linksOn (methodSection title description methods) ↔
      (∃ method ∈ methods, link = ⟨method.name, "#" ++ methodAnchor (anchorName title) method⟩) ∨
        ∃ method ∈ methods, link ∈ fieldLinks .anchors method.fields := by
  simp [linksOn, methodSection, Element.link?]

theorem anchor_mem_methodSection (title description : String) {methods : List Method}
    {method : Method} (member : method ∈ methods) :
    .anchor (methodAnchor (anchorName title) method) ∈ methodSection title description methods :=
  List.mem_append_right _ (List.mem_flatMap.mpr ⟨method, member, List.mem_cons_self⟩)

/-! ## Links to types -/

/-- The fields in the tables of the documentation. -/
def shownFields (config : MarkdownDocs) (schema : Schema) : List Field :=
  (config.types schema).flatMap TypeDecl.properties ++
    (config.methods schema).flatMap Method.fields

/-- Where the links to types point. -/
def typeLinks (config : MarkdownDocs) : TypeLinks :=
  match config.layout with
  | .perFile => .files
  | .singlePage => .anchors

/-- The link of a field in the documentation to a private type, where these are left out. -/
def LeavesOut (config : MarkdownDocs) (schema : Schema) (link : Link) : Prop :=
  config.includePrivate = false ∧ ∃ field ∈ config.shownFields schema, ∃ target,
    field.elementType = .reference target ∧ link = typeLink config.typeLinks target ∧
      ∃ type, schema.lookup? target = some type ∧ type.isPrivate = true

theorem mem_allFields_of_mem_shownFields {config : MarkdownDocs} {field : Field}
    (shown : field ∈ config.shownFields schema) : field ∈ schema.allFields := by
  rcases List.mem_append.mp shown with ofType | ofMethod
  · obtain ⟨type, listed, member⟩ := List.mem_flatMap.mp ofType
    obtain ⟨⟨entry, declared, rfl⟩, -⟩ := mem_types.mp listed
    exact Schema.property_mem_allFields declared member
  · obtain ⟨method, listed, member⟩ := List.mem_flatMap.mp ofMethod
    exact Schema.method_field_mem_allFields (mem_methods.mp listed).1 member

theorem mem_references_of_elementType {field : Field} {target : TypeRef}
    (refers : field.elementType = .reference target) : target ∈ field.references := by
  rw [Field.elementType] at refers
  rw [Field.references, List.mem_append]
  split at refers
  · cases declared : field.items with
    | none =>
        rw [declared] at refers
        exact .inl (by simp [show field.type = .reference target from refers, FieldType.reference?])
    | some element =>
        rw [declared] at refers
        exact .inr (by simp [show element = .reference target from refers, FieldType.reference?])
  · exact .inl (by simp [refers, FieldType.reference?])

/-- A link of a field in the documentation is to a documented type, or to one that is left out. -/
theorem typeLink_cases {config : MarkdownDocs} (canonical : schema.IsCanonical)
    (accepted : schema.Accepted) {fields : List Field}
    (shown : ∀ field ∈ fields, field ∈ config.shownFields schema) {link : Link}
    (member : link ∈ fieldLinks config.typeLinks fields) :
    (∃ type ∈ config.types schema, ∃ target : TypeRef,
        target.name = type.name ∧ link = typeLink config.typeLinks target) ∨
      config.LeavesOut schema link := by
  rw [fieldLinks, List.mem_flatMap] at member
  obtain ⟨field, listed, isLink⟩ := member
  obtain ⟨target, mentioned, rfl⟩ := Option.map_eq_some_iff.mp (Option.mem_toList.mp isLink)
  have refers : field.elementType = .reference target := by
    cases type : field.elementType <;> simp_all [FieldType.reference?]
  obtain ⟨type, resolved⟩ := (accepted.resolvedIn field
    (mem_allFields_of_mem_shownFields (shown field listed))).resolves target
    (mem_references_of_elementType refers)
  have found := Schema.resolve_eq_ok_iff.mp resolved
  have declared := Json.mem_of_lookup_eq_some found
  by_cases visible : config.includePrivate = true ∨ type.isPrivate = false
  · exact .inl ⟨type, mem_types.mpr ⟨⟨_, declared, rfl⟩, visible⟩, target,
      (canonical.name_of_lookup? found).symm, rfl⟩
  · rw [not_or, Bool.not_eq_true, Bool.not_eq_false] at visible
    exact .inr ⟨visible.1, field, shown field listed, target, refers, rfl, type, found, visible.2⟩

/-- Links in a table of a page lead somewhere when links from the page to documented types do. -/
theorem resolves_table {config : MarkdownDocs} (canonical : schema.IsCanonical)
    (accepted : schema.Accepted) {pages : List (String × List Element)} {page : String}
    (leads : ∀ type ∈ config.types schema, ∀ target : TypeRef, target.name = type.name →
      (typeLink config.typeLinks target).Resolves pages page)
    {fields : List Field} (shown : ∀ field ∈ fields, field ∈ config.shownFields schema)
    {link : Link} (member : link ∈ fieldLinks config.typeLinks fields) :
    link.Resolves pages page ∨ config.LeavesOut schema link := by
  rcases typeLink_cases canonical accepted shown member with
    ⟨type, visible, target, named, rfl⟩ | leftOut
  · exact .inl (leads type visible target named)
  · exact .inr leftOut

theorem property_mem_shownFields {config : MarkdownDocs} {type : TypeDecl}
    (visible : type ∈ config.types schema) :
    ∀ field ∈ type.properties, field ∈ config.shownFields schema :=
  fun _ member => List.mem_append_left _ (List.mem_flatMap.mpr ⟨type, visible, member⟩)

theorem method_field_mem_shownFields {config : MarkdownDocs} {method : Method}
    (visible : method ∈ config.methods schema) :
    ∀ field ∈ method.fields, field ∈ config.shownFields schema :=
  fun _ member => List.mem_append_right _ (List.mem_flatMap.mpr ⟨method, visible, member⟩)

/-! ## A file for each -/

section PerFile

variable {config : MarkdownDocs}

theorem mem_perFile {entry : String × List Element} :
    entry ∈ config.perFile schema ↔
      entry = ("types/index.md", typeIndex (config.types schema)) ∨
      (∃ type ∈ config.types schema,
        entry = ("types/" ++ docName type.name ++ ".md", typePage type)) ∨
      entry = ("methods/index.md", methodIndex (config.groupedMethods schema)) ∨
      ∃ method ∈ config.methods schema,
        entry = ("methods/" ++ method.name ++ ".md", methodPage method) := by
  simp only [perFile, List.mem_append, List.mem_singleton, List.mem_map, or_assoc, eq_comm]

/-- The link of an item to the page in the same directory. -/
theorem resolves_item {page title name : String} (directory : String) (plain : IsPlain name)
    (beside : (Path.ofText page).steps.dropLast = (Path.ofText directory).steps)
    {content : List Element}
    (member : (directory ++ "/" ++ name ++ ".md", content) ∈ config.perFile schema) :
    Link.Resolves (config.perFile schema) page ⟨title, "./" ++ name ++ ".md"⟩ :=
  Link.resolves_page "." (by decide) plain rfl member <| by
    have here : (Path.ofText ".").steps = [] := by decide
    rw [Path.steps_page directory plain.1, beside, here, follow]

/-- The link of a field to the page of a type, from any directory beside that of the types. -/
theorem resolves_type {page directory : String} {target : TypeRef}
    (inside : (Path.ofText page).steps.dropLast = [directory]) {type : TypeDecl}
    (listed : type ∈ config.types schema) (named : target.name = type.name) :
    Link.Resolves (config.perFile schema) page (typeLink .files target) := by
  have member : ("types" ++ "/" ++ docName target.name ++ ".md", typePage type) ∈
      config.perFile schema := mem_perFile.mpr (.inr (.inl ⟨type, listed, by rw [named]; rfl⟩))
  refine Link.resolves_page "../types" (by decide) (isPlain_docName target.name) rfl member ?_
  have through : (Path.ofText "../types").steps = ["..", "types"] := by decide
  have types : (Path.ofText "types").steps = ["types"] := by decide
  rw [Path.steps_page "types" (isPlain_docName target.name).1, inside, through, types]
  simp [follow]

theorem mem_linksOn_typeIndex {types : List TypeDecl} {link : Link} :
    link ∈ linksOn (typeIndex types) ↔
      ∃ type ∈ types, link = ⟨docName type.name, "./" ++ docName type.name ++ ".md"⟩ := by
  simp [linksOn, typeIndex, Element.link?]

theorem mem_linksOn_methodIndex {groups : List (Group × List Method)} {link : Link} :
    link ∈ linksOn (methodIndex groups) ↔
      ∃ entry ∈ groups, ∃ method ∈ entry.2,
        link = ⟨method.name, "./" ++ method.name ++ ".md"⟩ := by
  simp [linksOn, methodIndex, Element.link?]

theorem resolves_perFile (named : schema.IsNamed) (canonical : schema.IsCanonical)
    (accepted : schema.Accepted) (perFile : config.layout = .perFile)
    {entry : String × List Element} (listed : entry ∈ config.perFile schema) {link : Link}
    (member : link ∈ linksOn entry.2) :
    link.Resolves (config.perFile schema) entry.1 ∨ config.LeavesOut schema link := by
  have files : config.typeLinks = .files := by rw [typeLinks, perFile]
  rcases mem_perFile.mp listed with rfl | ⟨type, visible, rfl⟩ | rfl | ⟨method, visible, rfl⟩
  · obtain ⟨type, visible, rfl⟩ := mem_linksOn_typeIndex.mp member
    have beside : (Path.ofText "types/index.md").steps.dropLast = (Path.ofText "types").steps := by
      decide
    exact .inl (resolves_item "types" (isPlain_docName type.name) beside
      (mem_perFile.mpr (.inr (.inl ⟨type, visible, rfl⟩))))
  · have inTable : link ∈ fieldLinks .files type.properties := by
      simpa [linksOn, typePage] using member
    have inside :
        (Path.ofText ("types/" ++ docName type.name ++ ".md")).steps.dropLast = ["types"] :=
      (Path.dropLast_steps_page "types" (isPlain_docName type.name).1).trans (by decide)
    exact resolves_table canonical accepted (fun _ documented _ sameName =>
      files ▸ resolves_type inside documented sameName) (property_mem_shownFields visible)
      (files ▸ inTable)
  · obtain ⟨group, grouped, method, inGroup, rfl⟩ := mem_linksOn_methodIndex.mp member
    have visible : method ∈ config.methods schema := by
      rw [(mem_groupedMethods.mp grouped).2.1] at inGroup
      exact List.mem_of_mem_filter inGroup
    have beside : (Path.ofText "methods/index.md").steps.dropLast =
        (Path.ofText "methods").steps := by decide
    exact .inl (resolves_item "methods" (named.methods method (mem_methods.mp visible).1).isPlain
      beside (mem_perFile.mpr (.inr (.inr (.inr ⟨method, visible, rfl⟩)))))
  · have inTable : link ∈ fieldLinks .files method.fields := by
      simpa [linksOn, methodPage] using member
    have inside : (Path.ofText ("methods/" ++ method.name ++ ".md")).steps.dropLast = ["methods"] :=
      (Path.dropLast_steps_page "methods"
        (named.methods method (mem_methods.mp visible).1).isPlain.1).trans (by decide)
    exact resolves_table canonical accepted (fun _ documented _ sameName =>
      files ▸ resolves_type inside documented sameName) (method_field_mem_shownFields visible)
      (files ▸ inTable)

end PerFile

/-! ## Single pages -/

section SinglePage

variable {config : MarkdownDocs}

theorem typesPage_mem_singlePage :
    ("types.md", config.singleTypesPage schema) ∈ config.singlePage schema :=
  List.mem_cons_self

theorem methodsPage_mem_singlePage :
    ("methods.md", config.singleMethodsPage schema) ∈ config.singlePage schema :=
  List.mem_cons_of_mem _ List.mem_cons_self

theorem anchor_mem_singleTypesPage {type : TypeDecl} (visible : type ∈ config.types schema) :
    anchorName (docName type.name) ∈ anchorsOf (config.singleTypesPage schema) :=
  mem_anchorsOf.mpr (List.mem_append_right _
    (List.mem_flatMap.mpr ⟨type, visible, List.mem_cons_self⟩))

/-- The link of a field to the anchor of a type, from either page. -/
theorem resolves_typeAnchor {page : String} {target : TypeRef}
    (outermost : (Path.ofText page).steps.dropLast = []) {type : TypeDecl}
    (listed : type ∈ config.types schema) (named : target.name = type.name) :
    Link.Resolves (config.singlePage schema) page (typeLink .anchors target) := by
  refine Link.resolves_anchor "types.md" (by decide) rfl typesPage_mem_singlePage
    (named ▸ anchor_mem_singleTypesPage listed) ?_
  rw [if_neg (by decide), outermost]
  exact (by decide : (Path.ofText "types.md").steps = follow [] (Path.ofText "types.md").steps)

theorem resolves_singlePage (canonical : schema.IsCanonical) (accepted : schema.Accepted)
    (singlePage : config.layout = .singlePage)
    {entry : String × List Element} (listed : entry ∈ config.singlePage schema) {link : Link}
    (member : link ∈ linksOn entry.2) :
    link.Resolves (config.singlePage schema) entry.1 ∨ config.LeavesOut schema link := by
  have anchors : config.typeLinks = .anchors := by rw [typeLinks, singlePage]
  rcases List.mem_cons.mp listed with rfl | second
  · have inTables : link ∈ (config.types schema).flatMap fun type =>
        fieldLinks .anchors type.properties := by
      simpa [linksOn, singleTypesPage, frontMatter, typeSection, Element.link?] using member
    obtain ⟨type, visible, inTable⟩ := List.mem_flatMap.mp inTables
    have outermost : (Path.ofText "types.md").steps.dropLast = [] := by decide
    exact resolves_table canonical accepted (fun _ documented _ sameName =>
      anchors ▸ resolves_typeAnchor outermost documented sameName)
      (property_mem_shownFields visible) (anchors ▸ inTable)
  · obtain rfl := List.mem_singleton.mp second
    have inSections : link ∈ (config.sections schema).flatMap fun entry =>
        linksOn (methodSection entry.1.name entry.1.description entry.2) := by
      simpa [linksOn, singleMethodsPage_eq, frontMatter, Element.link?] using member
    obtain ⟨entry, isSection, inSection⟩ := List.mem_flatMap.mp inSections
    rcases mem_linksOn_methodSection.mp inSection with
      ⟨method, isMethod, rfl⟩ | ⟨method, isMethod, inTable⟩
    · have anchored : methodAnchor (anchorName entry.1.name) method ∈
          anchorsOf (config.singleMethodsPage schema) := by
        rw [mem_anchorsOf, singleMethodsPage_eq]
        exact List.mem_append_right _ (List.mem_flatMap.mpr
          ⟨entry, isSection, anchor_mem_methodSection _ _ isMethod⟩)
      exact .inl (Link.resolves_anchor "" (by decide) rfl methodsPage_mem_singlePage anchored rfl)
    · have visible := mem_methods_of_mem_sections isSection isMethod
      have outermost : (Path.ofText "methods.md").steps.dropLast = [] := by decide
      exact resolves_table canonical accepted (fun _ documented _ sameName =>
        anchors ▸ resolves_typeAnchor outermost documented sameName)
        (method_field_mem_shownFields visible) (anchors ▸ inTable)

end SinglePage

end MarkdownDocs

/-! ## Every link -/

/-- The documentation of a loaded and accepted schema is generated, and every link in it leads to
one of its pages and, where it names one, to an anchor there; but a link from the type of a field to
a private type may lead nowhere where private types are left out. -/
theorem links_of_pages {text : String} {schema : Schema} (loaded : load text = .ok schema)
    (accepted : schema.Accepted) (config : MarkdownDocs) :
    config.backend.generate schema =
        .done ((config.pages schema).map fun (path, page) =>
          { path, content := MarkdownPage.text page }) ∧
      ∀ entry ∈ config.pages schema, ∀ link ∈ linksOn entry.2,
        link.Resolves (config.pages schema) entry.1 ∨ config.LeavesOut schema link := by
  refine ⟨config.generate_eq accepted, fun entry listed link member => ?_⟩
  have canonical := isCanonical_of_load loaded
  cases layout : config.layout with
  | perFile =>
      simp only [MarkdownDocs.pages, layout] at listed ⊢
      exact MarkdownDocs.resolves_perFile (isNamed_of_load loaded) canonical accepted layout listed
        member
  | singlePage =>
      simp only [MarkdownDocs.pages, layout] at listed ⊢
      exact MarkdownDocs.resolves_singlePage canonical accepted layout listed member

/-- A bird with a keeper, who is private. -/
def aviary : Schema :=
  { name := "k"
    version := ""
    types := [
      ("bird", {
        name := "bird"
        properties := [{ name := "keeper", type := .reference (.toType "keeper") }] }),
      ("keeper", { name := "keeper", isPrivate := true })] }

def aviaryText : String :=
  "\x7b\"name\":\"k\",\"version\":\"\",\"description\":\"\",\"groups\":[],\"methods\":[]," ++
    "\"types\":\x7b\"keeper\":\x7b\"private\":true\x7d,\"bird\":\x7b\"properties\":" ++
    "[\x7b\"name\":\"keeper\",\"type\":\x7b\"$ref\":\"#/types/keeper\"\x7d\x7d]\x7d\x7d\x7d"

theorem load_aviary : load aviaryText = .ok aviary :=
  load_of_canonical ⟨by decide, by decide, by decide, by decide, by decide, by decide⟩
    (.append (.append .literal .literal) .literal)
    (by decide +kernel) (eq_ok_of_toOption (by decide +kernel))

theorem accepted_aviary : aviary.Accepted := .of_clean (.inl rfl) (by decide +kernel)

theorem links_of_pages_aviary :
    load aviaryText = .ok aviary ∧ aviary.Accepted ∧
      ∀ layout, ∀ entry ∈ (⟨layout, true⟩ : MarkdownDocs).pages aviary, ∀ link ∈ linksOn entry.2,
        link.Resolves ((⟨layout, true⟩ : MarkdownDocs).pages aviary) entry.1 := by
  refine ⟨load_aviary, accepted_aviary, fun layout entry listed link member => ?_⟩
  rcases (links_of_pages load_aviary accepted_aviary ⟨layout, true⟩).2 entry listed link member with
    resolves | ⟨hides, -⟩
  · exact resolves
  · cases hides

/-- In either layout a link leads nowhere where private types are left out: that of the keeper. -/
theorem links_astray_aviary :
    load aviaryText = .ok aviary ∧ aviary.Accepted ∧
      ∀ layout, ∃ entry ∈ (⟨layout, false⟩ : MarkdownDocs).pages aviary, ∃ link ∈ linksOn entry.2,
        ¬ link.Resolves ((⟨layout, false⟩ : MarkdownDocs).pages aviary) entry.1 := by
  refine ⟨load_aviary, accepted_aviary, fun layout => ?_⟩
  cases layout <;> decide +kernel

end RpcSchema
