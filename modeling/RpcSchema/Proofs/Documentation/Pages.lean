import RpcSchema.Proofs.Code.Literals
import RpcSchema.Proofs.Files.Paths
import RpcSchema.Proofs.Naming.Marks
import RpcSchema.Proofs.Schema.Names
import RpcSchema.Proofs.Validation.Acceptance
import RpcSchema.Target.MarkdownDocs

/-!
# Pages of the documentation

Documentation is generated for every accepted schema, a file for each page. What the paths of pages
and of links between them stand for is read off their parts: the name that a page has in its
directory has no slash in it.
-/

namespace RpcSchema

open Files MarkdownPage Text

/-! ## Names of pages -/

/-- A name that can stand in the path of a link: it ends neither a step nor the path. -/
def IsPlain (name : String) : Prop := '/' ∉ name.toList ∧ '#' ∉ name.toList

theorem isPlain_docName (name : String) : IsPlain (docName name) :=
  ⟨Naming.not_mem_exportedName (by decide) _ name, Naming.not_mem_exportedName (by decide) _ name⟩

theorem Method.IsNamed.isPlain {method : Method} (named : method.IsNamed) : IsPlain method.name :=
  ⟨Code.not_mem_of_isIdentifier named.1 (by decide),
    Code.not_mem_of_isIdentifier named.1 (by decide)⟩

namespace MarkdownPage

/-! ## Parts of elements -/

section Parts

variable {α β : Type} {part : Element → Option α}

/-- What is read off the elements of a page. -/
def partsOf (part : Element → Option α) (page : List Element) : List α := page.filterMap part

@[simp] theorem partsOf_nil : partsOf part [] = [] := rfl

@[simp] theorem partsOf_cons (element : Element) (rest : List Element) :
    partsOf part (element :: rest) = (part element).toList ++ partsOf part rest := by
  rw [partsOf, List.filterMap_cons, partsOf]
  cases part element <;> rfl

@[simp] theorem partsOf_append (front rest : List Element) :
    partsOf part (front ++ rest) = partsOf part front ++ partsOf part rest :=
  List.filterMap_append

@[simp] theorem partsOf_map (items : List β) (element : β → Element) :
    partsOf part (items.map element) = items.flatMap fun item => (part (element item)).toList := by
  induction items with
  | nil => rfl
  | cons item rest ih => rw [List.map_cons, partsOf_cons, ih, List.flatMap_cons]

@[simp] theorem partsOf_flatMap (items : List β) (elements : β → List Element) :
    partsOf part (items.flatMap elements) =
      items.flatMap fun item => partsOf part (elements item) := by
  induction items with
  | nil => rfl
  | cons item rest ih => rw [List.flatMap_cons, partsOf_append, ih, List.flatMap_cons]

end Parts

def Element.anchor? : Element → Option String
  | .anchor id => some id
  | _ => none

/-- The anchors on a page. -/
def anchorsOf (page : List Element) : List String := partsOf Element.anchor? page

theorem mem_anchorsOf {page : List Element} {id : String} :
    id ∈ anchorsOf page ↔ .anchor id ∈ page := by
  have isAnchor : ∀ element : Element, element.anchor? = some id ↔ element = .anchor id := by
    intro element
    cases element <;> simp [Element.anchor?]
  simp [anchorsOf, partsOf, isAnchor]

/-! ## Prose -/

/-- Elements that stand for themselves: they have no anchor, no link and no field. -/
def Element.isProse : Element → Bool
  | .line _ | .blank | .tableHead _ | .json _ => true
  | .anchor _ | .item .. | .methodRow .. | .fieldRow .. => false

theorem partsOf_of_isProse {α : Type} {part : Element → Option α}
    (apart : ∀ element : Element, element.isProse → part element = none) {page : List Element}
    (prose : page.all Element.isProse) : partsOf part page = [] :=
  List.filterMap_eq_nil_iff.mpr fun element member =>
    apart element (List.all_eq_true.mp prose element member)

@[simp] theorem isProse_heading (level : Nat) (title : String) :
    (heading level title).all Element.isProse := by
  simp [heading, Element.isProse]

@[simp] theorem isProse_paragraph (text : String) : (paragraph text).all Element.isProse := by
  rw [paragraph]
  split <;> rfl

@[simp] theorem isProse_optionalJson (value : Option Json.Value) :
    (optionalJson value).all Element.isProse := by
  cases value <;> rfl

@[simp] theorem isProse_typeExamples (level : Nat) (examples : List TypeExample) :
    (typeExamples level examples).all Element.isProse := by
  rw [typeExamples]
  split
  · rfl
  · simp [List.all_flatMap, Element.isProse]

@[simp] theorem isProse_methodExample (level : Nat) (sample : MethodExample) :
    (methodExample level sample).all Element.isProse := by
  rw [methodExample]
  split <;> simp [Element.isProse]

@[simp] theorem isProse_methodExamples (level : Nat) (examples : List MethodExample) :
    (methodExamples level examples).all Element.isProse := by
  unfold methodExamples
  split
  · rfl
  · simp
  · simp [List.all_flatMap]

end MarkdownPage

/-! ## Generating pages -/

namespace MarkdownDocs

variable {schema : Schema}

/-- An accepted schema has documentation: a file for each page. -/
theorem generate_eq (config : MarkdownDocs) (accepted : schema.Accepted) :
    config.backend.generate schema = .done (config.emit schema) :=
  accepted.generate_eq config.backend

theorem mem_types {config : MarkdownDocs} {type : TypeDecl} :
    type ∈ config.types schema ↔
      (∃ entry ∈ schema.types, entry.2 = type) ∧
        (config.includePrivate = true ∨ type.isPrivate = false) := by
  simp [types]

theorem mem_methods {config : MarkdownDocs} {method : Method} :
    method ∈ config.methods schema ↔
      method ∈ schema.methods ∧ (config.includePrivate = true ∨ method.isPrivate = false) := by
  simp [methods, isVisible]

theorem mem_groupedMethods {config : MarkdownDocs} {entry : Group × List Method} :
    entry ∈ config.groupedMethods schema ↔
      entry.1 ∈ schema.groups ∧
        entry.2 = (config.methods schema).filter (fun method => method.group == entry.1.name) ∧
        entry.2 ≠ [] := by
  have commuted : ∀ group : Group, (schema.methodsIn group.name).filter config.isVisible =
      (config.methods schema).filter fun method => method.group == group.name := fun group => by
    rw [Schema.methodsIn, methods, List.filter_filter, List.filter_filter]
    simp only [Bool.and_comm]
  obtain ⟨group, listed⟩ := entry
  simp only [groupedMethods, commuted, List.mem_filter, List.mem_map, Prod.mk.injEq,
    Bool.not_eq_true', List.isEmpty_eq_false_iff]
  constructor
  · rintro ⟨⟨declared, isGroup, rfl, rfl⟩, nonempty⟩
    exact ⟨isGroup, rfl, nonempty⟩
  · rintro ⟨isGroup, same, nonempty⟩
    exact ⟨⟨group, isGroup, rfl, same.symm⟩, nonempty⟩

/-- The sections of the page of methods: one for each group with visible methods, then one for the
methods of no declared group. -/
def sections (config : MarkdownDocs) (schema : Schema) : List (Group × List Method) :=
  config.groupedMethods schema ++
    if (config.ungroupedMethods schema).isEmpty then []
    else [({ name := "other" }, config.ungroupedMethods schema)]

theorem singleMethodsPage_eq (config : MarkdownDocs) (schema : Schema) :
    config.singleMethodsPage schema =
      frontMatter "Methods" "methods" ("Method documentation for the " ++ schema.name ++ " API.") ++
        (config.sections schema).flatMap fun entry =>
          methodSection entry.1.name entry.1.description entry.2 := by
  rw [sections, List.flatMap_append, ← List.append_assoc, singleMethodsPage]
  congr 1
  split
  · rfl
  · rw [List.flatMap_singleton]

/-- Only visible methods have a place in a section. -/
theorem mem_methods_of_mem_sections {config : MarkdownDocs} {entry : Group × List Method}
    (listed : entry ∈ config.sections schema) {method : Method} (member : method ∈ entry.2) :
    method ∈ config.methods schema := by
  rcases List.mem_append.mp listed with grouped | others
  · rw [(mem_groupedMethods.mp grouped).2.1] at member
    exact List.mem_of_mem_filter member
  · split at others
    · cases others
    · obtain rfl := List.mem_singleton.mp others
      exact List.mem_of_mem_filter member

end MarkdownDocs

end RpcSchema
