import RpcSchema.Proofs.Schema.Reordering

/-!
# Canonical schemas

In a canonical schema every list of named declarations is in the order of the names, and every type
has its key for a name. Canonicalizing leaves such a schema, and so does loading.
-/

namespace RpcSchema

/-- A schema in canonical form. -/
structure Schema.IsCanonical (schema : Schema) : Prop where
  groups : schema.groups.Pairwise fun first second => first.name ≤ second.name
  methods : schema.methods.Pairwise fun first second => first.name ≤ second.name
  inputs : ∀ method ∈ schema.methods,
    method.inputs.Pairwise fun first second => first.name ≤ second.name
  outputs : ∀ method ∈ schema.methods,
    method.outputs.Pairwise fun first second => first.name ≤ second.name
  properties : ∀ entry ∈ schema.types,
    entry.2.properties.Pairwise fun first second => first.name ≤ second.name
  named : ∀ entry ∈ schema.types, entry.2.name = entry.1

/-- A method of a canonical form is the canonical form of a declared method. -/
theorem Schema.exists_of_mem_canonicalize {schema : Schema} {method : Method}
    (member : method ∈ schema.canonicalize.methods) :
    ∃ declared : Method, method = declared.canonicalize := by
  have unsorted := (sortByName_perm Method.name _).mem_iff.mp member
  obtain ⟨declared, _, rfl⟩ := List.mem_map.mp unsorted
  exact ⟨declared, rfl⟩

theorem Schema.isCanonical_canonicalize (schema : Schema) : schema.canonicalize.IsCanonical where
  groups := pairwise_sortByName Group.name schema.groups
  methods := pairwise_sortByName Method.name _
  inputs method member := by
    obtain ⟨declared, rfl⟩ := exists_of_mem_canonicalize member
    exact pairwise_sortByName Field.name declared.inputs
  outputs method member := by
    obtain ⟨declared, rfl⟩ := exists_of_mem_canonicalize member
    exact pairwise_sortByName Field.name declared.outputs
  properties entry member := by
    obtain ⟨declared, _, rfl⟩ := List.mem_map.mp member
    exact pairwise_sortByName Field.name declared.2.properties
  named entry member := by
    obtain ⟨declared, _, rfl⟩ := List.mem_map.mp member
    rfl

theorem isCanonical_of_load {text : String} {schema : Schema} (loaded : load text = .ok schema) :
    schema.IsCanonical := by
  obtain ⟨_, declared, _, _, _, rfl⟩ := exists_of_load loaded
  exact declared.isCanonical_canonicalize

theorem sortByName_of_pairwise {α : Type} {name : α → String} {items : List α}
    (sorted : items.Pairwise fun first second => name first ≤ name second) :
    sortByName name items = items :=
  List.mergeSort_of_pairwise (sorted.imp fun ordered => decide_eq_true ordered)

theorem Method.canonicalize_of_pairwise {method : Method}
    (inputs : method.inputs.Pairwise fun first second => first.name ≤ second.name)
    (outputs : method.outputs.Pairwise fun first second => first.name ≤ second.name) :
    method.canonicalize = method := by
  rw [canonicalize, sortByName_of_pairwise inputs, sortByName_of_pairwise outputs]

theorem TypeDecl.canonicalize_of_pairwise {type : TypeDecl}
    (properties : type.properties.Pairwise fun first second => first.name ≤ second.name) :
    type.canonicalize type.name = type := by
  rw [canonicalize, sortByName_of_pairwise properties]

/-- A canonical schema is its own canonical form. -/
theorem Schema.IsCanonical.canonicalize_eq {schema : Schema} (canonical : schema.IsCanonical) :
    schema.canonicalize = schema := by
  have groups : schema.canonicalize.groups = schema.groups :=
    sortByName_of_pairwise canonical.groups
  have methods : schema.canonicalize.methods = schema.methods := by
    have own : schema.methods.map Method.canonicalize = schema.methods :=
      (List.map_congr_left fun method member => Method.canonicalize_of_pairwise
        (canonical.inputs method member) (canonical.outputs method member)).trans (List.map_id _)
    exact (congrArg _ own).trans (sortByName_of_pairwise canonical.methods)
  have types : schema.canonicalize.types = schema.types := by
    refine (List.map_congr_left fun entry member => ?_).trans (List.map_id _)
    obtain ⟨key, type⟩ := entry
    obtain rfl : type.name = key := canonical.named _ member
    exact congrArg (Prod.mk type.name)
      (TypeDecl.canonicalize_of_pairwise (canonical.properties _ member))
  calc schema.canonicalize
      = { schema with
          groups := schema.canonicalize.groups
          methods := schema.canonicalize.methods
          types := schema.canonicalize.types } := rfl
    _ = schema := by rw [groups, methods, types]

/-- The schema as documents have it: types have no names besides their keys. -/
def Schema.unnamed (schema : Schema) : Schema :=
  { schema with types := schema.types.map fun entry => (entry.1, { entry.2 with name := "" }) }

theorem Schema.IsCanonical.canonicalize_unnamed {schema : Schema} (canonical : schema.IsCanonical) :
    schema.unnamed.canonicalize = schema := by
  have named : schema.unnamed.canonicalize = schema.canonicalize := by
    rw [canonicalize, canonicalize, unnamed, List.map_map]
    rfl
  rw [named, canonical.canonicalize_eq]

/-- What a reference leads to in a canonical schema has the name of the reference. -/
theorem Schema.IsCanonical.name_of_lookup? {schema : Schema} (canonical : schema.IsCanonical)
    {target : TypeRef} {type : TypeDecl} (found : schema.lookup? target = some type) :
    type.name = target.name :=
  canonical.named (target.name, type) (Json.mem_of_lookup_eq_some found)

/-! ## Loading given texts -/

/-- The characters of a text. A text is kept as bytes, which take long to decode when a given text is
evaluated; those of a literal are known without. -/
def Spells (text : String) (chars : List Char) : Prop := text.toList = chars

namespace Spells

theorem literal {chars : List Char} : Spells (String.ofList chars) chars := String.toList_ofList

theorem append {front rest : String} {chars others : List Char} (first : Spells front chars)
    (second : Spells rest others) : Spells (front ++ rest) (chars ++ others) := by
  rw [Spells, String.toList_append, first, second]

end Spells

/-- The document that characters stand for. -/
def Json.Document.ofChars (chars : List Char) : Json.Document :=
  let cursor := Json.Cursor.skipGap ⟨chars, .start⟩
  let (root, after) := Json.readNode (3 * cursor.rest.length + 1) cursor
  ⟨root, after.map fun cursor => cursor.skipGap.place⟩

/-- A text that decodes to a canonical schema loads as that. -/
theorem load_of_canonical {text : String} {chars : List Char} {schema : Schema}
    (canonical : schema.IsCanonical) (spelled : Spells text chars)
    (clean : ((Json.Document.ofChars chars).decode .value).toOption.any fun document =>
      (structuralViolations document).isEmpty)
    (decoded : (Json.Document.ofChars chars).decode Schema.decode = .ok schema.unnamed) :
    load text = .ok schema := by
  have document : Json.Document.ofText text = Json.Document.ofChars chars := by
    rw [← spelled]
    rfl
  rw [← document] at clean decoded
  cases parsed : Json.Value.ofText text with
  | error fault =>
      rw [← Json.Value.ofText, parsed] at clean
      cases clean
  | ok document =>
      rw [← Json.Value.ofText, parsed] at clean
      rw [load_eq parsed (List.isEmpty_iff.mp clean) decoded, canonical.canonicalize_unnamed]

end RpcSchema
