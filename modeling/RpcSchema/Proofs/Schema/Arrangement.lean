import RpcSchema.Proofs.Schema.Canonical
import RpcSchema.Proofs.Text.Bytes

/-!
# What canonicalizing does

A list of named declarations has one arrangement in which the names are in the order of their bytes
and declarations of one name stand as they stood before. The canonical form of a schema has every
such list arranged, names every type by its key, and changes nothing else; that leaves no choice, so
it is the only schema that is arranged in this way.
-/

namespace RpcSchema

/-! ## Arranging a list -/

/-- The items in the order of the bytes of their names; those of one name in the order they had. -/
structure IsArrangement {α : Type} (name : α → String) (items arranged : List α) : Prop where
  perm : arranged.Perm items
  sorted : arranged.Pairwise fun first second =>
    Text.bytes (name first) ≤ Text.bytes (name second)
  stable : ∀ shared, (arranged.filter fun item => name item == shared) =
    items.filter fun item => name item == shared

section Arranging

variable {α : Type} {name : α → String}

/-- Items of one name are not reordered. -/
theorem filter_sortByName (items : List α) (shared : String) :
    ((sortByName name items).filter fun item => name item == shared) =
      items.filter fun item => name item == shared := by
  -- What shares a name is sorted as it stands, so a stable sort keeps it as a sublist.
  have alike : (items.filter fun item => name item == shared).Pairwise
      fun first second => decide (name first ≤ name second) = true := by
    refine List.pairwise_of_forall_mem_list fun first isFirst second isSecond => ?_
    have firstName := eq_of_beq (List.mem_filter.mp isFirst).2
    have secondName := eq_of_beq (List.mem_filter.mp isSecond).2
    rw [firstName, secondName]
    exact decide_eq_true (String.le_refl shared)
  have kept : (items.filter fun item => name item == shared).Sublist (sortByName name items) :=
    List.sublist_mergeSort (decide_name_trans name) (decide_name_total name) alike
      List.filter_sublist
  have sameLength := ((sortByName_perm name items).filter fun item => name item == shared).length_eq
  have within := kept.filter fun item => name item == shared
  rw [List.filter_filter] at within
  simp only [Bool.and_self] at within
  exact (within.eq_of_length sameLength.symm).symm

theorem isArrangement_sortByName (items : List α) :
    IsArrangement name items (sortByName name items) where
  perm := sortByName_perm name items
  sorted := (pairwise_sortByName name items).imp fun ordered => Text.bytes_le_iff.mpr ordered
  stable := filter_sortByName items

theorem mem_iff_of_filter_eq {items others : List α}
    (same : ∀ shared, (items.filter fun item => name item == shared) =
      others.filter fun item => name item == shared) (item : α) : item ∈ items ↔ item ∈ others := by
  have sharing := congrArg (item ∈ ·) (same (name item))
  simpa using sharing

/-- Lists that are in the order of their names are the same when each name has the same items. -/
theorem eq_of_filter_eq {items others : List α}
    (sorted : items.Pairwise fun first second => name first ≤ name second)
    (otherSorted : others.Pairwise fun first second => name first ≤ name second)
    (same : ∀ shared, (items.filter fun item => name item == shared) =
      others.filter fun item => name item == shared) : items = others := by
  induction items generalizing others with
  | nil =>
      cases others with
      | nil => rfl
      | cons other rest =>
          exact absurd ((mem_iff_of_filter_eq same other).mpr List.mem_cons_self) List.not_mem_nil
  | cons item items ih =>
      cases others with
      | nil =>
          exact absurd ((mem_iff_of_filter_eq same item).mp List.mem_cons_self) List.not_mem_nil
      | cons other others =>
          have member := mem_iff_of_filter_eq same
          obtain ⟨leastHere, sortedHere⟩ := List.pairwise_cons.mp sorted
          obtain ⟨leastThere, sortedThere⟩ := List.pairwise_cons.mp otherSorted
          -- Each of the two heads is the least of all, so they share a name and come first in it.
          have below : name item ≤ name other := by
            rcases List.mem_cons.mp ((member other).mpr List.mem_cons_self) with rfl | later
            · exact String.le_refl _
            · exact leastHere other later
          have above : name other ≤ name item := by
            rcases List.mem_cons.mp ((member item).mp List.mem_cons_self) with rfl | later
            · exact String.le_refl _
            · exact leastThere item later
          have sameName := String.le_antisymm above below
          have heads := same (name item)
          rw [List.filter_cons, List.filter_cons, if_pos (beq_self_eq_true _),
            if_pos (beq_iff_eq.mpr sameName), List.cons.injEq] at heads
          obtain ⟨rfl, _⟩ := heads
          have sameRest : ∀ shared, (items.filter fun item => name item == shared) =
              others.filter fun item => name item == shared := by
            intro shared
            have whole := same shared
            rw [List.filter_cons, List.filter_cons] at whole
            split at whole
            · exact (List.cons.inj whole).2
            · exact whole
          rw [ih sortedHere sortedThere sameRest]

theorem IsArrangement.eq_sortByName {items arranged : List α}
    (arrangement : IsArrangement name items arranged) : arranged = sortByName name items := by
  refine eq_of_filter_eq (arrangement.sorted.imp Text.bytes_le_iff.mp)
    (pairwise_sortByName name items) fun shared => ?_
  rw [arrangement.stable shared, filter_sortByName]

end Arranging

/-! ## Arranging a schema -/

/-- The method with its inputs and its outputs arranged. -/
structure Method.IsArranged (method arranged : Method) : Prop where
  inputs : IsArrangement Field.name method.inputs arranged.inputs
  outputs : IsArrangement Field.name method.outputs arranged.outputs
  rest : { arranged with inputs := method.inputs, outputs := method.outputs } = method

/-- The type of a key with its properties arranged. -/
structure TypeDecl.IsArranged (key : String) (type arranged : TypeDecl) : Prop where
  named : arranged.name = key
  properties : IsArrangement Field.name type.properties arranged.properties
  rest : { arranged with name := type.name, properties := type.properties } = type

/-- The schema with its groups and methods arranged, its methods and types each arranged within, and
everything else as it was. -/
structure Schema.IsArranged (schema arranged : Schema) : Prop where
  groups : IsArrangement Group.name schema.groups arranged.groups
  methods : ∃ moved, IsArrangement Method.name schema.methods moved ∧
    List.Forall₂ Method.IsArranged moved arranged.methods
  types : List.Forall₂ (fun entry renewed =>
    renewed.1 = entry.1 ∧ entry.2.IsArranged entry.1 renewed.2) schema.types arranged.types
  rest : { arranged with
    groups := schema.groups, methods := schema.methods, types := schema.types } = schema

theorem Method.isArranged_canonicalize (method : Method) :
    method.IsArranged method.canonicalize :=
  ⟨isArrangement_sortByName _, isArrangement_sortByName _, rfl⟩

theorem Method.IsArranged.eq_canonicalize {method arranged : Method}
    (isArranged : method.IsArranged arranged) : arranged = method.canonicalize := by
  rw [← isArranged.rest, canonicalize, ← isArranged.inputs.eq_sortByName,
    ← isArranged.outputs.eq_sortByName]

theorem TypeDecl.isArranged_canonicalize (key : String) (type : TypeDecl) :
    type.IsArranged key (type.canonicalize key) :=
  ⟨rfl, isArrangement_sortByName _, rfl⟩

theorem TypeDecl.IsArranged.eq_canonicalize {key : String} {type arranged : TypeDecl}
    (isArranged : type.IsArranged key arranged) : arranged = type.canonicalize key := by
  rw [← isArranged.rest, canonicalize, ← isArranged.properties.eq_sortByName, ← isArranged.named]

/-- Methods keep their names, so it does not matter whether they are arranged before or after what
is in them. -/
theorem sortByName_map_canonicalize (methods : List Method) :
    sortByName Method.name (methods.map Method.canonicalize) =
      (sortByName Method.name methods).map Method.canonicalize := by
  refine (List.map_mergeSort ?_).symm
  exact fun _ _ _ _ => rfl

theorem Schema.isArranged_canonicalize (schema : Schema) :
    schema.IsArranged schema.canonicalize where
  groups := isArrangement_sortByName _
  methods := by
    refine ⟨sortByName Method.name schema.methods, isArrangement_sortByName _, ?_⟩
    rw [canonicalize, sortByName_map_canonicalize, List.forall₂_map_right_iff]
    exact List.forall₂_same.mpr fun method _ => method.isArranged_canonicalize
  types := by
    rw [canonicalize, List.forall₂_map_right_iff]
    exact List.forall₂_same.mpr fun entry _ => ⟨rfl, entry.2.isArranged_canonicalize entry.1⟩
  rest := rfl

theorem eq_map_of_forall₂ {α β : Type} {f : α → β} {items : List α} {results : List β}
    (each : List.Forall₂ (fun item result => result = f item) items results) :
    results = items.map f := by
  induction each with
  | nil => rfl
  | cons head _ ih => rw [List.map_cons, head, ih]

theorem Schema.IsArranged.eq_canonicalize {schema arranged : Schema}
    (isArranged : schema.IsArranged arranged) : arranged = schema.canonicalize := by
  obtain ⟨moved, isMoved, within⟩ := isArranged.methods
  have groups : arranged.groups = schema.canonicalize.groups := isArranged.groups.eq_sortByName
  have methods : arranged.methods = schema.canonicalize.methods := by
    rw [canonicalize, sortByName_map_canonicalize, ← isMoved.eq_sortByName]
    exact eq_map_of_forall₂ (within.imp fun _ _ each => each.eq_canonicalize)
  have types : arranged.types = schema.canonicalize.types :=
    eq_map_of_forall₂ (isArranged.types.imp fun _ _ each =>
      Prod.ext each.1 each.2.eq_canonicalize)
  calc arranged
      = { { arranged with
            groups := schema.groups, methods := schema.methods, types := schema.types } with
          groups := arranged.groups
          methods := arranged.methods
          types := arranged.types } := rfl
    _ = { schema with
          groups := schema.canonicalize.groups
          methods := schema.canonicalize.methods
          types := schema.canonicalize.types } := by
      rw [isArranged.rest, groups, methods, types]
    _ = schema.canonicalize := rfl

/-- The canonical form of a schema is the schema arranged, and nothing else is. Every type is named
by its key; groups, methods, properties, inputs and outputs are in the order of the bytes of their
names, and those of one name in the order they had; whatever else is declared is as it was, and
arranging again changes nothing. -/
theorem canonicalize_arranges (schema : Schema) :
    schema.IsArranged schema.canonicalize ∧
      (∀ other, schema.IsArranged other → other = schema.canonicalize) ∧
      schema.canonicalize.canonicalize = schema.canonicalize :=
  ⟨schema.isArranged_canonicalize, fun _ isArranged => isArranged.eq_canonicalize,
    schema.isCanonical_canonicalize.canonicalize_eq⟩

end RpcSchema
