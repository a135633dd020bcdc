import Mathlib.Data.List.Nodup
import RpcSchema.Json.Value

/-!
# Members in the order of their keys

Bringing members into the order of their keys loses the order they were given in and all but the
last of several with one key. What a key has is then found by searching the given members from the
last one on.
-/

namespace RpcSchema.Json

variable {α β : Type}

@[simp] theorem lookup_cons_eq {κ : Type} [BEq κ] [LawfulBEq κ] [DecidableEq κ] (key : κ)
    (value : α) (members : List (κ × α)) (name : κ) :
    ((key, value) :: members).lookup name =
      if name = key then some value else members.lookup name := by
  rw [List.lookup_cons]
  by_cases same : name = key
  · simp [same]
  · rw [beq_eq_false_iff_ne.mpr same, if_neg same]

theorem lookup_cons_eq_none_iff {key name : String} {value : α} {members : List (String × α)} :
    ((key, value) :: members).lookup name = none ↔ name ≠ key ∧ members.lookup name = none := by
  rw [lookup_cons_eq]
  split <;> simp [*]

theorem lookup_putMember (key : String) (value : α) (members : List (String × α))
    (name : String) :
    (putMember key value members).lookup name =
      if name = key then some value else members.lookup name := by
  induction members with
  | nil => exact lookup_cons_eq key value [] name
  | cons head rest ih =>
      obtain ⟨other, old⟩ := head
      rw [putMember]
      -- The member goes before the head, in its place, or somewhere behind it.
      split
      · exact lookup_cons_eq key value _ name
      · split
        · rename_i replaced
          subst replaced
          rw [lookup_cons_eq, lookup_cons_eq]
          by_cases same : name = key <;> simp [same]
        · rename_i kept
          rw [lookup_cons_eq, lookup_cons_eq, ih]
          by_cases same : name = key
          · have another : name ≠ other := fun atHead => kept (same.symm.trans atHead)
            rw [if_neg another, if_pos same, if_pos same]
          · rw [if_neg same, if_neg same]

theorem lookup_foldl_putMember (members ordered : List (String × α)) (name : String) :
    (members.foldl (fun ordered member => putMember member.1 member.2 ordered) ordered).lookup
        name =
      (members.reverse.lookup name).or (ordered.lookup name) := by
  induction members generalizing ordered with
  | nil => rfl
  | cons head rest ih =>
      obtain ⟨key, value⟩ := head
      rw [List.foldl_cons, ih, lookup_putMember, List.reverse_cons, List.lookup_append,
        Option.or_assoc, lookup_cons_eq]
      by_cases same : name = key <;> simp [same]

theorem mem_of_mem_putMember {key : String} {value : α} {members : List (String × α)}
    {entry : String × α} (member : entry ∈ putMember key value members) :
    entry = (key, value) ∨ entry ∈ members := by
  induction members with
  | nil => exact .inl (List.mem_singleton.mp member)
  | cons head rest ih =>
      rw [putMember] at member
      split at member
      · exact List.mem_cons.mp member
      · split at member
        · exact (List.mem_cons.mp member).imp_right (List.mem_cons_of_mem _)
        · rcases List.mem_cons.mp member with rfl | later
          · exact .inr List.mem_cons_self
          · exact (ih later).imp_right (List.mem_cons_of_mem _)

/-- A member keeps its place among ascending keys. -/
theorem pairwise_putMember {members : List (String × α)} (ascending : members.Pairwise (·.1 < ·.1))
    (key : String) (value : α) : (putMember key value members).Pairwise (·.1 < ·.1) := by
  induction members with
  | nil => exact List.pairwise_singleton _ _
  | cons head rest ih =>
      obtain ⟨other, old⟩ := head
      obtain ⟨first, behind⟩ := List.pairwise_cons.mp ascending
      unfold putMember
      split
      · next before =>
        refine List.pairwise_cons.mpr ⟨?_, ascending⟩
        intro entry member
        rcases List.mem_cons.mp member with rfl | later
        · exact before
        · exact String.lt_trans before (first entry later)
      · next notBefore =>
        split
        · next same =>
          subst same
          exact List.pairwise_cons.mpr ⟨first, behind⟩
        · next notSame =>
          refine List.pairwise_cons.mpr ⟨?_, ih behind⟩
          intro entry member
          rcases mem_of_mem_putMember member with rfl | old
          · by_contra notBehind
            exact notSame
              (String.le_antisymm (String.not_lt.mp notBehind) (String.not_lt.mp notBefore))
          · exact first entry old

/-- Ordered members have ascending keys, and none is new. -/
theorem orderMembers_spec (members : List (String × α)) :
    (orderMembers members).Pairwise (·.1 < ·.1) ∧ ∀ entry ∈ orderMembers members, entry ∈ members := by
  have folded : ∀ ordered : List (String × α), ordered.Pairwise (·.1 < ·.1) →
      (members.foldl (fun ordered member => putMember member.1 member.2 ordered) ordered).Pairwise
        (·.1 < ·.1) ∧
      ∀ entry ∈ members.foldl (fun ordered member => putMember member.1 member.2 ordered) ordered,
        entry ∈ members ∨ entry ∈ ordered := by
    induction members with
    | nil => exact fun ordered ascending => ⟨ascending, fun entry member => .inr member⟩
    | cons head rest ih =>
        intro ordered ascending
        obtain ⟨sorted, known⟩ := ih _ (pairwise_putMember ascending head.1 head.2)
        refine ⟨sorted, fun entry member => ?_⟩
        rcases known entry member with inRest | put
        · exact .inl (List.mem_cons_of_mem _ inRest)
        · rcases mem_of_mem_putMember put with rfl | old
          · exact .inl List.mem_cons_self
          · exact .inr old
  obtain ⟨sorted, known⟩ := folded [] List.Pairwise.nil
  exact ⟨sorted, fun entry member => (known entry member).resolve_right List.not_mem_nil⟩

/-- In ordered members a key has what the last member of that key gave it. -/
theorem lookup_orderMembers (members : List (String × α)) (name : String) :
    (orderMembers members).lookup name = members.reverse.lookup name := by
  rw [orderMembers, lookup_foldl_putMember, List.lookup_nil, Option.or_none]

theorem lookup_eq_some_of_mem {members : List (String × α)}
    (distinct : (members.map (·.1)).Nodup) {name : String} {value : α}
    (member : (name, value) ∈ members) : members.lookup name = some value := by
  induction members with
  | nil => exact absurd member List.not_mem_nil
  | cons head rest ih =>
      rw [List.map_cons, List.nodup_cons] at distinct
      cases member with
      | head => exact List.lookup_cons_self
      | tail _ inRest =>
          have another : name ≠ head.1 := fun same =>
            distinct.1 (same ▸ List.mem_map_of_mem inRest)
          rw [List.lookup_cons, beq_eq_false_iff_ne.mpr another]
          exact ih distinct.2 inRest

theorem exists_lookup_of_mem_keys {members : List (String × α)} {name : String}
    (present : name ∈ members.map (·.1)) : ∃ value, members.lookup name = some value := by
  obtain ⟨entry, member, sameKey⟩ := List.mem_map.mp present
  have found : (members.lookup name).isSome :=
    List.lookup_isSome_iff.mpr ⟨entry, member, beq_iff_eq.mpr sameKey.symm⟩
  exact Option.isSome_iff_exists.mp found

theorem mem_of_lookup_eq_some {members : List (String × α)} {name : String} {value : α}
    (found : members.lookup name = some value) : (name, value) ∈ members := by
  obtain ⟨before, after, rfl, _⟩ := List.lookup_eq_some_iff.mp found
  exact List.mem_append_right before List.mem_cons_self

theorem lookup_reverse_of_nodup {members : List (String × α)}
    (distinct : (members.map (·.1)).Nodup) (name : String) :
    members.reverse.lookup name = members.lookup name := by
  have reversed : (members.reverse.map (·.1)).Nodup := by
    rw [List.map_reverse]
    exact List.nodup_reverse.mpr distinct
  ext value
  constructor
  · intro found
    exact lookup_eq_some_of_mem distinct (List.mem_reverse.mp (mem_of_lookup_eq_some found))
  · intro found
    exact lookup_eq_some_of_mem reversed (List.mem_reverse.mpr (mem_of_lookup_eq_some found))

/-- Members without a repeated key all stay when they are ordered. -/
theorem lookup_orderMembers_of_mem {members : List (String × α)}
    (distinct : (members.map (·.1)).Nodup) {name : String} {value : α}
    (member : (name, value) ∈ members) : (orderMembers members).lookup name = some value := by
  rw [lookup_orderMembers, lookup_reverse_of_nodup distinct]
  exact lookup_eq_some_of_mem distinct member

/-! ## Changing the values -/

theorem putMember_map (change : α → β) (key : String) (value : α)
    (members : List (String × α)) :
    putMember key (change value) (members.map fun member => (member.1, change member.2)) =
      (putMember key value members).map fun member => (member.1, change member.2) := by
  induction members with
  | nil => rfl
  | cons head rest ih =>
      rw [List.map_cons, putMember, putMember, ih]
      split
      · rfl
      · split <;> rfl

theorem foldl_putMember_map (change : α → β) (members ordered : List (String × α)) :
    (members.map fun member => (member.1, change member.2)).foldl
        (fun ordered member => putMember member.1 member.2 ordered)
        (ordered.map fun member => (member.1, change member.2)) =
      (members.foldl (fun ordered member => putMember member.1 member.2 ordered) ordered).map
        fun member => (member.1, change member.2) := by
  induction members generalizing ordered with
  | nil => rfl
  | cons head rest ih =>
      obtain ⟨key, value⟩ := head
      simp only [List.map_cons, List.foldl_cons]
      rw [putMember_map, ih]

theorem orderMembers_map (change : α → β) (members : List (String × α)) :
    orderMembers (members.map fun member => (member.1, change member.2)) =
      (orderMembers members).map fun member => (member.1, change member.2) :=
  foldl_putMember_map change members []

end RpcSchema.Json
