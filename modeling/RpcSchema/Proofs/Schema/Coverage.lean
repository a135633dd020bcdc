import RpcSchema.Proofs.Schema.Conformance
import RpcSchema.Proofs.Schema.Reading

/-!
# Whatever has the form of a schema is decoded

A decoder covers a form when it can decode every tree that has a value of the form and whose keys
are distinct where the form looks. Part by part the decoders of schemas cover the forms that
documents are checked for: their rules on missing, repeated and unknown members refuse nothing that
the check lets pass.
-/

namespace RpcSchema

open Json

namespace Json

/-- Every tree with a value of the form and distinct keys is decoded. -/
def Decoder.Covers {α : Type} (decode : Decoder α) (shape : Shape) : Prop :=
  ∀ ⦃depth : Nat⦄ ⦃node : Node⦄ ⦃value : Value⦄, node.value depth = .ok value →
    shape.Accepts value → node.keysDistinct shape = true →
      ∃ result, decode depth node = .ok result

namespace Decoder

theorem value_covers (shape : Shape) : Decoder.value.Covers shape := by
  intro depth node value valued _ _
  exact ⟨value, valued⟩

theorem string_covers (rule : TextRule) : Decoder.string.Covers (.text rule) := by
  intro depth node value valued accepted _
  obtain ⟨content, rfl, _⟩ := Shape.exists_text accepted
  cases Node.reads valued with
  | string _ stop => exact ⟨content, rfl⟩

theorem bool_covers : Decoder.bool.Covers .boolean := by
  intro depth node value valued accepted _
  obtain ⟨flag, rfl⟩ := Shape.exists_bool accepted
  cases Node.reads valued with
  | bool _ stop => exact ⟨flag, rfl⟩

variable {α : Type} {decode : Decoder α} {shape : Shape}

theorem Covers.optional (covers : decode.Covers shape) :
    (Decoder.optional decode).Covers shape := by
  intro depth node value valued accepted distinct
  by_cases isNull : value = .null
  · subst isNull
    cases Node.reads valued with
    | null stop => exact ⟨none, rfl⟩
  · obtain ⟨result, decoded⟩ := covers valued accepted distinct
    rw [optional_of_ne_null valued isNull, decoded]
    exact ⟨some result, rfl⟩

theorem Covers.elements (covers : decode.Covers shape) {depth : Nat} (elements : Elements)
    {items : List Value} (valued : elements.values depth = .ok items)
    (accepted : ∀ value ∈ items, shape.Accepts value)
    (distinct : elements.keysDistinct shape = true) :
    ∃ results, Decoder.elements decode depth elements = .ok results := by
  cases elements with
  | close place => exact ⟨[], rfl⟩
  | cut place => cases valued
  | next start head tail =>
      obtain ⟨isElement, first, rest, headValued, tailValued, rfl⟩ :=
        Elements.values_next valued
      rw [Elements.keysDistinct, Bool.and_eq_true] at distinct
      obtain ⟨one, headDecoded⟩ :=
        covers headValued (accepted first List.mem_cons_self) distinct.1
      obtain ⟨others, tailDecoded⟩ := covers.elements tail tailValued
        (fun value member => accepted value (List.mem_cons_of_mem _ member)) distinct.2
      rw [Decoder.elements, if_neg isElement, bind_of_eq_ok headDecoded,
        bind_of_eq_ok tailDecoded]
      exact ⟨one :: others, rfl⟩

theorem Covers.list (covers : decode.Covers shape) :
    (Decoder.list decode).Covers (.list shape) := by
  intro depth node value valued accepted distinct
  obtain ⟨items, rfl, itemsAccepted⟩ := Shape.exists_items accepted
  cases Node.reads valued with
  | @array start elements inner _ entered read =>
      rw [Decoder.list, bind_of_eq_ok entered]
      rw [Node.keysDistinct] at distinct
      exact covers.elements elements read itemsAccepted distinct

theorem Covers.members (covers : decode.Covers shape) {depth : Nat} (members : Members)
    {pairs : List (String × Value)} (valued : members.values depth = .ok pairs)
    (accepted : ∀ pair ∈ pairs, shape.Accepts pair.2)
    (distinct : members.keysDistinct (.map shape) = true) :
    ∃ results, Decoder.members decode depth members = .ok results := by
  cases members with
  | close place => exact ⟨[], rfl⟩
  | bare key place => exact absurd valued Members.values_bare
  | next key colon node follow tail =>
      obtain ⟨name, first, rest, rfl, headValued, tailValued, rfl⟩ :=
        Members.values_next valued
      rw [Members.keysDistinct, Bool.and_eq_true] at distinct
      obtain ⟨one, headDecoded⟩ :=
        covers headValued (accepted (name, first) List.mem_cons_self) distinct.1
      obtain ⟨others, tailDecoded⟩ := covers.members tail tailValued
        (fun pair member => accepted pair (List.mem_cons_of_mem _ member)) distinct.2
      rw [Decoder.members, bind_of_eq_ok rfl, bind_of_eq_ok headDecoded,
        bind_of_eq_ok tailDecoded]
      exact ⟨(name, one) :: others, rfl⟩
  | _ => cases valued

theorem Covers.map (covers : decode.Covers shape) :
    (Decoder.map decode).Covers (.map shape) := by
  intro depth node value valued accepted distinct
  obtain ⟨entries, rfl, entriesAccepted⟩ := Shape.exists_entries accepted
  cases Node.reads valued with
  | @object start members inner pairs entered read =>
      obtain ⟨nodup, inside⟩ := Members.nodup_of_keysDistinct rfl distinct
      rw [Members.keys_eq members read] at nodup
      -- Without repeated keys every member of the text is one of the value.
      have pairsAccepted : ∀ pair ∈ pairs, shape.Accepts pair.2 := by
        intro pair member
        exact entriesAccepted pair
          (mem_of_lookup_eq_some (lookup_orderMembers_of_mem nodup member))
      obtain ⟨results, decoded⟩ := covers.members members read pairsAccepted inside
      rw [Decoder.map, bind_of_eq_ok entered, bind_of_eq_ok decoded]
      exact ⟨orderMembers results, rfl⟩

theorem Covers.finish {β : Type} (covers : decode.Covers shape) (change : α → β) :
    Decoder.Covers (fun depth node => do return change (← decode depth node)) shape := by
  intro depth node value valued accepted distinct
  obtain ⟨result, decoded⟩ := covers valued accepted distinct
  exact ⟨change result, bind_of_eq_ok decoded⟩

end Decoder

/-! ## Records -/

variable {σ : Type}

/-- A slot that reads every value of the form, whatever was read before. -/
def Slot.Covers (slot : Slot σ) (shape : Shape) : Prop :=
  ∀ ⦃depth : Nat⦄ ⦃node : Node⦄ ⦃value : Value⦄ (current : σ), node.value depth = .ok value →
    shape.Accepts value → node.keysDistinct shape = true →
      ∃ renewed, slot.read depth node current = .ok renewed

/-- A record that has a slot for every known member of a form and needs no more members than the
form requires. -/
structure Record.Covers (record : Record σ) (required : List String)
    (known : List (String × Shape)) : Prop where
  slots : ∀ entry ∈ known, ∃ slot, record.slot? entry.1 = some slot ∧ slot.Covers entry.2
  needs : ∀ slot ∈ record.slots, slot.presence = .required → slot.name ∈ required

namespace Record

variable {record : Record σ} {draft : List (String × Value) → σ}

/-- Members can be taken when each finds its slot empty and none that is needed is missing. -/
theorem Follows.exists_takeMembers (follows : record.Follows draft) {depth : Nat}
    {shape : Shape} (members : Members) {read pairs : List (String × Value)}
    (valued : members.values depth = .ok pairs)
    (readable : ∀ pair ∈ pairs, ∃ slot, record.slot? pair.1 = some slot ∧
      slot.Covers (shape.member pair.1) ∧ (shape.member pair.1).Accepts pair.2)
    (distinct : members.keysDistinct shape = true) (nodup : (pairs.map (·.1)).Nodup)
    (unread : ∀ pair ∈ pairs, read.lookup pair.1 = none)
    (present : ∀ slot ∈ record.slots, slot.presence = .required →
      ((pairs.reverse ++ read).lookup slot.name).isSome) :
    ∃ result, record.takeMembers depth members (draft read) = .ok result := by
  cases members with
  | close place =>
      cases valued
      -- A slot that is needed was filled on the way here.
      have nothingMissing : record.missing? (draft read) = none := by
        rw [missing?, Option.map_eq_none_iff, List.find?_eq_none]
        intro slot member
        rw [(follows.slots slot member).filled, Bool.and_eq_true, beq_iff_eq]
        rintro ⟨needed, unfilled⟩
        have found : (read.lookup slot.name).isSome := present slot member needed
        rw [found] at unfilled
        cases unfilled
      rw [Record.takeMembers, nothingMissing]
      exact ⟨draft read, rfl⟩
  | bare key place => exact absurd valued Members.values_bare
  | next key colon node follow tail =>
      obtain ⟨name, first, rest, rfl, headValued, tailValued, rfl⟩ :=
        Members.values_next valued
      rw [Members.keysDistinct, Bool.and_eq_true] at distinct
      rw [List.map_cons, List.nodup_cons] at nodup
      obtain ⟨slot, known, slotCovers, fits⟩ := readable (name, first) List.mem_cons_self
      obtain ⟨member, sameName⟩ := slot?_eq_some known
      have unfilled : slot.filled (draft read) = false := by
        rw [(follows.slots slot member).filled, sameName, unread (name, first) List.mem_cons_self]
        rfl
      obtain ⟨renewed, slotRead⟩ := slotCovers (draft read) headValued fits distinct.1
      have isDraft := (follows.slots slot member).read headValued slotRead
      rw [takeMembers_next_of_read known unfilled slotRead, isDraft, sameName]
      refine follows.exists_takeMembers tail tailValued
        (fun pair inRest => readable pair (List.mem_cons_of_mem _ inRest)) distinct.2 nodup.2 ?_ ?_
      · intro pair inRest
        -- The keys of the rest are neither this key nor one that was read before it.
        have inKeys : pair.1 ∈ rest.map (·.1) := List.mem_map_of_mem inRest
        have another : pair.1 ≠ name := fun same => nodup.1 (same ▸ inKeys)
        rw [lookup_cons_eq, if_neg another]
        exact unread pair (List.mem_cons_of_mem _ inRest)
      · intro slot member needed
        have found := present slot member needed
        rwa [List.reverse_cons, List.append_assoc] at found
  | _ => cases valued

/-- The members of an object that conforms leave the draft of its value. -/
theorem Covers.takeMembers {required : List String} {known : List (String × Shape)}
    (covers : record.Covers required known) (follows : record.Follows draft) {depth : Nat}
    {members : Members} {pairs : List (String × Value)}
    (valued : members.values depth = .ok pairs)
    (conforms : Shape.Conforms required known (orderMembers pairs))
    (nodup : members.keys.Nodup)
    (distinct : members.keysDistinct (.record required known) = true) :
    record.takeMembers depth members record.empty = .ok (draft (orderMembers pairs)) := by
  rw [Members.keys_eq members valued] at nodup
  have readable : ∀ pair ∈ pairs, ∃ slot, record.slot? pair.1 = some slot ∧
      slot.Covers ((Shape.record required known).member pair.1) ∧
      ((Shape.record required known).member pair.1).Accepts pair.2 := by
    intro pair member
    have found := lookup_orderMembers_of_mem nodup member
    have isKnown : pair.1 ∈ known.map (·.1) :=
      conforms.closed pair.1 (List.mem_map_of_mem (mem_of_lookup_eq_some found))
    obtain ⟨form, declared⟩ := exists_lookup_of_mem_keys isKnown
    have entry := mem_of_lookup_eq_some declared
    obtain ⟨slot, isSlot, slotCovers⟩ := covers.slots _ entry
    rw [Shape.member, declared, Option.getD_some]
    exact ⟨slot, isSlot, slotCovers, conforms.accepted _ entry pair.2 found⟩
  have present : ∀ slot ∈ record.slots, slot.presence = .required →
      ((pairs.reverse ++ []).lookup slot.name).isSome := by
    intro slot member needed
    rw [List.append_nil, ← lookup_orderMembers]
    exact conforms.complete slot.name (covers.needs slot member needed)
  obtain ⟨result, taken⟩ := follows.exists_takeMembers members valued readable distinct nodup
    (fun _ _ => rfl) present
  rw [follows.empty, taken, follows.takeMembers members valued taken, List.append_nil]
  rw [follows.congr fun slot _ => lookup_orderMembers pairs slot.name]

/-- A tree with a value of the form is an object that can be entered and taken. -/
theorem Covers.exists_members {required : List String} {known : List (String × Shape)}
    (covers : record.Covers required known) (follows : record.Follows draft) {depth : Nat}
    {node : Node} {value : Value} (valued : node.value depth = .ok value)
    (accepted : (Shape.record required known).Accepts value)
    (distinct : node.keysDistinct (.record required known) = true) :
    ∃ start members inner entries, node = .object start members ∧
      enter depth start = .ok inner ∧ Shape.Conforms required known entries ∧
      record.takeMembers inner members record.empty = .ok (draft entries) := by
  obtain ⟨entries, rfl, conforms⟩ := Shape.exists_members accepted
  cases Node.reads valued with
  | @object start members inner pairs entered read =>
      obtain ⟨nodup, inside⟩ := Members.nodup_of_keysDistinct rfl distinct
      exact ⟨start, members, inner, _, rfl, entered, conforms,
        covers.takeMembers follows read conforms nodup inside⟩

theorem Covers.decode {required : List String} {known : List (String × Shape)}
    (covers : record.Covers required known) (follows : record.Follows draft) :
    Decoder.Covers record.decode (.record required known) := by
  intro depth node value valued accepted distinct
  obtain ⟨start, members, inner, entries, rfl, entered, _, taken⟩ :=
    covers.exists_members follows valued accepted distinct
  rw [Record.decode, bind_of_eq_ok entered]
  exact ⟨draft entries, taken⟩

end Record

end Json

end RpcSchema
