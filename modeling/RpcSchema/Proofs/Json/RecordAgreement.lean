import RpcSchema.Proofs.Json.Agreement

/-!
# Records and values

A record is collected in a draft, one slot for each member that is read. When every slot keeps the
reading of its member, the draft is a function of the members that were read, whatever their order
and whatever else stands among them. An object and an array of fields come to the same draft.
-/

namespace RpcSchema.Json

variable {σ : Type}

/-- A slot of drafts that are a function of the members that were read, the last one in front. -/
structure Slot.Follows (slot : Slot σ) (draft : List (String × Value) → σ) : Prop where
  filled : ∀ read, slot.filled (draft read) = (read.lookup slot.name).isSome
  read : ∀ {depth : Nat} {node : Node} {value : Value} {read : List (String × Value)}
    {result : σ}, node.value depth = .ok value → slot.read depth node (draft read) = .ok result →
      result = draft ((slot.name, value) :: read)

/-- A record whose drafts are a function of what was read under the names of its slots. -/
structure Record.Follows (record : Record σ) (draft : List (String × Value) → σ) : Prop where
  empty : record.empty = draft []
  slots : ∀ slot ∈ record.slots, slot.Follows draft
  congr : ∀ {read other : List (String × Value)},
    (∀ slot ∈ record.slots, read.lookup slot.name = other.lookup slot.name) →
      draft read = draft other

namespace Record

variable {record : Record σ} {draft : List (String × Value) → σ}

/-- The members of a record: those of an object, or the elements of an array under the names of the
slots. -/
def members (record : Record σ) : Value → List (String × Value)
  | .object members => members
  | .array items => ((record.slots.map Slot.name).zip items).reverse
  | _ => []

theorem slot?_eq_some {name : String} {slot : Slot σ} (found : record.slot? name = some slot) :
    slot ∈ record.slots ∧ slot.name = name := by
  refine ⟨List.mem_of_find?_eq_some found, ?_⟩
  simpa using List.find?_some found

theorem slot?_eq_none {name : String} (unknown : record.slot? name = none) :
    ∀ slot ∈ record.slots, slot.name ≠ name := by
  intro slot member same
  simpa [same] using List.find?_eq_none.mp unknown slot member

/-- A key that may stand in a record is judged to be its slot's. -/
theorem slot?_of_judge {name : String} {current : σ} {judged : Option (Slot σ)}
    (allowed : record.judge name current = .ok judged) : record.slot? name = judged := by
  rw [judge] at allowed
  cases known : record.slot? name with
  | none =>
      rw [known] at allowed
      dsimp only at allowed
      split at allowed
      · cases allowed
      · exact Except.ok.inj allowed
  | some slot =>
      rw [known] at allowed
      dsimp only at allowed
      split at allowed
      · cases allowed
      · exact Except.ok.inj allowed

/-- A member of an object is passed over or fills its slot. -/
theorem takeMembers_next {depth : Nat} {key : Except Fault String} {colon follow : Place}
    {node : Node} {tail : Members} {current result : σ}
    (taken : record.takeMembers depth (.next key colon node follow tail) current = .ok result) :
    ∃ name, key = .ok name ∧
      ((record.slot? name = none ∧ record.takeMembers depth tail current = .ok result) ∨
        ∃ slot renewed, record.slot? name = some slot ∧
          slot.read depth node current = .ok renewed ∧
          record.takeMembers depth tail renewed = .ok result) := by
  rw [takeMembers] at taken
  obtain ⟨name, isName, taken⟩ := exists_of_bind_eq_ok taken
  refine ⟨name, isName, ?_⟩
  split at taken
  · cases taken
  · rename_i allowed
    obtain ⟨_, _, taken⟩ := exists_of_bind_eq_ok taken
    exact .inl ⟨slot?_of_judge allowed, taken⟩
  · rename_i slot allowed
    split at taken
    · cases taken
    · rename_i renewed slotRead
      exact .inr ⟨slot, renewed, slot?_of_judge allowed, slotRead, taken⟩

/-- A member fills its slot when the slot is empty and can read it. -/
theorem takeMembers_next_of_read {depth : Nat} {name : String} {colon follow : Place}
    {node : Node} {tail : Members} {current renewed : σ} {slot : Slot σ}
    (known : record.slot? name = some slot) (unfilled : slot.filled current = false)
    (slotRead : slot.read depth node current = .ok renewed) :
    record.takeMembers depth (.next (.ok name) colon node follow tail) current =
      record.takeMembers depth tail renewed := by
  have allowed : record.judge name current = .ok (some slot) := by
    rw [judge, known]
    simp [unfilled]
  rw [takeMembers, bind_of_eq_ok rfl, allowed]
  dsimp only
  rw [slotRead]

/-- An object leaves the draft of all its members. -/
theorem Follows.takeMembers (follows : record.Follows draft) {depth : Nat} (members : Members)
    {read pairs : List (String × Value)} {result : σ}
    (valued : members.values depth = .ok pairs)
    (taken : record.takeMembers depth members (draft read) = .ok result) :
    result = draft (pairs.reverse ++ read) := by
  cases members with
  | close place =>
      cases valued
      rw [Record.takeMembers] at taken
      split at taken
      · cases taken
      · exact (Except.ok.inj taken).symm
  | bare key place => exact absurd valued Members.values_bare
  | next key colon node follow tail =>
      obtain ⟨name, first, rest, rfl, headValued, tailValued, rfl⟩ :=
        Members.values_next valued
      rw [List.reverse_cons, List.append_assoc]
      obtain ⟨_, isName, passed | filled⟩ := takeMembers_next taken
      · cases isName
        obtain ⟨unknown, tailTaken⟩ := passed
        rw [follows.takeMembers tail tailValued tailTaken]
        -- No slot has the name of this member, so no draft shows it.
        refine follows.congr fun slot member => ?_
        rw [List.lookup_append, List.lookup_append, List.singleton_append, lookup_cons_eq,
          if_neg (slot?_eq_none unknown slot member)]
      · cases isName
        obtain ⟨slot, renewed, known, slotRead, tailTaken⟩ := filled
        obtain ⟨member, rfl⟩ := slot?_eq_some known
        rw [(follows.slots slot member).read headValued slotRead] at tailTaken
        exact follows.takeMembers tail tailValued tailTaken
  | _ => cases valued

/-- An array leaves the draft of its elements, each under the name of its slot. -/
theorem Follows.takeElements (follows : record.Follows draft) {depth : Nat}
    {slots : List (Slot σ)} (known : ∀ slot ∈ slots, slot ∈ record.slots) (elements : Elements)
    {read : List (String × Value)} {items : List Value} {result : σ}
    (valued : elements.values depth = .ok items)
    (taken : record.takeElements depth slots elements (draft read) = .ok result) :
    result = draft (((slots.map Slot.name).zip items).reverse ++ read) := by
  induction slots generalizing elements read items with
  | nil =>
      cases elements with
      | close place => exact (Except.ok.inj taken).symm
      | _ => cases taken
  | cons slot rest ih =>
      have restKnown : ∀ slot ∈ rest, slot ∈ record.slots := fun slot member =>
        known slot (List.mem_cons_of_mem _ member)
      cases elements with
      | close place =>
          cases valued
          rw [Record.takeElements] at taken
          split at taken
          · simpa using ih restKnown (.close place) rfl taken
          · cases taken
      | cut place => cases valued
      | next start head tail =>
          obtain ⟨isElement, first, others, headValued, tailValued, rfl⟩ :=
            Elements.values_next valued
          rw [Record.takeElements, if_neg isElement] at taken
          split at taken
          · cases taken
          · rename_i renewed slotRead
            have follow := follows.slots slot (known slot List.mem_cons_self)
            rw [follow.read headValued slotRead] at taken
            rw [ih restKnown tail tailValued taken]
            simp

/-- What is decoded as a record is the draft of the members of the value. -/
theorem Follows.agrees (follows : record.Follows draft) :
    Decoder.Agrees record.decode fun value => draft (record.members value) := by
  intro depth node value result valued decoded
  cases Node.reads valued with
  | @object start members inner pairs entered read =>
      rw [decode, entered, follows.empty] at decoded
      rw [follows.takeMembers members read decoded, List.append_nil]
      exact follows.congr fun slot _ => (lookup_orderMembers pairs slot.name).symm
  | @array start elements inner items entered read =>
      rw [decode, entered, follows.empty] at decoded
      rw [follows.takeElements (fun slot member => member) elements read decoded,
        List.append_nil]
      rfl
  | _ => cases decoded

end Record

end RpcSchema.Json
