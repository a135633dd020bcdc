import RpcSchema.Proofs.Json.AsWritten

/-!
# What must be written for a decoder

A decoder of few forms is told by the values that it takes: it succeeds where one of these is
written, and what it makes of that depends on nothing else. A record that refuses members of no
meaning takes the objects whose members are those of its slots, none of them twice and each of a
value that its slot takes, as long as none that is required is missing.
-/

namespace RpcSchema.Json

/-! ## Decoders -/

namespace Decoder

variable {α : Type} {decode : Decoder α} {depth : Nat} {takes : Value → Prop}
  {reading : Value → α}

/-- At a depth, the decoder succeeds exactly where a value is written that it takes, with the
reading of this value. -/
def Exact (decode : Decoder α) (depth : Nat) (takes : Value → Prop) (reading : Value → α) : Prop :=
  ∀ node result, decode depth node = .ok result ↔
    ∃ value, node.asWritten? = some value ∧ takes value ∧ reading value = result

theorem string_exact :
    Decoder.string.Exact depth (fun value => ∃ text, value = .string text) Value.asString := by
  intro node result
  constructor
  · intro decoded
    cases node with
    | string text stop =>
        obtain rfl : text = .ok result := decoded
        exact ⟨.string result, rfl, ⟨result, rfl⟩, rfl⟩
    | _ => cases decoded
  · rintro ⟨_, written, ⟨text, rfl⟩, rfl⟩
    obtain ⟨stop, rfl⟩ := Node.asWritten?_eq_string_iff.mp written
    rfl

theorem optional_of_ne_word {node : Node} (something : ∀ stop, node ≠ .word none stop) :
    Decoder.optional decode depth node = (decode depth node).map some := by
  cases node with
  | word flag stop =>
      cases flag with
      | none => exact absurd rfl (something stop)
      | some flag => rfl
  | _ => rfl

theorem Exact.optional (exact : decode.Exact depth takes reading) :
    (Decoder.optional decode).Exact depth (fun value => value = .null ∨ takes value)
      (Value.asOptional reading) := by
  intro node result
  by_cases isNull : ∃ stop, node = .word none stop
  · obtain ⟨stop, rfl⟩ := isNull
    simp [Decoder.optional, Node.asWritten?, Value.asOptional]
  · rw [optional_of_ne_word (not_exists.mp isNull)]
    have something : ∀ value, node.asWritten? = some value → value ≠ .null := by
      rintro _ written rfl
      exact isNull (Node.asWritten?_eq_null_iff.mp written)
    have present : ∀ value, value ≠ .null →
        Value.asOptional reading value = some (reading value) := by
      intro value notNull
      cases value with
      | null => exact absurd rfl notNull
      | _ => rfl
    constructor
    · intro decoded
      obtain ⟨item, isItem, rfl⟩ := exists_of_map_eq_ok decoded
      obtain ⟨value, written, taken, rfl⟩ := (exact node item).mp isItem
      exact ⟨value, written, .inr taken, present value (something value written)⟩
    · rintro ⟨value, written, nothing | taken, rfl⟩
      · exact absurd nothing (something value written)
      · rw [present value (something value written),
          (exact node (reading value)).mpr ⟨value, written, taken, rfl⟩]
        rfl

end Decoder

/-! ## Records -/

section Records

variable {σ : Type} {depth : Nat} {draft : List (String × Value) → σ}
  {takes : String → Value → Prop}

/-- At a depth, drafts are a function of the members that were read, the last one in front, and the
slot fills them with the values that are taken under its name. -/
structure Slot.Exact (slot : Slot σ) (depth : Nat) (draft : List (String × Value) → σ)
    (takes : String → Value → Prop) : Prop where
  filled : ∀ read, slot.filled (draft read) = (read.lookup slot.name).isSome
  read : ∀ node read next, slot.read depth node (draft read) = .ok next ↔
    ∃ value, node.asWritten? = some value ∧ takes slot.name value ∧
      draft ((slot.name, value) :: read) = next

namespace Record

variable {record : Record σ}

theorem isSome_slot?_iff {name : String} :
    (record.slot? name).isSome ↔ name ∈ record.slots.map Slot.name := by
  simp only [Record.slot?, List.find?_isSome, beq_iff_eq, List.mem_map]

theorem takeMembers_close_iff {place : Place} {current result : σ} :
    record.takeMembers depth (.close place) current = .ok result ↔
      record.missing? current = none ∧ current = result := by
  rw [takeMembers]
  split
  · next name missing => simp [missing]
  · next complete => simp [complete]

/-- No member of a record that refuses others is passed over. -/
theorem takeMembers_next_iff (closed : record.closed = true) {key : Except Fault String}
    {colon follow : Place} {node : Node} {tail : Members} {current result : σ} :
    record.takeMembers depth (.next key colon node follow tail) current = .ok result ↔
      ∃ name slot next, key = .ok name ∧ record.slot? name = some slot ∧
        slot.filled current = false ∧ slot.read depth node current = .ok next ∧
        record.takeMembers depth tail next = .ok result := by
  constructor
  · intro taken
    rw [takeMembers] at taken
    obtain ⟨name, isName, taken⟩ := exists_of_bind_eq_ok taken
    split at taken
    · cases taken
    · next passed =>
      rw [judge, slot?_of_judge passed] at passed
      simp [closed] at passed
    · next slot allowed =>
      have known := slot?_of_judge allowed
      rw [judge, known] at allowed
      split at taken
      · cases taken
      · next next slotRead =>
        refine ⟨name, slot, next, isName, known, ?_, slotRead, taken⟩
        by_contra filled
        simp [Bool.not_eq_false _ ▸ filled] at allowed
  · rintro ⟨name, slot, next, rfl, known, unfilled, slotRead, taken⟩
    rw [takeMembers_next_of_read known unfilled slotRead]
    exact taken

/-- The members of an object make up a record: each belongs to a slot that takes it, and no slot
gets two of them. -/
structure Fits (record : Record σ) (takes : String → Value → Prop) (pairs : List (String × Value)) :
    Prop where
  taken : ∀ pair ∈ pairs, (record.slot? pair.1).isSome ∧ takes pair.1 pair.2
  distinct : (pairs.map Prod.fst).Nodup

theorem fits_cons_iff {name : String} {value : Value} {pairs : List (String × Value)} :
    record.Fits takes ((name, value) :: pairs) ↔
      ((record.slot? name).isSome ∧ takes name value) ∧ (∀ pair ∈ pairs, pair.1 ≠ name) ∧
        record.Fits takes pairs := by
  have apart : name ∉ pairs.map Prod.fst ↔ ∀ pair ∈ pairs, pair.1 ≠ name :=
    ⟨fun absent pair listed same => absent (same ▸ List.mem_map_of_mem listed),
      fun differs member => by
        obtain ⟨pair, listed, same⟩ := List.mem_map.mp member
        exact differs pair listed same⟩
  constructor
  · rintro ⟨taken, distinct⟩
    obtain ⟨here, others⟩ := List.forall_mem_cons.mp taken
    rw [List.map_cons, List.nodup_cons] at distinct
    exact ⟨here, apart.mp distinct.1, others, distinct.2⟩
  · rintro ⟨here, differs, taken, distinct⟩
    exact ⟨List.forall_mem_cons.mpr ⟨here, taken⟩,
      List.nodup_cons.mpr ⟨apart.mpr differs, distinct⟩⟩

/-- A member is taken that has a slot of its own and is written as the slot takes it. -/
theorem takeMembers_next_exact_iff (closed : record.closed = true)
    (exact : ∀ slot ∈ record.slots, slot.Exact depth draft takes) {key : Except Fault String}
    {colon follow : Place} {node : Node} {tail : Members} {read : List (String × Value)}
    {result : σ} :
    record.takeMembers depth (.next key colon node follow tail) (draft read) = .ok result ↔
      ∃ name value, key = .ok name ∧ (record.slot? name).isSome ∧ read.lookup name = none ∧
        node.asWritten? = some value ∧ takes name value ∧
        record.takeMembers depth tail (draft ((name, value) :: read)) = .ok result := by
  rw [takeMembers_next_iff closed]
  constructor
  · rintro ⟨name, slot, next, rfl, known, unfilled, slotRead, taken⟩
    obtain ⟨listed, rfl⟩ := slot?_eq_some known
    obtain ⟨value, written, takesValue, rfl⟩ :=
      ((exact slot listed).read node read next).mp slotRead
    rw [(exact slot listed).filled, Option.isSome_eq_false_iff, Option.isNone_iff_eq_none]
      at unfilled
    exact ⟨slot.name, value, rfl, by rw [known]; rfl, unfilled, written, takesValue, taken⟩
  · rintro ⟨name, value, rfl, isSlot, unfilled, written, takesValue, taken⟩
    obtain ⟨slot, known⟩ := Option.isSome_iff_exists.mp isSlot
    obtain ⟨listed, rfl⟩ := slot?_eq_some known
    refine ⟨slot.name, slot, draft ((slot.name, value) :: read), rfl, known, ?_,
      ((exact slot listed).read node read _).mpr ⟨value, written, takesValue, rfl⟩, taken⟩
    rw [(exact slot listed).filled, unfilled]
    rfl

/-- A record that refuses other members is taken exactly from written members that make it up. -/
theorem takeMembers_eq_ok_iff (closed : record.closed = true)
    (exact : ∀ slot ∈ record.slots, slot.Exact depth draft takes) (members : Members)
    {read : List (String × Value)} {result : σ} :
    record.takeMembers depth members (draft read) = .ok result ↔
      ∃ pairs, members.asWritten? = some pairs ∧ record.Fits takes pairs ∧
        (∀ pair ∈ pairs, read.lookup pair.1 = none) ∧ record.missing? result = none ∧
        draft (pairs.reverse ++ read) = result := by
  cases members with
  | close place =>
      rw [takeMembers_close_iff]
      constructor
      · rintro ⟨complete, rfl⟩
        exact ⟨[], rfl, ⟨by simp, by simp⟩, by simp, complete, rfl⟩
      · rintro ⟨pairs, written, -, -, complete, rfl⟩
        cases written
        exact ⟨complete, rfl⟩
  | next key colon node follow tail =>
      rw [takeMembers_next_exact_iff closed exact]
      constructor
      · rintro ⟨name, value, rfl, isSlot, unfilled, written, takesValue, taken⟩
        obtain ⟨rest, isRest, fits, unread, complete, rfl⟩ :=
          (takeMembers_eq_ok_iff closed exact tail).mp taken
        have apart := fun pair member => lookup_cons_eq_none_iff.mp (unread pair member)
        refine ⟨(name, value) :: rest,
          Members.asWritten?_next_iff.mpr ⟨_, value, rest, rfl, written, isRest, rfl⟩,
          fits_cons_iff.mpr ⟨⟨isSlot, takesValue⟩, fun pair member => (apart pair member).1, fits⟩,
          List.forall_mem_cons.mpr ⟨unfilled, fun pair member => (apart pair member).2⟩,
          complete, ?_⟩
        rw [List.reverse_cons, List.append_assoc, List.singleton_append]
      · rintro ⟨pairs, written, fits, unread, complete, rfl⟩
        obtain ⟨name, value, rest, rfl, isValue, isRest, rfl⟩ :=
          Members.asWritten?_next_iff.mp written
        obtain ⟨⟨isSlot, takesValue⟩, differs, others⟩ := fits_cons_iff.mp fits
        obtain ⟨unfilled, unreadRest⟩ := List.forall_mem_cons.mp unread
        rw [List.reverse_cons, List.append_assoc, List.singleton_append] at complete ⊢
        refine ⟨name, value, rfl, isSlot, unfilled, isValue, takesValue,
          (takeMembers_eq_ok_iff closed exact tail).mpr ⟨rest, isRest, others, ?_, complete, rfl⟩⟩
        exact fun pair member => lookup_cons_eq_none_iff.mpr
          ⟨differs pair member, unreadRest pair member⟩
  | cut place => simp [takeMembers, Members.asWritten?]
  | keyless first place => simp [takeMembers, Members.asWritten?]
  | broken taken passed => simp [takeMembers, Members.asWritten?]
  | bare key place =>
      simp only [Members.asWritten?, reduceCtorEq, false_and, exists_false, iff_false]
      intro taken
      rw [takeMembers] at taken
      obtain ⟨name, -, taken⟩ := exists_of_bind_eq_ok taken
      split at taken <;> cases taken

end Record

end Records

end RpcSchema.Json
