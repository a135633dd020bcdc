import RpcSchema.Proofs.Json.RoundTrip
import RpcSchema.Proofs.Schema.Reordering

/-!
# Example values

The examples of a schema are the only values that a schema keeps as they were read. A value that was
read has its objects in order and does not nest too deep to be read again, and so has every value
inside of it; those of a loaded schema stand in the value of its text.
-/

namespace RpcSchema

open Json

namespace Json

namespace Value

mutual
/-- No value nests deeper once it is in order. -/
theorem height_ordered_le : (value : Value) → value.ordered.height ≤ value.height
  | .null | .bool _ | .number _ | .string _ => Nat.le_refl 0
  | .array items => by
    rw [ordered, height, height]
    exact (heightItems_lt_iff (Nat.succ_pos _)).mpr fun item inside =>
      Nat.lt_succ_of_le (height_orderedItems_le items item inside)
  | .object members => by
    rw [ordered, ofMembers, height, height]
    refine (heightMembers_lt_iff (Nat.succ_pos _)).mpr fun member inside => ?_
    have known := (orderMembers_spec (orderedMembers members)).2 member inside
    exact Nat.lt_succ_of_le (height_orderedMembers_le members member known)

theorem height_orderedItems_le : (items : List Value) →
    ∀ item ∈ orderedItems items, item.height ≤ heightItems items
  | [] => List.forall_mem_nil _
  | item :: rest => List.forall_mem_cons.mpr ⟨
      (height_ordered_le item).trans (Nat.le_max_left _ _),
      fun other inside => (height_orderedItems_le rest other inside).trans (Nat.le_max_right _ _)⟩

theorem height_orderedMembers_le : (members : List (String × Value)) →
    ∀ member ∈ orderedMembers members, member.2.height ≤ heightMembers members
  | [] => List.forall_mem_nil _
  | (_, value) :: rest => List.forall_mem_cons.mpr ⟨
      (height_ordered_le value).trans (Nat.le_max_left _ _),
      fun other inside => (height_orderedMembers_le rest other inside).trans (Nat.le_max_right _ _)⟩
end

/-- A value as it is when it was read: its objects are in order and it does not nest too deep. -/
structure IsReadable (value : Value) : Prop where
  ordered : value.IsOrdered
  shallow : value.height < maxDepth

theorem isReadable_of_ofText {text : String} {value : Value}
    (parsed : Value.ofText text = .ok value) : value.IsReadable := by
  obtain ⟨written, -, shallow, rfl⟩ := ofText_eq_ok_iff_asWritten.mp parsed
  exact ⟨written.isOrdered_ordered, written.height_ordered_le.trans_lt shallow⟩

namespace IsReadable

theorem items {items : List Value} (readable : (Value.array items).IsReadable) :
    ∀ item ∈ items, item.IsReadable := by
  obtain ⟨inOrder, shallow⟩ := readable
  cases inOrder with
  | array each =>
      have flat := (heightItems_lt_iff (by decide)).mp (Nat.lt_of_succ_lt shallow)
      exact fun item inside => ⟨each item inside, flat item inside⟩

theorem members {members : List (String × Value)} (readable : (Value.object members).IsReadable) :
    ∀ member ∈ members, member.2.IsReadable := by
  obtain ⟨inOrder, shallow⟩ := readable
  cases inOrder with
  | object _ each =>
      have flat := (heightMembers_lt_iff (by decide)).mp (Nat.lt_of_succ_lt shallow)
      exact fun member inside => ⟨each member inside, flat member inside⟩

variable {value : Value} (readable : value.IsReadable)
include readable

/-- A value as it was read is read again from its text over several lines. -/
theorem ofText_pretty (words : value.HasWords) : Value.ofText value.pretty = .ok value := by
  have noGap : ([] : List Char).all isGap := rfl
  have again := ((readsAs_spreadChars words 0).ofText_eq_ok_iff noGap).mpr
    ⟨readable.shallow, readable.ordered.ordered_eq.symm⟩
  rwa [List.append_nil] at again

/-- What a record reads of a readable value is readable. -/
theorem lookup {σ : Type} {record : Record σ} {name : String} {part : Value}
    (found : (record.members value).lookup name = some part) : part.IsReadable := by
  have inside := mem_of_lookup_eq_some found
  unfold Record.members at inside
  split at inside
  · exact readable.members _ inside
  · exact readable.items part (List.of_mem_zip (List.mem_reverse.mp inside)).2
  · cases inside

/-- What is listed under a name is read off values that are readable. -/
theorem exists_of_mem_list {σ α : Type} {record : Record σ} {name : String} {reading : Value → α}
    {result : α}
    (listed : result ∈
      (((record.members value).lookup name).map (Value.asList reading)).getD []) :
    ∃ item : Value, item.IsReadable ∧ reading item = result := by
  cases found : (record.members value).lookup name with
  | none =>
      rw [found] at listed
      cases listed
  | some part =>
      rw [found, Option.map_some, Option.getD_some] at listed
      have within := readable.lookup found
      cases part with
      | array items =>
          obtain ⟨item, inside, isResult⟩ := List.mem_map.mp listed
          exact ⟨item, within.items item inside, isResult⟩
      | _ => cases listed

/-- What is listed by keys under a name is read off values that are readable. -/
theorem exists_of_mem_map {σ α : Type} {record : Record σ} {name : String} {reading : Value → α}
    {entry : String × α}
    (listed : entry ∈
      (((record.members value).lookup name).map (Value.asMap reading)).getD []) :
    ∃ item : Value, item.IsReadable ∧ reading item = entry.2 := by
  cases found : (record.members value).lookup name with
  | none =>
      rw [found] at listed
      cases listed
  | some part =>
      rw [found, Option.map_some, Option.getD_some] at listed
      have within := readable.lookup found
      cases part with
      | object members =>
          obtain ⟨member, inside, rfl⟩ := List.mem_map.mp listed
          exact ⟨member.2, within.members member inside, rfl⟩
      | _ => cases listed

/-- A value that may be absent is readable where it is given. -/
theorem of_asOptional {σ : Type} {record : Record σ} {name : String} {part : Value}
    (given : (((record.members value).lookup name).map (Value.asOptional id)).join = some part) :
    part.IsReadable := by
  cases found : (record.members value).lookup name with
  | none =>
      rw [found] at given
      cases given
  | some raw =>
      rw [found] at given
      have within := readable.lookup found
      cases raw <;> cases given <;> exact within

end IsReadable

end Value

end Json

/-! ## Examples of a schema -/

/-- The values of a sample call. -/
def MethodExample.values (sample : MethodExample) : List Value :=
  sample.input.toList ++ sample.output.toList

def Method.exampleValues (method : Method) : List Value :=
  method.examples.flatMap MethodExample.values

def TypeDecl.exampleValues (type : TypeDecl) : List Value := type.examples.map TypeExample.value

section Readings

variable {value : Value} (readable : value.IsReadable)
include readable

theorem TypeExample.isReadable_ofValue : (TypeExample.ofValue value).value.IsReadable := by
  change (((typeExampleRecord.members value).lookup "value").map id).getD .null |>.IsReadable
  rw [Option.map_id_fun, id]
  cases found : (typeExampleRecord.members value).lookup "value" with
  | none => exact ⟨.null, by decide⟩
  | some part => exact readable.lookup found

theorem MethodExample.isReadable_ofValue :
    ∀ part ∈ (MethodExample.ofValue value).values, part.IsReadable := by
  intro part inside
  rcases List.mem_append.mp inside with given | given
  · exact readable.of_asOptional (Option.mem_toList.mp given)
  · exact readable.of_asOptional (Option.mem_toList.mp given)

theorem TypeDecl.isReadable_ofValue :
    ∀ part ∈ (TypeDecl.ofValue value).exampleValues, part.IsReadable := by
  intro part inside
  obtain ⟨sample, listed, rfl⟩ := List.mem_map.mp inside
  obtain ⟨raw, within, rfl⟩ := readable.exists_of_mem_list listed
  exact TypeExample.isReadable_ofValue within

theorem Method.isReadable_ofValue :
    ∀ part ∈ (Method.ofValue value).exampleValues, part.IsReadable := by
  intro part inside
  obtain ⟨sample, listed, inSample⟩ := List.mem_flatMap.mp inside
  obtain ⟨raw, within, rfl⟩ := readable.exists_of_mem_list listed
  exact MethodExample.isReadable_ofValue within part inSample

end Readings

/-- A schema whose example values are as they are when they were read. -/
structure Schema.HasReadableExamples (schema : Schema) : Prop where
  types : ∀ entry ∈ schema.types, ∀ value ∈ entry.2.exampleValues, value.IsReadable
  methods : ∀ method ∈ schema.methods, ∀ value ∈ method.exampleValues, value.IsReadable

theorem hasReadableExamples_of_load {text : String} {schema : Schema}
    (loaded : load text = .ok schema) : schema.HasReadableExamples := by
  obtain ⟨document, declared, parsed, -, decoded, rfl⟩ := exists_of_load loaded
  obtain rfl := Schema.eq_ofValue parsed decoded
  have readable := Value.isReadable_of_ofText parsed
  constructor
  · intro entry member
    obtain ⟨declared, listed, rfl⟩ := List.mem_map.mp member
    obtain ⟨raw, within, isType⟩ := readable.exists_of_mem_map listed
    change ∀ value ∈ declared.2.exampleValues, value.IsReadable
    rw [← isType]
    exact TypeDecl.isReadable_ofValue within
  · intro method member
    have unsorted := (sortByName_perm Method.name _).mem_iff.mp member
    obtain ⟨declared, listed, rfl⟩ := List.mem_map.mp unsorted
    obtain ⟨raw, within, rfl⟩ := readable.exists_of_mem_list listed
    exact Method.isReadable_ofValue within

end RpcSchema
