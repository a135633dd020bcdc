import RpcSchema.Proofs.Json.RoundTrip
import RpcSchema.Schema.Check

/-!
# Lists of quoted texts

The values that a field may have are listed as JSON strings with commas between them. Between
brackets such a list is read back as these values, so that different values never have one list,
whatever characters they are made of. No control stands in it as it is, so that it stays on one line
wherever it is put.
-/

namespace RpcSchema

open Json

namespace Json

theorem intercalate_eq_separated (separator : List Char) (parts : List (List Char)) :
    separator.intercalate parts = separated separator parts := by
  induction parts with
  | nil => rfl
  | cons part parts ih =>
      cases parts with
      | nil => exact List.intercalate_singleton
      | cons other parts =>
          rw [List.intercalate_cons_cons, ih, separated_cons_cons]

/-- A string is written without controls. -/
theorem visible_of_mem_stringChars {text : String} {c : Char} (member : c ∈ stringChars text) :
    0x20 ≤ c.val := by
  simp only [stringChars, List.cons_append, List.mem_cons, List.mem_append, List.mem_flatMap,
    List.not_mem_nil, or_false] at member
  rcases member with rfl | ⟨_, -, escaped⟩ | rfl
  · decide
  · exact visible_of_mem_escapedChar escaped
  · decide

theorem visible_of_mem_separated {separator : List Char} (visible : ∀ c ∈ separator, 0x20 ≤ c.val)
    {parts : List (List Char)} (each : ∀ part ∈ parts, ∀ c ∈ part, 0x20 ≤ c.val) :
    ∀ c ∈ separated separator parts, 0x20 ≤ c.val := by
  induction parts with
  | nil => exact fun _ absent => absurd absent List.not_mem_nil
  | cons part parts ih =>
      obtain ⟨here, later⟩ := List.forall_mem_cons.mp each
      cases parts with
      | nil => exact here
      | cons other parts =>
          rw [separated_cons_cons]
          exact List.forall_mem_append.mpr ⟨List.forall_mem_append.mpr ⟨here, visible⟩, ih later⟩

end Json

theorem toList_quotedList (values : List String) :
    (quotedList values).toList = separated [',', ' '] (values.map stringChars) := by
  rw [quotedList, String.toList_intercalate, List.map_map, intercalate_eq_separated]
  refine congrArg (separated [',', ' ']) (List.map_congr_left fun value _ => ?_)
  exact String.toList_ofList

/-- Between brackets, the list is read as an array of its values. -/
theorem readsAs_quotedList (values : List String) :
    ReadsAs ('[' :: ((quotedList values).toList ++ [']'])) (.array (values.map .string)) := by
  have none : ([] : List Char).all isGap := rfl
  have each : List.Forall₂ ReadsAs (values.map stringChars) (values.map .string) := by
    rw [List.forall₂_map_left_iff, List.forall₂_map_right_iff, List.forall₂_same]
    exact fun value _ => readsAs_string value
  rw [toList_quotedList]
  exact readsAs_array none (by decide : [' '].all isGap) none each

theorem ofText_quotedList (values : List String) :
    Value.ofText ("[" ++ quotedList values ++ "]") = .ok (.array (values.map .string)) := by
  have spelled : "[" ++ quotedList values ++ "]" =
      String.ofList ('[' :: ((quotedList values).toList ++ [']']) ++ []) := by
    rw [← String.toList_inj, String.toList_ofList, String.toList_append, String.toList_append]
    simp
  have inOrder : (Value.array (values.map .string)).IsOrdered :=
    .array (List.forall_mem_map.mpr fun value _ => .string value)
  rw [spelled, (readsAs_quotedList values).ofText_eq_ok_iff rfl, inOrder.ordered_eq]
  refine ⟨Nat.succ_lt_succ ((Value.heightItems_lt_iff (by decide)).mpr ?_), rfl⟩
  exact List.forall_mem_map.mpr fun value _ => show 0 < 127 by decide

theorem quotedList_injective : Function.Injective quotedList := by
  intro values others same
  have read := ofText_quotedList values
  rw [same, ofText_quotedList, Except.ok.injEq, Value.array.injEq] at read
  exact ((List.map_inj_right fun _ _ => Value.string.inj).mp read).symm

theorem visible_of_mem_quotedList {values : List String} :
    ∀ c ∈ (quotedList values).toList, 0x20 ≤ c.val := by
  rw [toList_quotedList]
  exact visible_of_mem_separated (visible_of_all (by decide))
    (List.forall_mem_map.mpr fun value _ _ => visible_of_mem_stringChars)

/-- A list of quoted values says which they are: between brackets it is read as just these values,
and the message that asks for one of them is another for any other values. It has no control in it
as it is, and so no line feed and no carriage return. -/
theorem quoted_lists_unambiguous :
    (∀ values : List String,
      Value.ofText ("[" ++ quotedList values ++ "]") = .ok (.array (values.map .string))) ∧
    Function.Injective oneOfMessage ∧
    ∀ values : List String, (∀ c ∈ (quotedList values).toList, 0x20 ≤ c.val) ∧
      '\n' ∉ (quotedList values).toList ∧ '\r' ∉ (quotedList values).toList := by
  refine ⟨ofText_quotedList, fun values others same => ?_, fun values => ?_⟩
  · exact quotedList_injective ((String.append_right_inj _).mp same)
  · exact ⟨visible_of_mem_quotedList,
      fun feed => absurd (visible_of_mem_quotedList _ feed) (by decide),
      fun carriage => absurd (visible_of_mem_quotedList _ carriage) (by decide)⟩

/-- Values with quotes, commas, brackets and a line feed in them. -/
example : quotedList ["a\", \"b", "]\n"] = "\"a\\\", \\\"b\", \"]\\n\"" := by decide

end RpcSchema
