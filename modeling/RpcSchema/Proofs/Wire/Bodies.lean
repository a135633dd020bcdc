import RpcSchema.Proofs.Json.RoundTrip
import RpcSchema.Wire.Response

/-!
# What clients read

The body of an answer is read back as what the server answers with: a refusal as its type and its
message, whatever characters they have, and outputs as the value that they are. Readers do not follow
arrays and objects all the way down, so that this is said of values that nest as deep as they go.
-/

namespace RpcSchema.Wire

open Json

theorem hasWords_refusalBody (refusal : Refusal) : (Response.refusalBody refusal).HasWords := by
  refine .object fun member inside => ?_
  simp only [List.mem_cons, List.not_mem_nil, or_false] at inside
  rcases inside with rfl | rfl
  · exact .string refusal.kind
  · exact .string refusal.message

/-- Read members are in the order of their keys. -/
theorem ordered_refusalBody (refusal : Refusal) :
    (Response.refusalBody refusal).ordered =
      .object [("message", .string refusal.message), ("type", .string refusal.kind)] := by
  have before : "message" < "type" := by decide
  simp only [Response.refusalBody, Value.ordered, Value.orderedMembers, Value.ofMembers,
    orderMembers, List.foldl_cons, List.foldl_nil, putMember, if_pos before]

/-- The type and the message of a refusal are what is read from its answer. -/
theorem ofText_refusal (refusal : Refusal) :
    Value.ofText (Response.ofRefusal refusal).body =
      .ok (.object [("message", .string refusal.message), ("type", .string refusal.kind)]) :=
  (ofText_pretty_eq_ok_iff (hasWords_refusalBody refusal)).mpr
    ⟨show 1 < maxDepth by decide, (ordered_refusalBody refusal).symm⟩

/-- What clients read from the answers of a server. A refusal keeps its status, and its body is read
as an object with its type and its message and nothing else. Outputs whose numbers are integers of 64
bits are read as they were written, exactly if their arrays and objects nest less deep than readers
go. -/
theorem bodies_read_back :
    (∀ refusal : Refusal, (Response.ofRefusal refusal).status = refusal.status ∧
      Value.ofText (Response.ofRefusal refusal).body =
        .ok (.object [("message", .string refusal.message), ("type", .string refusal.kind)])) ∧
    ∀ value : Value, value.HasWords → value.IsOrdered →
      (Response.ofOutputs (some value)).status = 200 ∧
      (Value.ofText (Response.ofOutputs (some value)).body = .ok value ↔
        value.height < maxDepth) := by
  refine ⟨fun refusal => ⟨rfl, ofText_refusal refusal⟩, fun value words inOrder => ⟨rfl, ?_⟩⟩
  have read : Value.ofText (Response.ofOutputs (some value)).body = .ok value ↔ _ :=
    ofText_pretty_eq_ok_iff words
  rw [read, inOrder.ordered_eq]
  exact and_iff_left rfl

/-- Outputs with a text that has quotes, a backslash and a line feed, and with the least and the
greatest integer. -/
def recordOutputs : Value :=
  .object [("ends", .array [.integer (-0x8000000000000000), .integer 0xffffffffffffffff]),
    ("title", .string "\"The\\ \nTop\"")]

theorem bodies_read_back_record :
    recordOutputs.HasWords ∧ recordOutputs.IsOrdered ∧
      Value.ofText (Response.ofOutputs (some recordOutputs)).body = .ok recordOutputs := by
  have words : recordOutputs.HasWords := by
    refine .object fun member inside => ?_
    simp only [List.mem_cons, List.not_mem_nil, or_false] at inside
    rcases inside with rfl | rfl
    · refine .array fun item inside => ?_
      simp only [List.mem_cons, List.not_mem_nil, or_false] at inside
      rcases inside with rfl | rfl <;> exact .integer (by constructor <;> decide)
    · exact .string _
  have inOrder : recordOutputs.IsOrdered := by
    refine .object (by decide) fun member inside => ?_
    simp only [List.mem_cons, List.not_mem_nil, or_false] at inside
    rcases inside with rfl | rfl
    · refine .array fun item inside => ?_
      simp only [List.mem_cons, List.not_mem_nil, or_false] at inside
      rcases inside with rfl | rfl <;> exact .number _
    · exact .string _
  exact ⟨words, inOrder, (bodies_read_back.2 recordOutputs words inOrder).2.mpr (by decide)⟩

/-- Arrays with nothing else in them. -/
def nestedArrays : Nat → Value
  | 0 => .array []
  | n + 1 => .array [nestedArrays n]

theorem height_nestedArrays (n : Nat) : (nestedArrays n).height = n + 1 := by
  induction n with
  | zero => rfl
  | succ n ih => rw [nestedArrays, Value.height, Value.heightItems, Value.heightItems, ih, Nat.max_zero]

theorem hasWords_nestedArrays (n : Nat) : (nestedArrays n).HasWords := by
  induction n with
  | zero => exact .array fun item inside => absurd inside List.not_mem_nil
  | succ n ih => exact .array fun item inside => List.mem_singleton.mp inside ▸ ih

theorem isOrdered_nestedArrays (n : Nat) : (nestedArrays n).IsOrdered := by
  induction n with
  | zero => exact .array fun item inside => absurd inside List.not_mem_nil
  | succ n ih => exact .array fun item inside => List.mem_singleton.mp inside ▸ ih

/-- Of outputs with an array too many nothing is read. -/
theorem body_unread_nestedArrays :
    (nestedArrays 127).HasWords ∧ (nestedArrays 127).IsOrdered ∧
      ∀ result, Value.ofText (Response.ofOutputs (some (nestedArrays 127))).body ≠ .ok result := by
  refine ⟨hasWords_nestedArrays 127, isOrdered_nestedArrays 127, fun result read => ?_⟩
  have shallow := ((ofText_pretty_eq_ok_iff (hasWords_nestedArrays 127)).mp read).1
  rw [height_nestedArrays] at shallow
  exact absurd shallow (by decide)

end RpcSchema.Wire
