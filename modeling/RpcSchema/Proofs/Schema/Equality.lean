import RpcSchema.Schema.Basic

/-!
# Equality of schemas

Equality of JSON values, and with it that of schemas, can be decided. What a given text loads as can
be decided by this, without equality of errors.
-/

namespace RpcSchema

namespace Json

mutual
/-- Whether two values are the same. -/
def Value.same : Value → Value → Bool
  | .null, .null => true
  | .bool value, .bool other => value == other
  | .number value, .number other => value == other
  | .string text, .string other => text == other
  | .array items, .array others => sameItems items others
  | .object members, .object others => sameMembers members others
  | _, _ => false

def sameItems : List Value → List Value → Bool
  | [], [] => true
  | item :: rest, other :: others => item.same other && sameItems rest others
  | _, _ => false

def sameMembers : List (String × Value) → List (String × Value) → Bool
  | [], [] => true
  | (key, value) :: rest, (otherKey, other) :: others =>
    key == otherKey && value.same other && sameMembers rest others
  | _, _ => false
end

mutual
theorem Value.same_iff : ∀ value other : Value, value.same other = true ↔ value = other
  | .null, other => by cases other <;> simp [Value.same]
  | .bool _, other => by cases other <;> simp [Value.same]
  | .number _, other => by cases other <;> simp [Value.same]
  | .string _, other => by cases other <;> simp [Value.same]
  | .array items, other => by
      cases other with
      | array others => rw [Value.same, sameItems_iff, Value.array.injEq]
      | null | bool | number | string | object => simp [Value.same]
  | .object members, other => by
      cases other with
      | object others => rw [Value.same, sameMembers_iff, Value.object.injEq]
      | null | bool | number | string | array => simp [Value.same]

theorem sameItems_iff : ∀ items others : List Value, sameItems items others = true ↔ items = others
  | [], others => by cases others <;> simp [sameItems]
  | item :: rest, [] => by simp [sameItems]
  | item :: rest, other :: others => by
      rw [sameItems, Bool.and_eq_true, Value.same_iff, sameItems_iff, List.cons.injEq]

theorem sameMembers_iff : ∀ members others : List (String × Value),
    sameMembers members others = true ↔ members = others
  | [], others => by cases others <;> simp [sameMembers]
  | member :: rest, [] => by simp [sameMembers]
  | (key, value) :: rest, (otherKey, other) :: others => by
      rw [sameMembers, Bool.and_eq_true, Bool.and_eq_true, beq_iff_eq, Value.same_iff,
        sameMembers_iff, List.cons.injEq, Prod.mk.injEq]
end

instance : DecidableEq Value := fun value other => decidable_of_iff _ (value.same_iff other)

end Json

deriving instance DecidableEq for
  Field, MethodExample, Method, TypeExample, TypeDecl, Group, Schema

/-- A result with a value is told by the value alone. -/
theorem eq_ok_of_toOption {ε α : Type} {result : Except ε α} {value : α}
    (gives : result.toOption = some value) : result = .ok value := by
  cases result with
  | error error => cases gives
  | ok other => exact congrArg Except.ok (Option.some.inj gives)

end RpcSchema
