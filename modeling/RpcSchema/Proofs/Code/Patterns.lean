import RpcSchema.Proofs.Code.Literals

/-!
# Patterns that code does not have

That a pattern does not occur in a row is shown piece by piece. What is unknown in a row are names
and numbers, which lack the last character of the pattern; the rest is known, and it is decided
whether the pattern is in it or reaches into it.
-/

namespace RpcSchema.Code

/-- Whether no pattern that starts somewhere before some text goes on in it. -/
def isApart (pattern text : List Char) : Bool :=
  pattern.tails.all fun rest => rest.isEmpty || !rest.isPrefixOf text

section Infix

variable {pattern front rest : List Char}

theorem not_infix_append (inFront : ¬ pattern <:+: front) (inRest : ¬ pattern <:+: rest)
    (apart : isApart pattern rest) : ¬ pattern <:+: front ++ rest := by
  rw [List.infix_append_iff]
  rintro (within | within | ⟨start, ending, split, ends, starts⟩)
  · exact inFront within
  · exact inRest within
  · have isTail : ending ∈ pattern.tails := (List.mem_tails _ _).mpr ⟨start, split.symm⟩
    have known := List.all_eq_true.mp apart ending isTail
    rw [Bool.or_eq_true, List.isEmpty_iff, Bool.not_eq_true', ← Bool.not_eq_true,
      List.isPrefixOf_iff_prefix] at known
    rcases known with rfl | other
    · rw [List.append_nil] at split
      exact inFront (split ▸ ends.isInfix)
    · exact other starts

/-- A pattern without a separator does not reach over it. -/
theorem not_infix_append_cons {separator : Char} (apart : separator ∉ pattern)
    (inFront : ¬ pattern <:+: front) (inRest : ¬ pattern <:+: rest) :
    ¬ pattern <:+: front ++ separator :: rest := by
  have notNil : pattern ≠ [] := fun none => inFront (none ▸ List.nil_infix)
  have notPrefix {ending : List Char} (part : ending ⊆ pattern)
      (starts : ending <+: separator :: rest) : ending = [] := by
    cases ending with
    | nil => rfl
    | cons c ending =>
        rw [List.cons_prefix_cons] at starts
        exact absurd (part (starts.1 ▸ List.mem_cons_self)) apart
  rw [List.infix_append_iff, List.infix_cons_iff]
  rintro (within | (starts | within) | ⟨start, ending, split, ends, starts⟩)
  · exact inFront within
  · exact notNil (notPrefix (List.Subset.refl _) starts)
  · exact inRest within
  · have none := notPrefix (by rw [split]; exact List.subset_append_right _ _) starts
    rw [none, List.append_nil] at split
    exact inFront (split ▸ ends.isInfix)

variable {last : Char} (ends : last ∈ pattern.getLast?)
include ends

theorem not_infix_of_not_mem (absent : last ∉ rest) : ¬ pattern <:+: rest :=
  fun within => absent (within.subset (List.mem_of_mem_getLast? ends))

theorem not_infix_append_of_not_mem (inFront : ¬ pattern <:+: front) (absent : last ∉ rest) :
    ¬ pattern <:+: front ++ rest := by
  rw [List.infix_append_iff]
  rintro (within | within | ⟨start, ending, split, before, behind⟩)
  · exact inFront within
  · exact not_infix_of_not_mem ends absent within
  · rcases List.eq_nil_or_concat ending with rfl | ⟨middle, other, rfl⟩
    · rw [List.append_nil] at split
      exact inFront (split ▸ before.isInfix)
    · rw [List.concat_eq_append] at split behind
      rw [split, ← List.append_assoc, List.getLast?_concat] at ends
      obtain rfl : other = last := Option.some.inj ends
      exact absent (behind.subset (List.mem_append_right _ (List.mem_singleton_self other)))

end Infix

end RpcSchema.Code
