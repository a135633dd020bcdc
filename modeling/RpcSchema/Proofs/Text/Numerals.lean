import Mathlib.Data.List.Basic
import RpcSchema.Json.Literal

/-!
# Digits

Hexadecimal and decimal digits are read as the numbers that they were written for. A number has no
zero in front of its other digits, so that no reader takes them for anything but decimal ones.
-/

namespace RpcSchema

open Text

/-- A hexadecimal digit is read as what it was written for. -/
theorem hexValue_hexDigit {n : Nat} (small : n < 16) : Json.hexValue (hexDigit n) = some n := by
  revert n
  decide

theorem eq_zero_of_head?_toDigits {n : Nat} (zero : (Nat.toDigits 10 n).head? = some '0') :
    n = 0 := by
  induction n using Nat.strongRecOn with
  | ind n ih =>
      rw [Nat.toDigits_eq_if (by decide)] at zero
      split at zero
      · next small =>
        have only : ∀ digit < 10, Nat.digitChar digit = '0' → digit = 0 := by decide
        exact only n small (by simpa using zero)
      · next large =>
        rw [List.head?_append_of_ne_nil _ Nat.toDigits_ne_nil] at zero
        have tenth := ih (n / 10) (by omega) zero
        omega

/-- The digits of a number do not start with a zero, unless there is nothing else. -/
theorem toDigits_ne_zero_cons (n : Nat) (c : Char) (rest : List Char) :
    Nat.toDigits 10 n ≠ '0' :: c :: rest := by
  intro spelled
  obtain rfl := eq_zero_of_head?_toDigits (n := n) (by rw [spelled, List.head?_cons])
  cases spelled

theorem all_isDigit_toDigits (n : Nat) : (Nat.toDigits 10 n).all Char.isDigit :=
  List.all_eq_true.mpr fun _ member => Nat.isDigit_of_mem_toDigits (by decide) (by decide) member

/-- A number starts with a digit. -/
theorem exists_toDigits (n : Nat) :
    ∃ c rest, Nat.toDigits 10 n = c :: rest ∧ c.isDigit := by
  obtain ⟨c, rest, spelled⟩ := List.exists_cons_of_ne_nil (Nat.toDigits_ne_nil (b := 10) (n := n))
  exact ⟨c, rest, spelled,
    List.all_eq_true.mp (all_isDigit_toDigits n) c (spelled ▸ List.mem_cons_self)⟩

/-! ## Digits in JSON -/

namespace Json

/-- What a digit counts. -/
def digitOf (c : Char) : Nat := c.toNat - 48

theorem digitValue_of_isDigit {c : Char} (digit : c.isDigit) : digitValue c = some (digitOf c) := by
  have between : ('0' ≤ c && c ≤ '9') = true := digit
  rw [digitValue, if_pos between]
  rfl

/-- A number is not spelled with a zero in front of other digits. -/
theorem map_digitOf_ne_zero_cons (n digit : Nat) (digits : List Nat) :
    (Nat.toDigits 10 n).map digitOf ≠ 0 :: digit :: digits := by
  intro counted
  obtain ⟨c, others, spelled, countsZero, counted⟩ := List.map_eq_cons_iff.mp counted
  obtain ⟨d, rest, rfl, -, -⟩ := List.map_eq_cons_iff.mp counted
  have isDigit := List.all_eq_true.mp (all_isDigit_toDigits n) c (spelled ▸ List.mem_cons_self)
  have between : ('0' ≤ c && c ≤ '9') = true := isDigit
  rw [Bool.and_eq_true, decide_eq_true_eq, decide_eq_true_eq] at between
  have low : '0'.toNat ≤ c.toNat := between.1
  have isZero : c = '0' := Char.toNat_inj.mp (by
    have counts : c.toNat - 48 = 0 := countsZero
    change 48 ≤ c.toNat at low
    change c.toNat = 48
    omega)
  exact toDigits_ne_zero_cons n d rest (isZero ▸ spelled)

/-- Digits are taken up to the first character that is none. -/
theorem takeDigits_append {digits rest : List Char} (areDigits : digits.all Char.isDigit)
    (ends : ∀ c ∈ rest.head?, digitValue c = none) :
    takeDigits (digits ++ rest) = (digits.map digitOf, rest) := by
  induction digits with
  | nil =>
      cases rest with
      | nil => rfl
      | cons c rest =>
          rw [List.nil_append, takeDigits, ends c rfl]
          rfl
  | cons c digits ih =>
      rw [List.all_cons, Bool.and_eq_true] at areDigits
      rw [List.cons_append, takeDigits, digitValue_of_isDigit areDigits.1, ih areDigits.2]
      rfl

theorem le_ofDigitChars (digits : List Char) (start : Nat) :
    start ≤ Nat.ofDigitChars 10 digits start := by
  induction digits generalizing start with
  | nil => exact Nat.le_refl start
  | cons c digits ih =>
      rw [Nat.ofDigitChars_cons]
      exact Nat.le_trans (by omega) (ih _)

/-- Digits are added up to what they say, if that fits a word. -/
theorem growSignificand_eq {digits : List Char} {start : Nat}
    (fits : Nat.ofDigitChars 10 digits start ≤ wordMax) :
    growSignificand start (digits.map digitOf) = (Nat.ofDigitChars 10 digits start, []) := by
  induction digits generalizing start with
  | nil => rfl
  | cons c digits ih =>
      rw [Nat.ofDigitChars_cons] at fits ⊢
      have here : start * 10 + digitOf c = 10 * start + (c.toNat - '0'.toNat) := by
        rw [Nat.mul_comm]
        rfl
      rw [List.map_cons, growSignificand, here,
        if_pos (Nat.le_trans (le_ofDigitChars digits _) fits), ih fits]

theorem growSignificand_toDigits {n : Nat} (fits : n ≤ wordMax) :
    growSignificand 0 ((Nat.toDigits 10 n).map digitOf) = (n, []) := by
  have whole : Nat.ofDigitChars 10 (Nat.toDigits 10 n) 0 = n := Nat.ofDigitChars_ten_toDigits
  rw [growSignificand_eq (by rwa [whole]), whole]

end Json

end RpcSchema
