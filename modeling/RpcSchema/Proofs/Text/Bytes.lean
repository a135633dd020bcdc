import Mathlib.Algebra.Group.Nat.Defs
import Mathlib.Data.List.Basic

/-!
# Texts as bytes

The UTF-8 encoding of a character is a first byte, which tells how many bytes follow, and the rest
of its code point to the base 64. Two encodings therefore differ first where the code points do, and
texts are in the order of their characters exactly when they are in the order of their bytes.
-/

namespace RpcSchema.Text

/-- The UTF-8 bytes of a text. -/
def bytes (text : String) : List UInt8 := text.toUTF8.data.toList

/-- The UTF-8 bytes of characters. -/
def encoded (chars : List Char) : List UInt8 := chars.flatMap String.utf8EncodeChar

theorem bytes_eq (text : String) : bytes text = encoded text.toList := by
  have same := String.utf8Encode_toList (b := text)
  rw [bytes, String.toUTF8_eq_toByteArray, ← same, List.utf8Encode, encoded]
  simp

@[simp] theorem encoded_nil : encoded [] = [] := rfl

@[simp] theorem encoded_cons (c : Char) (chars : List Char) :
    encoded (c :: chars) = String.utf8EncodeChar c ++ encoded chars := rfl

@[simp] theorem encoded_append (chars others : List Char) :
    encoded (chars ++ others) = encoded chars ++ encoded others := List.flatMap_append

theorem length_encoded_cons (c : Char) (chars : List Char) :
    (encoded (c :: chars)).length = c.utf8Size + (encoded chars).length := by
  rw [encoded_cons, List.length_append, String.length_utf8EncodeChar]

/-! ## Code points to the base 64 -/

/-- The number of bytes behind the first one. -/
def extraBytes (code : Nat) : Nat :=
  if code ≤ 0x7f then 0 else if code ≤ 0x7ff then 1 else if code ≤ 0xffff then 2 else 3

/-- What the first byte has in front of the first digit, so that it tells how many bytes follow. -/
def leadMark : Nat → Nat
  | 0 => 0
  | 1 => 0xc0
  | 2 => 0xe0
  | _ => 0xf0

def firstByte (code : Nat) : Nat := leadMark (extraBytes code) + code / 64 ^ extraBytes code

/-- The last digits of a code point, each as a byte. -/
def lastBytes : Nat → Nat → List UInt8
  | 0, _ => []
  | count + 1, code => UInt8.ofNat (code / 64 ^ count % 64 + 0x80) :: lastBytes count code

theorem toNat_lt_of_char (c : Char) : c.toNat < 0x110000 := by
  have valid : c.val.toNat < 0x110000 := by
    rcases c.valid with low | high <;> omega
  exact valid

theorem encodeChar_eq (c : Char) :
    String.utf8EncodeChar c =
      UInt8.ofNat (firstByte c.toNat) :: lastBytes (extraBytes c.toNat) c.toNat := by
  have bound := toNat_lt_of_char c
  rw [Char.toNat] at bound
  rw [firstByte, extraBytes, Char.toNat, String.utf8EncodeChar]
  generalize c.val.toNat = code at *
  -- In each range the first byte has room for all of the first digit.
  split_ifs with one two three
  · simp [leadMark, lastBytes]
  · have digit : code / 64 % 0x20 + 0xc0 = 0xc0 + code / 64 := by omega
    simp [leadMark, lastBytes, digit]
  · have digit : code / 4096 % 0x10 + 0xe0 = 0xe0 + code / 4096 := by omega
    simp [leadMark, lastBytes, digit]
  · have digit : code / 262144 % 0x08 + 0xf0 = 0xf0 + code / 262144 := by omega
    simp [leadMark, lastBytes, digit]

theorem firstByte_lt {code : Nat} (bound : code < 0x110000) : firstByte code < 256 := by
  rw [firstByte, extraBytes]
  split_ifs <;> simp only [leadMark] <;> omega

/-! ## ASCII -/

/-- The bytes behind the first one are beyond ASCII. -/
theorem le_of_mem_lastBytes {count code : Nat} {byte : UInt8}
    (member : byte ∈ lastBytes count code) : 128 ≤ byte.toNat := by
  induction count with
  | zero => cases member
  | succ count ih =>
      rcases List.mem_cons.mp member with rfl | later
      · rw [UInt8.toNat_ofNat']
        omega
      · exact ih later

/-- An ASCII character is encoded by itself. -/
theorem encodeChar_of_ascii {c : Char} (ascii : c.toNat < 128) :
    String.utf8EncodeChar c = [UInt8.ofNat c.toNat] := by
  have single : extraBytes c.toNat = 0 := by
    rw [extraBytes, if_pos (by omega)]
  rw [encodeChar_eq, firstByte, single]
  simp [leadMark, lastBytes]

/-- No byte of another character is in ASCII. -/
theorem le_of_mem_encodeChar {c : Char} (beyond : 128 ≤ c.toNat) {byte : UInt8}
    (member : byte ∈ String.utf8EncodeChar c) : 128 ≤ byte.toNat := by
  rw [encodeChar_eq, List.mem_cons] at member
  rcases member with rfl | later
  · have bound := firstByte_lt (toNat_lt_of_char c)
    rw [UInt8.toNat_ofNat', Nat.mod_eq_of_lt bound, firstByte, extraBytes, if_neg (by omega)]
    split_ifs <;> simp only [leadMark] <;> omega
  · exact le_of_mem_lastBytes later

/-- The first byte of other text than ASCII. -/
theorem le_of_encodeChar_append {c : Char} (beyond : 128 ≤ c.toNat) {first : UInt8}
    {front rest : List UInt8} (spelled : String.utf8EncodeChar c ++ front = first :: rest) :
    128 ≤ first.toNat := by
  have head := congrArg List.head? spelled
  rw [encodeChar_eq] at head
  refine le_of_mem_encodeChar beyond ?_
  rw [encodeChar_eq]
  exact Option.some.inj head ▸ List.mem_cons_self

theorem utf8Size_of_ascii {c : Char} (ascii : c.toNat < 128) : c.utf8Size = 1 := by
  rw [← String.length_utf8EncodeChar, encodeChar_of_ascii ascii]
  rfl

theorem two_le_utf8Size {c : Char} (beyond : 128 ≤ c.toNat) : 2 ≤ c.utf8Size := by
  rw [Char.utf8Size]
  split
  · next ascii =>
    have small : c.toNat ≤ 0x7f := ascii
    omega
  · split
    · exact Nat.le_refl 2
    · split <;> decide

/-! ## The order of bytes -/

theorem cons_ofNat_lt {low high : Nat} {front rest : List UInt8} (small : high < 256)
    (less : low < high ∨ low = high ∧ front < rest) :
    UInt8.ofNat low :: front < UInt8.ofNat high :: rest := by
  rw [List.cons_lt_cons_iff]
  rcases less with less | ⟨rfl, less⟩
  · exact .inl ((UInt8.ofNat_lt_iff_lt (Nat.lt_trans less small) small).mpr less)
  · exact .inr ⟨rfl, less⟩

/-- Code points that differ in their last digits only are in the order of those. -/
theorem lastBytes_append_lt {code other count : Nat} (less : code < other)
    (same : code / 64 ^ count = other / 64 ^ count) (front rest : List UInt8) :
    lastBytes count code ++ front < lastBytes count other ++ rest := by
  induction count with
  | zero =>
      rw [Nat.pow_zero, Nat.div_one, Nat.div_one] at same
      omega
  | succ count ih =>
      rw [lastBytes, lastBytes, List.cons_append, List.cons_append]
      refine cons_ofNat_lt (by omega) ?_
      rw [Nat.pow_succ, ← Nat.div_div_eq_div_mul, ← Nat.div_div_eq_div_mul] at same
      have ordered := Nat.div_le_div_right (c := 64 ^ count) (Nat.le_of_lt less)
      rcases Nat.lt_or_eq_of_le ordered with digit | digit
      · exact .inl (by omega)
      · exact .inr ⟨by rw [digit], ih digit⟩

theorem encodeChar_append_lt {c d : Char} (less : c < d) (front rest : List UInt8) :
    String.utf8EncodeChar c ++ front < String.utf8EncodeChar d ++ rest := by
  have less : c.toNat < d.toNat := less
  rw [encodeChar_eq, encodeChar_eq, List.cons_append, List.cons_append]
  refine cons_ofNat_lt (firstByte_lt (toNat_lt_of_char d)) ?_
  rcases Nat.lt_trichotomy (extraBytes c.toNat) (extraBytes d.toNat) with fewer | same | more
  · left
    have bound := toNat_lt_of_char d
    revert fewer
    rw [firstByte, firstByte, extraBytes, extraBytes]
    split_ifs <;> simp only [leadMark] <;> omega
  · have ordered := Nat.div_le_div_right (c := 64 ^ extraBytes d.toNat) (Nat.le_of_lt less)
    rw [firstByte, firstByte, same]
    rcases Nat.lt_or_eq_of_le ordered with digit | digit
    · exact .inl (Nat.add_lt_add_left digit _)
    · exact .inr ⟨by rw [digit], lastBytes_append_lt less digit front rest⟩
  · revert more
    rw [extraBytes, extraBytes]
    split_ifs <;> omega

theorem encoded_lt {chars others : List Char} (less : chars < others) :
    encoded chars < encoded others := by
  induction less with
  | nil =>
      rw [encoded_cons, encodeChar_eq]
      exact List.Lex.nil
  | rel less => exact encodeChar_append_lt less _ _
  | cons _ ih => exact List.append_left_lt ih

/-- Texts are in the order of their bytes. -/
theorem bytes_le_iff {text other : String} : bytes text ≤ bytes other ↔ text ≤ other := by
  rw [bytes_eq, bytes_eq]
  constructor
  · intro ordered
    by_contra above
    exact ordered (encoded_lt (String.not_le.mp above))
  · intro ordered
    rcases List.le_iff_lt_or_eq.mp ordered with less | same
    · exact List.le_of_lt (encoded_lt less)
    · rw [same]
      exact List.le_refl _

end RpcSchema.Text
