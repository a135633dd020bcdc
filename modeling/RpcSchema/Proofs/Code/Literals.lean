import Mathlib.Data.List.Basic
import Mathlib.Data.List.Infix
import Mathlib.Data.List.TakeWhile
import RpcSchema.Json.Printer
import RpcSchema.Proofs.Naming.Words
import RpcSchema.Schema.Shape

/-!
# Text literals in rows of code

All target languages write a text between double quotes, with a backslash before a quote that
belongs to it. A row of code is read here for the code outside its literals, and for what its first
literal says.
-/

namespace RpcSchema.Code

/-- Where a reader of code is: outside text literals, inside one, or behind a backslash in one. -/
inductive Place
  | code
  | text
  | escape
deriving DecidableEq

def Place.next : Place → Char → Place
  | .code, c => if c = '"' then .text else .code
  | .text, c => if c = '"' then .code else if c = '\\' then .escape else .text
  | .escape, _ => .text

/-- The characters outside text literals; of a literal its quotes are left. -/
def outside : Place → List Char → List Char
  | _, [] => []
  | place, c :: rest =>
    if place = .code ∨ place.next c = .code then c :: outside (place.next c) rest
    else outside (place.next c) rest

/-- What is left of a literal up to its closing quote, and what follows from that on. -/
def closeText : Place → List Char → Option (List Char × List Char)
  | _, [] => none
  | place, c :: rest =>
    if place.next c = .code then some ([], c :: rest)
    else (closeText (place.next c) rest).map fun (text, after) => (c :: text, after)

/-- A row with a text literal in it; its quotes go to what stands around it. -/
structure Quotation where
  before : List Char
  /-- What the literal says, as it is written. -/
  text : List Char
  after : List Char
deriving DecidableEq

/-- The first text literal of a row and what stands around it. -/
def quotation? (row : List Char) : Option Quotation :=
  match row.dropWhile (· != '"') with
  | [] => none
  | quote :: rest =>
    (closeText .text rest).map fun (text, after) =>
      ⟨row.takeWhile (· != '"') ++ [quote], text, after⟩

/-- Whether a piece of code ends where its first text literal starts. -/
def opensText (before : List Char) : Bool := before.dropWhile (· != '"') == ['"']

/-- Whether a piece of code goes on where a text literal ends. -/
def closesText (after : List Char) : Bool := after.head? == some '"'

/-! ## Code without literals -/

theorem outside_append_of_not_mem {front : List Char} (unquoted : '"' ∉ front) (rest : List Char) :
    outside .code (front ++ rest) = front ++ outside .code rest := by
  induction front with
  | nil => rfl
  | cons c front ih =>
      obtain ⟨other, unquoted⟩ := List.ne_and_not_mem_of_not_mem_cons unquoted
      rw [List.cons_append, outside, if_pos (.inl rfl), Place.next, if_neg (Ne.symm other),
        ih unquoted, List.cons_append]

theorem outside_of_not_mem {row : List Char} (unquoted : '"' ∉ row) : outside .code row = row := by
  have whole := outside_append_of_not_mem unquoted []
  rwa [List.append_nil, outside, List.append_nil] at whole

theorem quotation?_of_not_mem {row : List Char} (unquoted : '"' ∉ row) : quotation? row = none := by
  have none : row.dropWhile (· != '"') = [] :=
    List.dropWhile_eq_nil_iff.mpr fun c member => by
      simpa using fun same : c = '"' => unquoted (same ▸ member)
  rw [quotation?, none]

/-- Whether a row has a pattern in it, outside its literals. -/
def occurs (pattern row : String) : Bool :=
  decide (pattern.toList <:+: outside .code row.toList)

theorem occurs_iff {pattern row : String} :
    occurs pattern row = true ↔ pattern.toList <:+: outside .code row.toList :=
  decide_eq_true_iff

/-! ## Texts between quotes -/

/-- A piece of a literal that neither closes it nor ends behind a backslash. -/
def StaysWithin (piece : List Char) : Prop :=
  ∀ rest, outside .text (piece ++ rest) = outside .text rest

theorem StaysWithin.flatMap {α : Type} {pieces : α → List Char} {items : List α}
    (each : ∀ item ∈ items, StaysWithin (pieces item)) : StaysWithin (items.flatMap pieces) := by
  induction items with
  | nil => exact fun _ => rfl
  | cons item items ih =>
      obtain ⟨here, later⟩ := List.forall_mem_cons.mp each
      intro rest
      rw [List.flatMap_cons, List.append_assoc, here, ih later]

theorem eq_of_opensText {before : List Char} (opens : opensText before) :
    '"' ∉ before.takeWhile (· != '"') ∧ before = before.takeWhile (· != '"') ++ ['"'] := by
  rw [opensText, beq_iff_eq] at opens
  constructor
  · intro member
    simpa using List.mem_takeWhile_imp member
  · rw [← opens, List.takeWhile_append_dropWhile]

/-- Of a literal its quotes are left. -/
theorem outside_literal {before text : List Char} (opens : opensText before)
    (within : StaysWithin text) (after : List Char) :
    outside .code (before ++ text ++ after) = before ++ outside .text after := by
  obtain ⟨unquoted, spelled⟩ := eq_of_opensText opens
  generalize before.takeWhile (· != '"') = front at unquoted spelled
  rw [spelled, List.append_assoc, List.append_assoc, outside_append_of_not_mem unquoted,
    List.singleton_append, outside, if_pos (.inl rfl), List.append_assoc, List.singleton_append]
  exact congrArg (front ++ '"' :: ·) (within after)

/-- A character that stands for itself in a literal. -/
def isPlain (c : Char) : Bool := c != '"' && c != '\\'

theorem next_of_isPlain {c : Char} (plain : isPlain c) : Place.text.next c = .text := by
  simp only [isPlain, Bool.and_eq_true, bne_iff_ne] at plain
  rw [Place.next, if_neg plain.1, if_neg plain.2]

theorem staysWithin_of_isPlain {c : Char} (plain : isPlain c) : StaysWithin [c] := by
  intro rest
  rw [List.singleton_append, outside, next_of_isPlain plain, if_neg (by decide)]

theorem staysWithin_of_all_isPlain {text : List Char} (plain : text.all isPlain) :
    StaysWithin text := by
  have each : StaysWithin (text.flatMap fun c => [c]) := .flatMap fun c member =>
    staysWithin_of_isPlain (List.all_eq_true.mp plain c member)
  rwa [List.flatMap_singleton'] at each

theorem closeText_of_all_isPlain {text after : List Char} (plain : text.all isPlain)
    (closes : closesText after) : closeText .text (text ++ after) = some (text, after) := by
  induction text with
  | nil =>
      obtain ⟨rest, rfl⟩ := List.head?_eq_some_iff.mp (beq_iff_eq.mp closes)
      rfl
  | cons c text ih =>
      rw [List.all_cons, Bool.and_eq_true] at plain
      rw [List.cons_append, closeText, next_of_isPlain plain.1, if_neg (by decide), ih plain.2]
      rfl

/-- The first literal of a row is found where it stands. -/
theorem quotation?_eq {before text after : List Char} (opens : opensText before)
    (plain : text.all isPlain) (closes : closesText after) :
    quotation? (before ++ text ++ after) = some ⟨before, text, after⟩ := by
  obtain ⟨unquoted, spelled⟩ := eq_of_opensText opens
  generalize before.takeWhile (· != '"') = front at unquoted spelled
  have other : ∀ c ∈ front, (c != '"') = true := fun c member => by
    simpa using fun same : c = '"' => unquoted (same ▸ member)
  rw [quotation?, spelled, List.append_assoc, List.append_assoc,
    List.dropWhile_append_of_pos other, List.takeWhile_append_of_pos other]
  change (closeText .text (text ++ after)).map _ = _
  rw [closeText_of_all_isPlain plain closes]
  simp

/-! ## Texts of the languages -/

/-- What JSON writes for a character stays within the literal. -/
theorem staysWithin_escapedChar (c : Char) : StaysWithin (Json.escapedChar c) := by
  unfold Json.escapedChar
  split <;> try exact fun _ => rfl
  · next noQuote noBackslash _ _ _ _ _ =>
    split
    · next control =>
      have digit : ∀ n < 16, isPlain (Text.hexDigit n) := by decide
      have high : c.toNat / 16 < 16 := by
        have below : c.toNat < 0x20 := control
        omega
      have low : c.toNat % 16 < 16 := Nat.mod_lt _ (by decide)
      have digits : ['0', '0', Text.hexDigit (c.toNat / 16), Text.hexDigit (c.toNat % 16)].all
          isPlain := by
        rw [List.all_cons, List.all_cons, List.all_cons, List.all_cons, digit _ high, digit _ low]
        decide
      exact fun rest => staysWithin_of_all_isPlain digits rest
    · refine staysWithin_of_isPlain ?_
      rw [isPlain, Bool.and_eq_true, bne_iff_ne, bne_iff_ne]
      exact ⟨noQuote, noBackslash⟩

theorem outside_stringChars (text : String) (rest : List Char) :
    outside .code (Json.stringChars text ++ rest) = '"' :: '"' :: outside .code rest := by
  have within : StaysWithin (text.toList.flatMap Json.escapedChar) :=
    .flatMap fun c _ => staysWithin_escapedChar c
  rw [Json.stringChars, List.append_assoc]
  exact outside_literal (by decide : opensText ['"']) within ('"' :: rest)

/-! ## Identifiers -/

theorem all_isIdentifierPart {name : String} (named : isIdentifier name = true) :
    name.toList.all isIdentifierPart = true := by
  rw [isIdentifier] at named
  split at named
  · cases named
  · next c rest spelled =>
    rw [Bool.and_eq_true] at named
    rw [spelled, List.all_cons, named.2, Bool.and_true, isIdentifierPart, named.1]
    rfl

theorem not_mem_of_isIdentifier {name : String} (named : isIdentifier name = true) {c : Char}
    (other : isIdentifierPart c = false) : c ∉ name.toList := by
  intro member
  rw [List.all_eq_true.mp (all_isIdentifierPart named) c member] at other
  cases other

theorem toNat_lt_of_isIdentifierPart {c : Char} (part : isIdentifierPart c) : c.toNat < 128 := by
  simp only [isIdentifierPart, isIdentifierStart, Bool.or_eq_true, beq_iff_eq] at part
  rcases part with ((lower | upper) | digit) | rfl
  · exact Naming.toNat_lt_of_isAsciiLower lower
  · exact Naming.toNat_lt_of_isAsciiUpper upper
  · exact Naming.toNat_lt_of_isAsciiDigit digit
  · decide

/-- What holds of each part of an identifier by a test of ASCII. -/
theorem forall_mem_identifier (holds : Char → Prop)
    (all : ∀ code < 128, isIdentifierPart (Char.ofNat code) → holds (Char.ofNat code))
    {name : String} (named : isIdentifier name = true) : ∀ c ∈ name.toList, holds c := by
  intro c member
  have part := List.all_eq_true.mp (all_isIdentifierPart named) c member
  exact Naming.of_ascii (fun c => isIdentifierPart c → holds c) all
    (toNat_lt_of_isIdentifierPart part) part

theorem all_isPlain_of_isIdentifier {name : String} (named : isIdentifier name = true) :
    name.toList.all isPlain = true :=
  List.all_eq_true.mpr (forall_mem_identifier (fun c => isPlain c = true) (by decide) named)

/-- An identifier stands for itself in a quoted literal. -/
theorem quoted_of_isIdentifier {name : String} (named : isIdentifier name = true) :
    Text.quoted name = "\"" ++ name ++ "\"" := by
  have each : ∀ c ∈ name.toList, Text.quotedChar c = [c] :=
    forall_mem_identifier (fun c => Text.quotedChar c = [c]) (by decide +kernel) named
  have within : name.toList.flatMap Text.quotedChar = name.toList :=
    (List.flatMap_congr each).trans (List.flatMap_singleton' _)
  rw [Text.quoted, within, ← String.toList_inj]
  simp

end RpcSchema.Code
