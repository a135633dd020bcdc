import Mathlib.Data.List.Forall2
import RpcSchema.Proofs.Code.Literals
import RpcSchema.Proofs.Code.Rows
import RpcSchema.Proofs.Text.Numerals

/-!
# Text literals of Rust

The literals of a piece of Rust are read by the rules of the language: with escapes of one letter, of
a byte, of a scalar value and of the end of a line. What is written for a text is one literal that
says this text, whatever characters are in it.
-/

namespace RpcSchema

open Text

namespace RustCode

/-! ## Reading literals -/

/-- Where a reader of Rust is: in code, in a literal, or in an escape of a literal. -/
inductive Spot
  | code
  | text
  /-- Behind a backslash. -/
  | escape
  /-- Behind the letter of a byte, and behind its first digit when there is one. -/
  | byte (high : Option Nat)
  /-- Behind the letter of a scalar value. -/
  | opening
  /-- Among the digits of a scalar value: how many there were, and what they say. -/
  | scalar (count value : Nat)
  /-- Behind a backslash at the end of a line. -/
  | lineEnd
deriving DecidableEq

/-- A reader of code without comments, in which all quotes are those of text literals. -/
structure Reader where
  spot : Spot
  /-- What the literal that the reader is in says so far. -/
  begun : List Char
  /-- What the literals before that say. -/
  texts : List String

/-- What a letter behind a backslash stands for. -/
def letterEscape (c : Char) : Option Char :=
  match c with
  | 'n' => some '\n'
  | 'r' => some '\r'
  | 't' => some '\t'
  | '0' => some '\x00'
  | '\\' => some '\\'
  | '"' => some '"'
  | '\x27' => some '\x27'
  | _ => none

namespace Reader

def goTo (reader : Reader) (spot : Spot) : Reader := { reader with spot := spot }

/-- One more character of a literal. -/
def push (reader : Reader) (c : Char) : Reader := ⟨.text, reader.begun ++ [c], reader.texts⟩

def close (reader : Reader) : Reader := ⟨.code, [], reader.texts ++ [String.ofList reader.begun]⟩

/-- Reads a character that is behind no backslash. A carriage return does not stand for itself. -/
def within (reader : Reader) (c : Char) : Option Reader :=
  if c = '"' then some reader.close
  else if c = '\\' then some (reader.goTo .escape)
  else if c = '\r' then none
  else some (reader.push c)

def escaped (reader : Reader) (c : Char) : Option Reader :=
  if c = 'x' then some (reader.goTo (.byte none))
  else if c = 'u' then some (reader.goTo .opening)
  else if c = '\n' then some (reader.goTo .lineEnd)
  else (letterEscape c).map reader.push

/-- Reads a character among the digits of a scalar value. There are at most six digits, and what they
say is a scalar value; they may have underscores between them. -/
def inScalar (reader : Reader) (count value : Nat) (c : Char) : Option Reader :=
  if c = '\x7d' then
    if 0 < count ∧ value.isValidChar then some (reader.push (Char.ofNat value)) else none
  else if c = '_' then if 0 < count then some reader else none
  else (Json.hexValue c).bind fun digit =>
    if count < 6 then some (reader.goTo (.scalar (count + 1) (16 * value + digit))) else none

def step (reader : Reader) (c : Char) : Option Reader :=
  match reader.spot with
  | .code => some (if c = '"' then reader.goTo .text else reader)
  | .text => reader.within c
  | .escape => reader.escaped c
  | .byte none => (Json.hexValue c).bind fun high =>
      if high < 8 then some (reader.goTo (.byte (some high))) else none
  | .byte (some high) =>
      (Json.hexValue c).map fun low => reader.push (Char.ofNat (16 * high + low))
  | .opening => if c = '\x7b' then some (reader.goTo (.scalar 0 0)) else none
  | .scalar count value => reader.inScalar count value c
  | .lineEnd => if c = ' ' ∨ c = '\t' ∨ c = '\n' then some reader else reader.within c

end Reader

/-- What the literals of a piece of code say, when it ends outside of them. -/
def texts? (code : String) : Option (List String) :=
  (code.toList.foldlM Reader.step ⟨.code, [], []⟩).bind fun reader =>
    if reader.spot = .code then some reader.texts else none

/-- What the literals of some rows say. -/
def textsIn? (rows : List String) : Option (List String) := (rows.mapM texts?).map List.flatten

/-! ## One literal -/

/-- A digit is none of the characters that end or divide digits. -/
theorem hexDigit_ne {n : Nat} (small : n < 16) :
    hexDigit n ≠ '\x7d' ∧ hexDigit n ≠ '_' ∧ hexDigit n ≠ '\n' ∧ Code.isPlain (hexDigit n) := by
  revert n
  decide

theorem mem_hexDigits {n : Nat} {c : Char} (member : c ∈ hexDigits n) :
    ∃ digit, digit < 16 ∧ c = hexDigit digit := by
  induction n using hexDigits.induct with
  | case1 n small =>
      rw [hexDigits, if_pos small] at member
      exact ⟨n, small, List.mem_singleton.mp member⟩
  | case2 n large ih =>
      rw [hexDigits, if_neg large, List.mem_append] at member
      rcases member with front | last
      · exact ih front
      · exact ⟨n % 16, Nat.mod_lt _ (by decide), List.mem_singleton.mp last⟩

/-- There are no more digits than any power above the number says. -/
theorem length_hexDigits_le {n count : Nat} (below : n < Nat.pow 16 (count + 1)) :
    (hexDigits n).length ≤ count + 1 := by
  induction count generalizing n with
  | zero => rw [hexDigits, if_pos (by simpa using below), List.length_singleton]
  | succ count ih =>
      rw [hexDigits]
      split
      · exact Nat.succ_le_succ (Nat.zero_le _)
      · have shorter : n / 16 < Nat.pow 16 (count + 1) := by
          have power : Nat.pow 16 (count + 1 + 1) = Nat.pow 16 (count + 1) * 16 := rfl
          omega
        rw [List.length_append, List.length_singleton]
        exact Nat.succ_le_succ (ih shorter)

namespace Reader

variable {begun : List Char} {texts : List String}

theorem step_hexDigit {count value digit : Nat} (small : digit < 16) (fewer : count < 6) :
    step ⟨.scalar count value, begun, texts⟩ (hexDigit digit) =
      some ⟨.scalar (count + 1) (16 * value + digit), begun, texts⟩ := by
  obtain ⟨notClosed, noUnderscore, -, -⟩ := hexDigit_ne small
  change inScalar _ _ _ _ = _
  rw [inScalar, if_neg notClosed, if_neg noUnderscore, hexValue_hexDigit small, Option.bind_some,
    if_pos fewer]
  rfl

/-- Digits are read as the number that they are the digits of. -/
theorem foldlM_hexDigits {n : Nat} (few : (hexDigits n).length ≤ 6) :
    (hexDigits n).foldlM step ⟨.scalar 0 0, begun, texts⟩ =
      some ⟨.scalar (hexDigits n).length n, begun, texts⟩ := by
  induction n using hexDigits.induct with
  | case1 n small =>
      rw [hexDigits, if_pos small]
      simp only [List.foldlM_cons, List.foldlM_nil, bind_pure]
      rw [step_hexDigit small (by decide), Nat.mul_zero, Nat.zero_add, Nat.zero_add,
        List.length_singleton]
  | case2 n large ih =>
      rw [hexDigits, if_neg large, List.length_append, List.length_singleton] at few ⊢
      rw [List.foldlM_append, ih (Nat.le_of_succ_le few), Option.bind_eq_bind, Option.bind_some]
      simp only [List.foldlM_cons, List.foldlM_nil, bind_pure]
      rw [step_hexDigit (Nat.mod_lt _ (by decide)) few, Nat.div_add_mod]

/-- What is written for a character is read as that character. -/
theorem foldlM_quotedChar (c : Char) :
    (quotedChar c).foldlM step ⟨.text, begun, texts⟩ = some ⟨.text, begun ++ [c], texts⟩ := by
  unfold quotedChar
  split <;> try rfl
  · next _ _ noReturn noQuote noBackslash =>
    split
    · change (within _ c >>= _) = _
      rw [within, if_neg noQuote, if_neg noBackslash, if_neg noReturn]
      rfl
    · have isScalar : c.toNat.isValidChar := c.valid
      have below : c.toNat < 16 ^ 6 := by
        rcases isScalar with low | ⟨-, high⟩ <;> omega
      have few := length_hexDigits_le below
      have positive : 0 < (hexDigits c.toNat).length := by
        rw [hexDigits]
        split
        · exact Nat.one_pos
        · rw [List.length_append, List.length_singleton]
          exact Nat.succ_pos _
      rw [List.foldlM_append, List.foldlM_append]
      change ((hexDigits c.toNat).foldlM step ⟨.scalar 0 0, begun, texts⟩ >>= _) = _
      rw [foldlM_hexDigits few, Option.bind_eq_bind, Option.bind_some]
      simp only [List.foldlM_cons, List.foldlM_nil, bind_pure]
      change inScalar _ _ _ _ = _
      rw [inScalar, if_pos rfl, if_pos ⟨positive, isScalar⟩, Char.ofNat_toNat]
      rfl

theorem foldlM_quotedChars (text : List Char) :
    (text.flatMap quotedChar).foldlM step ⟨.text, begun, texts⟩ =
      some ⟨.text, begun ++ text, texts⟩ := by
  induction text generalizing begun with
  | nil => rw [List.append_nil]; rfl
  | cons c rest ih =>
      rw [List.flatMap_cons, List.foldlM_append, foldlM_quotedChar, Option.bind_eq_bind,
        Option.bind_some, ih, List.append_assoc, List.singleton_append]

end Reader

/-! ## Literals in code -/

/-- A piece of code without quotes. -/
def Unquoted (code : String) : Prop := '"' ∉ code.toList

instance (code : String) : Decidable (Unquoted code) := inferInstanceAs (Decidable (_ ∉ _))

theorem unquoted_append {front rest : String} :
    Unquoted (front ++ rest) ↔ Unquoted front ∧ Unquoted rest := by
  rw [Unquoted, String.toList_append, List.mem_append, not_or]
  rfl

/-- Code that starts and ends outside of literals, and whose literals say some texts. -/
def Reads (code : String) (said : List String) : Prop :=
  ∀ texts, code.toList.foldlM Reader.step ⟨.code, [], texts⟩ = some ⟨.code, [], texts ++ said⟩

theorem Reads.append {front rest : String} {said others : List String} (reads : Reads front said)
    (readsRest : Reads rest others) : Reads (front ++ rest) (said ++ others) := by
  intro texts
  rw [String.toList_append, List.foldlM_append, reads texts, Option.bind_eq_bind, Option.bind_some,
    readsRest (texts ++ said), List.append_assoc]

theorem Unquoted.reads {code : String} (unquoted : Unquoted code) : Reads code [] := by
  intro texts
  rw [List.append_nil]
  rw [Unquoted] at unquoted
  generalize code.toList = chars at unquoted ⊢
  induction chars with
  | nil => rfl
  | cons c rest ih =>
      obtain ⟨other, unquoted⟩ := List.ne_and_not_mem_of_not_mem_cons unquoted
      rw [List.foldlM_cons, Reader.step, if_neg (Ne.symm other), Option.bind_eq_bind,
        Option.bind_some, ih unquoted]

/-- What is written for a text is one literal that says it. -/
theorem reads_quoted (text : String) : Reads (quoted text) [text] := by
  intro texts
  rw [quoted, String.toList_ofList, List.cons_append, List.foldlM_cons, Reader.step, if_pos rfl,
    Option.bind_eq_bind, Option.bind_some, List.foldlM_append]
  change (List.foldlM Reader.step ⟨.text, [], texts⟩ _ >>= _) = _
  rw [Reader.foldlM_quotedChars, List.nil_append, Option.bind_eq_bind, Option.bind_some]
  change some (Reader.mk .code [] (texts ++ [String.ofList text.toList])) = _
  rw [String.ofList_toList]

section Around

variable {code : String} {said : List String} (reads : Reads code said) {before after : String}
include reads

/-- Code without literals behind other code. -/
theorem Reads.followed (unquoted : Unquoted after) : Reads (code ++ after) said := by
  have whole := reads.append unquoted.reads
  rwa [List.append_nil] at whole

/-- Code without literals around other code. -/
theorem Reads.around (unquoted : Unquoted before) (unquotedAfter : Unquoted after) :
    Reads (before ++ code ++ after) said :=
  Reads.followed (unquoted.reads.append reads) unquotedAfter

end Around

/-- Pieces of code with something between them that has no literal. -/
theorem reads_intercalate (separator : String) (unquoted : Unquoted separator)
    {parts : List String} {said : List (List String)} (each : List.Forall₂ Reads parts said) :
    Reads (separator.intercalate parts) said.flatten := by
  induction each with
  | nil => exact Unquoted.reads (by decide : Unquoted "")
  | @cons part saidPart rest saidRest reads readsRest ih =>
      cases readsRest with
      | nil =>
          rw [String.intercalate_singleton, List.flatten_singleton]
          exact reads
      | cons readsOther readsRest =>
          have whole := (reads.followed unquoted).append ih
          rwa [← String.intercalate_cons_cons, ← List.flatten_cons] at whole

theorem reads_values (values : List String) :
    Reads (", ".intercalate (values.map quoted)) values := by
  have each : List.Forall₂ Reads (values.map quoted) (values.map fun value => [value]) := by
    rw [List.forall₂_map_left_iff, List.forall₂_map_right_iff, List.forall₂_same]
    exact fun value _ => reads_quoted value
  have whole := reads_intercalate ", " (by decide) each
  rwa [← List.flatMap_def, List.flatMap_singleton'] at whole

theorem Reads.texts? {code : String} {said : List String} (reads : Reads code said) :
    texts? code = some said := by
  rw [RustCode.texts?, reads [], List.nil_append, Option.bind_some, if_pos rfl]

theorem textsIn?_cons {row : String} {said : List String} (reads : Reads row said)
    {rows : List String} {others : List String} (read : textsIn? rows = some others) :
    textsIn? (row :: rows) = some (said ++ others) := by
  rw [textsIn?] at read ⊢
  obtain ⟨each, readEach, rfl⟩ := Option.map_eq_some_iff.mp read
  rw [List.mapM_cons, reads.texts?, readEach]
  rfl

theorem textsIn?_singleton {row : String} {said : List String} (reads : Reads row said) :
    textsIn? [row] = some said := by
  have whole : textsIn? [row] = some (said ++ []) := textsIn?_cons reads rfl
  rwa [List.append_nil] at whole

theorem textsIn?_append {front rest : List String} {said others : List String}
    (read : textsIn? front = some said) (readRest : textsIn? rest = some others) :
    textsIn? (front ++ rest) = some (said ++ others) := by
  rw [textsIn?] at read readRest ⊢
  obtain ⟨each, readEach, rfl⟩ := Option.map_eq_some_iff.mp read
  obtain ⟨eachRest, readEachRest, rfl⟩ := Option.map_eq_some_iff.mp readRest
  rw [List.mapM_append, readEach, readEachRest]
  exact congrArg some List.flatten_append

theorem textsIn?_flatMap {α : Type} {items : List α} {rows said : α → List String}
    (each : ∀ item ∈ items, textsIn? (rows item) = some (said item)) :
    textsIn? (items.flatMap rows) = some (items.flatMap said) := by
  induction items with
  | nil => rfl
  | cons item rest ih =>
      obtain ⟨here, later⟩ := List.forall_mem_cons.mp each
      exact textsIn?_append here (ih later)

theorem textsIn?_line {row : String} {said : List String} (reads : Reads row said) :
    textsIn? (Code.rowsIn [.line row]) = some said := textsIn?_singleton reads

/-- The texts of a block are those of its header and of its body. -/
theorem textsIn?_block {header : String} {body : List Code.Fragment} {close : String}
    {said others : List String} (reads : Reads header said)
    (read : textsIn? (Code.rowsIn body) = some others) (unquoted : Unquoted close) :
    textsIn? (Code.rowsIn [Code.block header body close]) = some (said ++ others) := by
  have closed := textsIn?_append read (textsIn?_singleton unquoted.reads)
  rw [List.append_nil] at closed
  have whole := textsIn?_cons reads closed
  rwa [← List.append_nil (header :: _)] at whole

/-! ## How literals are written -/

theorem not_mem_quotedChar (c : Char) : '\n' ∉ quotedChar c := by
  unfold quotedChar
  split <;> try decide
  · next _ _ noFeed _ _ _ =>
    split
    · simpa using Ne.symm noFeed
    · rw [List.mem_append, List.mem_append, not_or, not_or]
      refine ⟨⟨by decide, fun member => ?_⟩, by decide⟩
      obtain ⟨digit, small, isDigit⟩ := mem_hexDigits member
      exact (hexDigit_ne small).2.2.1 isDigit.symm

/-- A literal is on one line. -/
theorem lineFeed_not_mem_quoted (text : String) : '\n' ∉ (quoted text).toList := by
  rw [quoted, String.toList_ofList, List.mem_append, List.mem_cons, not_or, not_or]
  refine ⟨⟨by decide, fun member => ?_⟩, by decide⟩
  obtain ⟨c, -, inside⟩ := List.mem_flatMap.mp member
  exact not_mem_quotedChar c inside

/-- A character stands for itself or is written as an escape, which starts with a backslash. -/
theorem quotedChar_cases (c : Char) :
    (quotedChar c = [c] ∧ Code.isPlain c) ∨
      ∃ letter tail, quotedChar c = '\\' :: letter :: tail ∧ tail.all Code.isPlain := by
  unfold quotedChar
  split <;> try exact .inr ⟨_, [], rfl, rfl⟩
  · next _ _ _ noQuote noBackslash =>
    split
    · refine .inl ⟨rfl, ?_⟩
      rw [Code.isPlain, Bool.and_eq_true, bne_iff_ne, bne_iff_ne]
      exact ⟨noQuote, noBackslash⟩
    · refine .inr ⟨'u', '\x7b' :: (hexDigits c.toNat ++ ['\x7d']), by simp, ?_⟩
      rw [List.all_cons, List.all_append, Bool.and_eq_true, Bool.and_eq_true]
      refine ⟨by decide, List.all_eq_true.mpr fun digit member => ?_, by decide⟩
      obtain ⟨value, small, rfl⟩ := mem_hexDigits member
      exact (hexDigit_ne small).2.2.2

/-- What is read of a literal, behind a piece of it. -/
def behind (piece : List Char) : List Char × List Char → List Char × List Char
  | (text, after) => (piece ++ text, after)

theorem closeText_append_of_isPlain {piece : List Char} (plain : piece.all Code.isPlain)
    (rest : List Char) :
    Code.closeText .text (piece ++ rest) = (Code.closeText .text rest).map (behind piece) := by
  induction piece with
  | nil => exact Option.map_id.symm ▸ rfl
  | cons c piece ih =>
      rw [List.all_cons, Bool.and_eq_true] at plain
      rw [List.cons_append, Code.closeText, Code.next_of_isPlain plain.1, if_neg (by decide),
        ih plain.2, Option.map_map]
      rfl

/-- What is written for a character does not end the literal. -/
theorem closeText_quotedChar (c : Char) (rest : List Char) :
    Code.closeText .text (quotedChar c ++ rest) =
      (Code.closeText .text rest).map (behind (quotedChar c)) := by
  rcases quotedChar_cases c with ⟨isSelf, plain⟩ | ⟨letter, tail, isEscape, plain⟩
  · rw [isSelf, closeText_append_of_isPlain (by rwa [List.all_cons, List.all_nil, Bool.and_true])]
  · rw [isEscape, List.cons_append, List.cons_append, Code.closeText]
    change (Code.closeText .escape _).map _ = _
    rw [Code.closeText]
    change ((Code.closeText .text _).map _).map _ = _
    rw [closeText_append_of_isPlain plain, Option.map_map, Option.map_map]
    rfl

/-- No quote in a literal ends it but the last one. -/
theorem quotation?_quoted (text : String) :
    Code.quotation? (quoted text).toList = some ⟨['"'], text.toList.flatMap quotedChar, ['"']⟩ := by
  have closes : ∀ chars : List Char, Code.closeText .text (chars.flatMap quotedChar ++ ['"']) =
      some (chars.flatMap quotedChar, ['"']) := by
    intro chars
    induction chars with
    | nil => rfl
    | cons c rest ih =>
        rw [List.flatMap_cons, List.append_assoc, closeText_quotedChar, ih]
        rfl
  rw [quoted, String.toList_ofList]
  change (Code.closeText .text (text.toList.flatMap quotedChar ++ ['"'])).map _ = _
  rw [closes]
  rfl

end RustCode

end RpcSchema
