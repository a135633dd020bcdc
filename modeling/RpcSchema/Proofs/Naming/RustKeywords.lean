import RpcSchema.Proofs.Naming.FirstWords
import RpcSchema.Proofs.Naming.Marks

/-!
# Keywords of Rust

Fields and functions of generated Rust are in snake case, with `r#` in front of a keyword. What Rust
takes for an identifier is told here apart from the words that the naming convention escapes: the
keywords of an edition, and those of them that no `r#` makes an identifier of, since they stand for
parts of paths. The two do not agree in full. Every name has an identifier that Rust takes, but for
names that are one of three such words in snake case, and names that are the keyword which the
edition of 2024 has added.
-/

namespace RpcSchema.RustCode

open Naming Text

/-! ## Identifiers -/

/-- The editions of Rust that have the asynchronous functions of generated code. -/
inductive Edition
  | y2018
  | y2021
  | y2024
deriving DecidableEq

/-- The words that are keywords in all these editions, in use or kept for later. -/
def lastingKeywords : List String := [
  "as", "async", "await", "break", "const", "continue", "crate", "dyn", "else", "enum", "extern",
  "false", "fn", "for", "if", "impl", "in", "let", "loop", "match", "mod", "move", "mut", "pub",
  "ref", "return", "self", "Self", "static", "struct", "super", "trait", "true", "type", "unsafe",
  "use", "where", "while",
  "abstract", "become", "box", "do", "final", "macro", "override", "priv", "try", "typeof",
  "unsized", "virtual", "yield"]

def Edition.keywords : Edition → List String
  | .y2018 => lastingKeywords
  | .y2021 => lastingKeywords
  | .y2024 => "gen" :: lastingKeywords

/-- The keywords that stand for parts of paths. These are no raw identifiers. -/
def pathKeywords : List String := ["crate", "self", "super", "Self"]

/-- Lower-case letters and digits with single underscores between them, a letter in front. -/
def isSnake (text : String) : Bool :=
  text.toList.head?.any isAsciiLower && (text.toList.splitOn '_').all isPlain

/-- An identifier in snake case that is no keyword, or a raw identifier made of a keyword. -/
def IsLegal (edition : Edition) (identifier : String) : Prop :=
  (isSnake identifier = true ∧ identifier ∉ edition.keywords) ∨
    ∃ word ∈ edition.keywords, word ∉ pathKeywords ∧ identifier = "r#" ++ word

instance (edition : Edition) (identifier : String) : Decidable (IsLegal edition identifier) :=
  inferInstanceAs (Decidable (_ ∨ _))

/-! ## Snake case -/

theorem isSnake_snakeCase {name : String} (named : isIdentifier name = true) :
    isSnake (snakeCase name) = true := by
  obtain ⟨letter, tail, rest, spelled, lower⟩ := exists_first_word named
  have plain : ∀ word ∈ (words name).map String.toList, isPlain word = true := by
    intro characters member
    obtain ⟨word, isWord, rfl⟩ := List.mem_map.mp member
    exact isPlain_of_mem_words named isWord
  have unbroken : ∀ word ∈ (words name).map String.toList, '_' ∉ word := by
    intro word member inWord
    exact absurd ((isPlain_iff.mp (plain word member)).2 '_' inWord) (by decide)
  have written : (snakeCase name).toList = ['_'].intercalate ((words name).map String.toList) := by
    rw [snakeCase, String.toList_intercalate]
    rfl
  have starts : (snakeCase name).toList.head? = some letter := by
    rw [written, spelled]
    cases rest <;> simp [List.intercalate_cons_cons]
  have parts : (snakeCase name).toList.splitOn '_' = (words name).map String.toList := by
    rw [written]
    exact List.splitOn_intercalate '_' unbroken (by simp [spelled])
  rw [isSnake, starts, parts, List.all_eq_true.mpr plain, Bool.and_true]
  exact lower

theorem not_mem_of_isSnake {text : String} (snake : isSnake text = true) {c : Char}
    (noSeparator : c ≠ '_') (noWordChar : isWordChar c = false) : c ∉ text.toList := by
  unfold isSnake at snake
  obtain ⟨-, plain⟩ := Bool.and_eq_true_iff.mp snake
  have whole : ['_'].intercalate (text.toList.splitOn '_') = text.toList :=
    List.intercalate_splitOn '_'
  rw [← whole]
  refine not_mem_intercalate noSeparator fun part member inPart => ?_
  have inWord := (isPlain_iff.mp (List.all_eq_true.mp plain part member)).2 c inPart
  rw [noWordChar] at inWord
  cases inWord

theorem isSnake_raw (word : String) : isSnake ("r#" ++ word) = false := by
  rw [Bool.eq_false_iff]
  intro snake
  refine not_mem_of_isSnake snake (by decide : '#' ≠ '_') (by decide) ?_
  rw [String.toList_append]
  exact List.mem_append_left _ (by decide)

/-! ## Escaped words -/

theorem isLegal_iff_of_isSnake {edition : Edition} {text : String} (snake : isSnake text = true) :
    IsLegal edition text ↔ text ∉ edition.keywords := by
  constructor
  · rintro (⟨-, free⟩ | ⟨word, -, -, rfl⟩)
    · exact free
    · rw [isSnake_raw] at snake
      cases snake
  · exact fun free => .inl ⟨snake, free⟩

theorem isLegal_raw_iff {edition : Edition} {word : String} :
    IsLegal edition ("r#" ++ word) ↔ word ∈ edition.keywords ∧ word ∉ pathKeywords := by
  constructor
  · rintro (⟨snake, -⟩ | ⟨other, keyword, noPath, same⟩)
    · rw [isSnake_raw] at snake
      cases snake
    · rw [(String.append_right_inj _).mp same]
      exact ⟨keyword, noPath⟩
  · rintro ⟨keyword, noPath⟩
    exact .inr ⟨word, keyword, noPath, rfl⟩

/-- All words that are escaped are keywords. -/
theorem mem_keywords_of_reserved (edition : Edition) :
    ∀ word ∈ Convention.rust.reserved, word ∈ edition.keywords := by
  cases edition <;> decide

/-- The words in snake case that stand for parts of paths, and those that are keywords and are not
escaped. -/
def Edition.unwritable : Edition → List String
  | .y2018 => ["crate", "self", "super"]
  | .y2021 => ["crate", "self", "super"]
  | .y2024 => ["crate", "self", "super", "gen"]

theorem mem_unwritable_iff {edition : Edition} {text : String} (snake : isSnake text = true) :
    text ∈ edition.unwritable ↔
      text ∈ pathKeywords ∨ text ∈ edition.keywords ∧ text ∉ Convention.rust.reserved := by
  have left : ∀ word ∈ edition.unwritable,
      word ∈ pathKeywords ∨ word ∈ edition.keywords ∧ word ∉ Convention.rust.reserved := by
    cases edition <;> decide
  -- One of the words for paths is not in snake case.
  have ofPath : ∀ word ∈ pathKeywords, isSnake word = true → word ∈ edition.unwritable := by
    cases edition <;> decide
  have ofKeyword : ∀ word ∈ edition.keywords,
      word ∉ Convention.rust.reserved → word ∈ edition.unwritable := by
    cases edition <;> decide
  constructor
  · exact left text
  · rintro (path | ⟨keyword, unescaped⟩)
    · exact ofPath text path snake
    · exact ofKeyword text keyword unescaped

theorem isLegal_safeName_iff {edition : Edition} {text : String} (snake : isSnake text = true) :
    IsLegal edition (Convention.rust.safeName text) ↔ text ∉ edition.unwritable := by
  rw [mem_unwritable_iff snake]
  unfold Convention.safeName
  split
  · next escaped =>
    have listed : text ∈ Convention.rust.reserved := List.contains_iff_mem.mp escaped
    have keyword := mem_keywords_of_reserved edition text listed
    show IsLegal edition ("r#" ++ text) ↔ _
    rw [isLegal_raw_iff]
    tauto
  · next free =>
    have unlisted : text ∉ Convention.rust.reserved := fun listed =>
      free (List.contains_iff_mem.mpr listed)
    have noPath : text ∉ pathKeywords := fun path =>
      unlisted ((by decide : ∀ word ∈ pathKeywords, word ∈ Convention.rust.reserved) text path)
    rw [isLegal_iff_of_isSnake snake]
    tauto

/-- Fields and functions of generated Rust have identifiers that an edition takes, except for names
that are `crate`, `self` or `super` in snake case, or `gen` where that is a keyword: `r#` makes no
identifier of the first three, and the last is not escaped. -/
theorem legal_identifiers_iff {name : String} (named : isIdentifier name = true)
    (edition : Edition) :
    (IsLegal edition (Convention.rust.fieldName name) ↔ snakeCase name ∉ edition.unwritable) ∧
      (IsLegal edition (Convention.rust.methodName name) ↔
        snakeCase name ∉ edition.unwritable) :=
  ⟨isLegal_safeName_iff (isSnake_snakeCase named), isLegal_safeName_iff (isSnake_snakeCase named)⟩

/-- A keyword in other letters, escaped. -/
theorem legal_identifiers_yield :
    isIdentifier "Yield_" = true ∧ Convention.rust.fieldName "Yield_" = "r#yield" ∧
      IsLegal .y2024 (Convention.rust.fieldName "Yield_") ∧
      IsLegal .y2024 (Convention.rust.methodName "Yield_") := by
  have named : isIdentifier "Yield_" = true := by decide
  have writable : snakeCase "Yield_" ∉ Edition.y2024.unwritable := by decide
  obtain ⟨field, method⟩ := legal_identifiers_iff named .y2024
  exact ⟨named, by decide, field.mpr writable, method.mpr writable⟩

/-- No edition takes `self` as a raw identifier, and the edition of 2024 does not take `gen`. -/
theorem illegal_identifiers_self_gen :
    (isIdentifier "self" = true ∧
      ∀ edition, ¬ IsLegal edition (Convention.rust.fieldName "self") ∧
        ¬ IsLegal edition (Convention.rust.methodName "self")) ∧
      isIdentifier "gen" = true ∧ ¬ IsLegal .y2024 (Convention.rust.fieldName "gen") ∧
        ¬ IsLegal .y2024 (Convention.rust.methodName "gen") := by
  refine ⟨⟨by decide, ?_⟩, by decide, by decide, by decide⟩
  intro edition
  cases edition <;> decide

end RpcSchema.RustCode
