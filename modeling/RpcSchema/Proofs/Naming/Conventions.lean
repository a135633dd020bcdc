import RpcSchema.Proofs.Naming.Identifiers

/-!
# Names that stay apart

A language writes names in a few cases and marks those that are reserved words. Whatever the case, a
name of regular words is told by its identifier: the mark ends with a separator, so it adds words in
front at most, and none that is regular. Two such names have no identifier in common.
-/

namespace RpcSchema.Naming

open Text

/-- A separator ends the word before it, and nothing behind depends on what was before. -/
theorem splitWords_separator {separator : Char} (separates : isAlphanumeric separator = false)
    (before : Char) (word front rest : List Char) :
    splitWords before word (front ++ separator :: rest) =
      splitWords before word (front ++ [separator]) ++ splitWords separator [] rest := by
  induction front generalizing before word with
  | nil => simp [splitWords, separates, closeWord]
  | cons c front ih =>
      have head : (front ++ separator :: rest).head? = (front ++ [separator]).head? := by
        cases front <;> rfl
      rw [List.cons_append, List.cons_append, splitWords, splitWords, head]
      split
      · rw [ih, List.append_assoc]
      · split
        · rw [ih, List.cons_append]
        · rw [ih]

theorem words_append_of_separator {separator : Char} (separates : isAlphanumeric separator = false)
    (front text : String) :
    words (front.push separator ++ text) = words (front.push separator) ++ words text := by
  rw [words, words, words, String.toList_append, String.toList_push, List.append_assoc,
    List.singleton_append, splitWords_separator separates, List.map_append,
    splitWords_nil_congr separator ' ']

/-- The characters that end a mark or stand between words. -/
def marks : List Char := ['_', '#', '@']

/-- What can be decided of every mark holds of each. -/
theorem of_mem_marks (holds : Char → Prop) (all : holds '_' ∧ holds '#' ∧ holds '@') {mark : Char}
    (listed : mark ∈ marks) : holds mark := by
  simp only [marks, List.mem_cons, List.not_mem_nil, or_false] at listed
  rcases listed with rfl | rfl | rfl
  · exact all.1
  · exact all.2.1
  · exact all.2.2

theorem isAlphanumeric_of_mem_marks {mark : Char} (listed : mark ∈ marks) :
    isAlphanumeric mark = false :=
  of_mem_marks (fun mark => isAlphanumeric mark = false) (by decide) listed

namespace Convention

/-- The conventions of all target languages. -/
def languages : List Convention := [go, typescript, rust, csharp]

theorem go_mem_languages : go ∈ languages := by simp [languages]

theorem typescript_mem_languages : typescript ∈ languages := by simp [languages]

theorem rust_mem_languages : rust ∈ languages := by simp [languages]

theorem csharp_mem_languages : csharp ∈ languages := by simp [languages]

/-- The identifiers that stand for a name. -/
def identifiers (convention : Convention) (name : String) : List String :=
  [convention.typeName name, convention.fieldName name, convention.methodName name,
    convention.memberName name]

/-- A convention whose identifiers can be read back: its acronyms are ends of capitalized words, and
its mark ends with a character that its identifiers do not have otherwise, with no regular word
before it. -/
structure IsReadable (convention : Convention) : Prop where
  table : convention.acronyms.IsRegular
  mark : ∃ (front : String) (separator : Char), convention.escape = .before (front.push separator) ∧
    separator ∈ marks ∧ (convention.fieldCase = .snake → separator ≠ '_') ∧
    (words (front.push separator)).filter (fun word => isRegular word.toList) = []

theorem isReadable_of_mem {convention : Convention} (listed : convention ∈ languages) :
    convention.IsReadable := by
  simp only [languages, List.mem_cons, List.not_mem_nil, or_false] at listed
  rcases listed with rfl | rfl | rfl | rfl
  · exact ⟨Acronyms.standard_isRegular, "", '_', congrArg Escape.before (by decide),
      by decide, by decide, by decide⟩
  · exact ⟨Acronyms.standard_isRegular, "", '_', congrArg Escape.before (by decide),
      by decide, by decide, by decide⟩
  · exact ⟨Acronyms.plain_isRegular, "r", '#', congrArg Escape.before (by decide),
      by decide, by decide, by decide⟩
  · exact ⟨Acronyms.standard_isRegular, "", '@', congrArg Escape.before (by decide),
      by decide, by decide, by decide⟩

section Readable

variable {convention : Convention} (readable : convention.IsReadable) {list : List String}
  (regular : ∀ word ∈ list, isRegular word.toList)
include readable regular

theorem words_cased (case : NameCase) :
    words (convention.cased case ("_".intercalate list)) = list := by
  have spelled : words ("_".intercalate list) = list :=
    words_intercalate fun word member => isPlain_of_isRegular (regular word member)
  cases case with
  | exported => exact words_exportedName readable.table regular spelled
  | member => exact words_memberName readable.table regular spelled
  | snake =>
      rw [cased, snakeCase, spelled, spelled]
  | wire => exact spelled

/-- Marked or not, an identifier has the regular words that it was made of. -/
theorem regularWords_safeName {identifier : String} (spelled : words identifier = list) :
    (words (convention.safeName identifier)).filter (fun word => isRegular word.toList) = list := by
  have allRegular : list.filter (fun word => isRegular word.toList) = list :=
    List.filter_eq_self.mpr regular
  rw [safeName]
  split
  · obtain ⟨front, separator, isBefore, isMark, -, noWord⟩ := readable.mark
    rw [isBefore, Escape.apply, words_append_of_separator (isAlphanumeric_of_mem_marks isMark),
      List.filter_append, noWord, spelled, allRegular, List.nil_append]
  · rw [spelled, allRegular]

theorem regularWords_of_mem_identifiers {identifier : String}
    (member : identifier ∈ convention.identifiers ("_".intercalate list)) :
    (words identifier).filter (fun word => isRegular word.toList) = list := by
  have cased : ∀ case, (words (convention.safeName
      (convention.cased case ("_".intercalate list)))).filter
        (fun word => isRegular word.toList) = list := fun case =>
    regularWords_safeName readable regular (words_cased readable regular case)
  simp only [identifiers, List.mem_cons, List.not_mem_nil, or_false] at member
  rcases member with rfl | rfl | rfl | rfl
  · exact cased convention.typeCase
  · rw [fieldName]
    split
    · -- A key is the name as it stands.
      rw [words_intercalate fun word member => isPlain_of_isRegular (regular word member)]
      exact List.filter_eq_self.mpr regular
    · exact cased convention.fieldCase
  · exact cased convention.methodCase
  · exact cased .member

end Readable

end Convention

theorem isRegular_of_mem {acronyms : Acronyms}
    (listed : acronyms ∈ [Acronyms.standard, Acronyms.plain]) : acronyms.IsRegular := by
  simp only [List.mem_cons, List.not_mem_nil, or_false] at listed
  rcases listed with rfl | rfl
  · exact Acronyms.standard_isRegular
  · exact Acronyms.plain_isRegular

/-- The words of a name of regular words are found again in its identifiers, with acronyms or
without; the anchor made of an identifier is the name, and distinct names have distinct identifiers
in every language. -/
theorem words_found_in_identifiers {list : List String}
    (regular : ∀ word ∈ list, isRegular word.toList) :
    (∀ acronyms ∈ [Acronyms.standard, Acronyms.plain],
      words (acronyms.exportedName ("_".intercalate list)) = list ∧
      words (acronyms.memberName ("_".intercalate list)) = list ∧
      anchorName (acronyms.exportedName ("_".intercalate list)) = "_".intercalate list ∧
      anchorName (acronyms.memberName ("_".intercalate list)) = "_".intercalate list) ∧
    ∀ other : List String, (∀ word ∈ other, isRegular word.toList) → other ≠ list →
      "_".intercalate other ≠ "_".intercalate list ∧
      (∀ acronyms ∈ [Acronyms.standard, Acronyms.plain],
        acronyms.exportedName ("_".intercalate other) ≠
          acronyms.exportedName ("_".intercalate list) ∧
        acronyms.memberName ("_".intercalate other) ≠
          acronyms.memberName ("_".intercalate list)) ∧
      ∀ convention ∈ Convention.languages,
        ∀ identifier ∈ convention.identifiers ("_".intercalate other),
          identifier ∉ convention.identifiers ("_".intercalate list) := by
  have spelled : ∀ {list : List String}, (∀ word ∈ list, isRegular word.toList) →
      words ("_".intercalate list) = list := fun regular =>
    words_intercalate fun word member => isPlain_of_isRegular (regular word member)
  have exported : ∀ acronyms ∈ [Acronyms.standard, Acronyms.plain], ∀ {list : List String},
      (∀ word ∈ list, isRegular word.toList) →
        words (acronyms.exportedName ("_".intercalate list)) = list := fun _ listed _ regular =>
    words_exportedName (isRegular_of_mem listed) regular (spelled regular)
  have member : ∀ acronyms ∈ [Acronyms.standard, Acronyms.plain], ∀ {list : List String},
      (∀ word ∈ list, isRegular word.toList) →
        words (acronyms.memberName ("_".intercalate list)) = list := fun _ listed _ regular =>
    words_memberName (isRegular_of_mem listed) regular (spelled regular)
  constructor
  · intro acronyms listed
    refine ⟨exported acronyms listed regular, member acronyms listed regular, ?_, ?_⟩
    · rw [anchorName, snakeCase, exported acronyms listed regular]
    · rw [anchorName, snakeCase, member acronyms listed regular]
  · -- What two names share, their words share.
    intro other otherRegular distinct
    refine ⟨fun same => distinct ?_, fun acronyms listed => ⟨fun same => distinct ?_,
      fun same => distinct ?_⟩, fun convention listed identifier ofOther ofList => distinct ?_⟩
    · rw [← spelled otherRegular, same, spelled regular]
    · rw [← exported acronyms listed otherRegular, same, exported acronyms listed regular]
    · rw [← member acronyms listed otherRegular, same, member acronyms listed regular]
    · have readable := Convention.isReadable_of_mem listed
      rw [← Convention.regularWords_of_mem_identifiers readable otherRegular ofOther,
        Convention.regularWords_of_mem_identifiers readable regular ofList]

/-- Words with digits, and acronyms within and at the end. -/
theorem words_found_in_httpUtf8 :
    (∀ word ∈ ["http", "v2", "utf8"], isRegular word.toList) ∧
      words (Acronyms.standard.exportedName "http_v2_utf8") = ["http", "v2", "utf8"] ∧
      Acronyms.standard.exportedName "http_v2_utf8" = "HttpV2UTF8" ∧
      ∀ convention ∈ Convention.languages,
        ∀ identifier ∈ convention.identifiers "http_utf8",
          identifier ∉ convention.identifiers "http_v2_utf8" := by
  have regular : ∀ word ∈ ["http", "v2", "utf8"], isRegular word.toList := by decide
  have otherRegular : ∀ word ∈ ["http", "utf8"], isRegular word.toList := by decide
  have found := words_found_in_identifiers regular
  have first : Acronyms.standard ∈ [Acronyms.standard, Acronyms.plain] := List.mem_cons_self
  exact ⟨regular, (found.1 _ first).1, by decide, (found.2 _ otherRegular (by decide)).2.2⟩

end RpcSchema.Naming
