import Mathlib.Data.List.TakeWhile
import RpcSchema.Naming.Convention
import RpcSchema.Proofs.Naming.Words

/-!
# Names that are found again in identifiers

An identifier runs the words of a name together, and may have the last word all in capitals when it
is an acronym. Only a whole last word can be one: an acronym starts with a capital and has no other,
and neither has a capitalized word. So the words of an identifier are those of its name, as long as
they are regular, and distinct names stay distinct.
-/

namespace RpcSchema.Naming

open Text

/-! ## Acronyms at the end -/

/-- An acronym as tables have it: a capital, lower-case letters, then digits. -/
def isAcronym (entry : String) : Bool :=
  match entry.toList with
  | first :: rest => isAsciiUpper first && (rest.dropWhile isAsciiLower).all isAsciiDigit
  | [] => false

namespace Acronyms

/-- A table of such acronyms. -/
def IsRegular (acronyms : Acronyms) : Prop := ∀ entry ∈ acronyms.entries, isAcronym entry = true

theorem standard_isRegular : standard.IsRegular := by
  unfold IsRegular
  decide

theorem plain_isRegular : plain.IsRegular := fun _ member => absurd member List.not_mem_nil

theorem mem_of_foldl_longer {entries : List String} {best : Option String} {entry : String}
    (found : entries.foldl
      (fun found entry => some (found.elim entry fun best => longer best entry)) best =
        some entry) :
    best = some entry ∨ entry ∈ entries := by
  induction entries generalizing best with
  | nil => exact .inl found
  | cons next rest ih =>
      rcases ih found with isBest | inRest
      · cases best with
        | none => exact .inr (Option.some.inj isBest ▸ List.mem_cons_self)
        | some best =>
            -- The longer of two entries is one of them.
            have chosen : longer best next = entry := Option.some.inj isBest
            rw [longer] at chosen
            split at chosen
            · exact .inr (chosen ▸ List.mem_cons_self)
            · exact .inl (congrArg some chosen)
      · exact .inr (List.mem_cons_of_mem _ inRest)

/-- What is found at the end of a text is an entry that the text ends with. -/
theorem mem_of_ending? {acronyms : Acronyms} {text entry : String}
    (found : acronyms.ending? text = some entry) :
    entry ∈ acronyms.entries ∧ entry.toList <:+ text.toList := by
  rcases mem_of_foldl_longer found with none | member
  · cases none
  · rw [List.mem_filter, List.isSuffixOf_iff_suffix] at member
    exact member

end Acronyms

/-- A text with a capital at its start and nowhere else. -/
def isTitled : List Char → Bool
  | first :: rest => isAsciiUpper first && rest.all fun c => !isAsciiUpper c
  | [] => false

/-- A text does not end with two titled ones, as the longer would have a capital inside. -/
theorem eq_of_isTitled {first second text : List Char} (titled : isTitled first)
    (otherTitled : isTitled second) (ends : first <:+ text) (otherEnds : second <:+ text) :
    first = second := by
  have eq_of_suffix : ∀ {first second : List Char}, isTitled first → isTitled second →
      first <:+ second → first = second := by
    rintro first second titled otherTitled ⟨front, rfl⟩
    cases front with
    | nil => rfl
    | cons c front =>
        match first, titled with
        | capital :: rest, titled =>
          simp only [isTitled, Bool.and_eq_true, List.cons_append, List.all_eq_true]
            at titled otherTitled
          have noCapital := otherTitled.2 capital (by simp)
          simp [titled.1] at noCapital
  rcases List.suffix_or_suffix_of_suffix ends otherEnds with isSuffix | isSuffix
  · exact eq_of_suffix titled otherTitled isSuffix
  · exact (eq_of_suffix otherTitled titled isSuffix).symm

theorem isAsciiUpper_of_isWordChar {c : Char} (inWord : isWordChar c) : isAsciiUpper c = false :=
  of_ascii (fun c => isWordChar c → isAsciiUpper c = false) (by decide)
    (toNat_lt_of_isWordChar inWord) inWord

theorem isTitled_cons {capital : Char} {rest : List Char} (upper : isAsciiUpper capital)
    (inWord : ∀ c ∈ rest, isWordChar c) : isTitled (capital :: rest) = true := by
  simp only [isTitled, Bool.and_eq_true, List.all_eq_true, Bool.not_eq_true']
  exact ⟨upper, fun c member => isAsciiUpper_of_isWordChar (inWord c member)⟩

/-- The letters and the digits of an acronym behind its capital. -/
theorem exists_of_isAcronym {entry : String} (acronym : isAcronym entry) :
    ∃ capital letters digits, entry.toList = capital :: (letters ++ digits) ∧
      isAsciiUpper capital = true ∧ (∀ c ∈ letters, isAsciiLower c = true) ∧
      ∀ c ∈ digits, isAsciiDigit c = true := by
  rw [isAcronym] at acronym
  split at acronym
  · next capital rest spelled =>
    simp only [Bool.and_eq_true, List.all_eq_true] at acronym
    refine ⟨capital, rest.takeWhile isAsciiLower, rest.dropWhile isAsciiLower, ?_, acronym.1,
      fun c member => List.mem_takeWhile_imp member, acronym.2⟩
    rw [List.takeWhile_append_dropWhile, spelled]
  · cases acronym

theorem isTitled_of_isAcronym {entry : String} (acronym : isAcronym entry) :
    isTitled entry.toList = true := by
  obtain ⟨capital, letters, digits, spelled, upper, lower, numbers⟩ := exists_of_isAcronym acronym
  rw [spelled]
  refine isTitled_cons upper fun c member => ?_
  rcases List.mem_append.mp member with isLetter | isDigit
  · rw [isWordChar, lower c isLetter, Bool.true_or]
  · exact isWordChar_of_isAsciiDigit (numbers c isDigit)

/-- A regular word that is capitalized: a capital and the rest of the word. -/
theorem exists_capitalized {word : List Char} (regular : isRegular word) :
    ∃ first rest capital, word = first :: rest ∧ isAsciiLower first = true ∧
      (∀ c ∈ rest, isWordChar c = true) ∧ IsCapitalOf first capital ∧
      capitalized word = capital :: rest := by
  obtain ⟨first, second, rest, rfl, letter, inWord⟩ := exists_of_isRegular regular
  obtain ⟨capital, isCapital⟩ := exists_isCapitalOf letter
  refine ⟨first, second :: rest, capital, rfl, letter, inWord, isCapital, ?_⟩
  rw [capitalized, isCapital.upper, List.singleton_append]

/-! ## Words run together -/

theorem toList_join_capitalize (list : List String) :
    (String.join (list.map capitalize)).toList =
      (list.map String.toList).flatMap capitalized := by
  simp only [String.toList_join, List.flatMap_map, toList_capitalize]

namespace Acronyms

/-- Either no acronym stands at the end of a text, or one does and is all that changes. -/
theorem upcaseEnding_cases (acronyms : Acronyms) (text : String) :
    acronyms.upcaseEnding text = text ∨
      ∃ entry ∈ acronyms.entries, ∃ front : String, text = front ++ entry ∧
        acronyms.upcaseEnding text = front ++ upperText entry := by
  unfold upcaseEnding
  split
  · next entry found =>
    obtain ⟨listed, front, spelled⟩ := mem_of_ending? found
    refine .inr ⟨entry, listed, String.ofList front, ?_, ?_⟩
    · rw [← String.toList_inj, String.toList_append, String.toList_ofList, spelled]
    · rw [← spelled, List.length_append, Nat.add_sub_cancel, List.take_left']
      rfl
  · exact .inl rfl

variable {acronyms : Acronyms} (table : acronyms.IsRegular)
include table

/-- The acronym at the end of capitalized words is their last one, which is then in capitals. -/
theorem toList_upcaseEnding {list : List String} {last : String}
    (regular : isRegular last.toList) {entry : String}
    (found : acronyms.ending? (String.join ((list ++ [last]).map capitalize)) = some entry) :
    ∃ first letters digits, last.toList = first :: letters ++ digits ∧
      (∀ c ∈ first :: letters, isAsciiLower c = true) ∧ (∀ c ∈ digits, isAsciiDigit c = true) ∧
      (acronyms.upcaseEnding (String.join ((list ++ [last]).map capitalize))).toList =
        (list.map String.toList).flatMap capitalized ++ last.toList.flatMap upperChar := by
  obtain ⟨listed, ends⟩ := mem_of_ending? found
  obtain ⟨first, rest, capital, spelled, letter, inWord, isCapital, written⟩ :=
    exists_capitalized regular
  have text : (String.join ((list ++ [last]).map capitalize)).toList =
      (list.map String.toList).flatMap capitalized ++ capitalized last.toList := by
    rw [toList_join_capitalize, List.map_append, List.flatMap_append, List.map_singleton,
      List.flatMap_singleton]
  have isLast : entry.toList = capitalized last.toList := by
    refine eq_of_isTitled (isTitled_of_isAcronym (table entry listed)) ?_ ends
      (text ▸ List.suffix_append _ _)
    rw [written]
    exact isTitled_cons isCapital.isAsciiUpper inWord
  obtain ⟨_, letters, digits, shape, _, lower, numbers⟩ := exists_of_isAcronym (table entry listed)
  rw [isLast, written, List.cons.injEq] at shape
  obtain ⟨rfl, rfl⟩ := shape
  refine ⟨first, letters, digits, spelled, List.forall_mem_cons.mpr ⟨letter, lower⟩, numbers, ?_⟩
  have upper : (upperText entry).toList = last.toList.flatMap upperChar := by
    rw [upperText, String.toList_ofList, isLast, written, spelled, List.flatMap_cons,
      List.flatMap_cons, isCapital.stays, isCapital.upper]
  rw [upcaseEnding, found, String.toList_append, String.toList_ofList, upper, text, isLast,
    List.length_append, Nat.add_sub_cancel, List.take_left']
  rfl

end Acronyms

/-- The words of a text that is known by its characters. -/
theorem words_eq {name : String} {list : List (List Char)}
    (split : splitWords ' ' [] name.toList = list) : words name = list.map String.ofList := by
  rw [words, split]

theorem map_ofList_toList (list : List String) :
    (list.map String.toList).map String.ofList = list := by
  rw [List.map_map]
  exact (List.map_congr_left fun word _ => String.ofList_toList).trans (List.map_id list)

section Regular

variable {acronyms : Acronyms} (table : acronyms.IsRegular) {list : List String}
  (regular : ∀ word ∈ list, isRegular word.toList)
include table regular

/-- Regular words are found again when they are run together, the last of them in capitals or not,
in front of a text that starts its first word anywhere. -/
theorem Acronyms.startsAnew_upcaseEnding {text : List Char} {others : List (List Char)}
    (anywhere : StartsAnywhere text others) :
    StartsAnew ((acronyms.upcaseEnding (String.join (list.map capitalize))).toList ++ text)
      (list.map String.toList ++ others) := by
  have areRegular : ∀ word ∈ list.map String.toList, isRegular word := by
    simpa using regular
  cases found : acronyms.ending? (String.join (list.map capitalize)) with
  | none =>
      rw [upcaseEnding, found, toList_join_capitalize]
      exact anywhere.flatMap_capitalized areRegular
  | some entry =>
      rcases List.eq_nil_or_concat list with rfl | ⟨front, last, rfl⟩
      · -- The empty text ends with no acronym.
        obtain ⟨listed, ends⟩ := mem_of_ending? found
        have empty : entry.toList = [] := List.suffix_nil.mp ends
        have acronym := table entry listed
        rw [isAcronym, empty] at acronym
        cases acronym
      · rw [List.concat_eq_append] at *
        have lastRegular := regular last (List.mem_append_right _ (List.mem_singleton_self last))
        obtain ⟨first, letters, digits, spelled, lower, numbers, written⟩ :=
          toList_upcaseEnding table lastRegular found
        have anew := anywhere.upper_append lower numbers
        rw [← spelled] at anew
        rw [written, List.append_assoc, List.map_append, List.append_assoc]
        exact anew.flatMap_capitalized fun word member =>
          areRegular word (by rw [List.map_append]; exact List.mem_append_left _ member)

/-- The words of a name are those of its identifier, in front of those of any text that starts its
first word anywhere. -/
theorem words_exportedName_append {name : String} (spelled : words name = list) (text : String)
    (others : List String) (anywhere : StartsAnywhere text.toList (others.map String.toList)) :
    words (acronyms.exportedName name ++ text) = list ++ others := by
  have anew := Acronyms.startsAnew_upcaseEnding table regular anywhere
  rw [← List.map_append] at anew
  rw [Acronyms.exportedName, pascalCase, spelled, words_eq (String.toList_append ▸ anew.alone),
    map_ofList_toList]

theorem words_exportedName {name : String} (spelled : words name = list) :
    words (acronyms.exportedName name) = list := by
  have split := words_exportedName_append table regular spelled "" [] startsAnywhere_nil
  rwa [String.append_empty, List.append_nil] at split

theorem words_memberName {name : String} (spelled : words name = list) :
    words (acronyms.memberName name) = list := by
  rw [Acronyms.memberName, spelled]
  match list, regular with
  | [], _ => rfl
  | [word], regular =>
    have plain := isPlain_of_isRegular (regular word List.mem_cons_self)
    rw [words_eq (splitWords_of_isPlain plain ' '), List.map_singleton, String.ofList_toList]
  | first :: second :: rest, regular =>
    obtain ⟨nonempty, inWord⟩ :=
      isPlain_iff.mp (isPlain_of_isRegular (regular first List.mem_cons_self))
    have anew := Acronyms.startsAnew_upcaseEnding table
      (fun word member => regular word (List.mem_cons_of_mem _ member)) startsAnywhere_nil
    rw [List.append_nil, List.append_nil] at anew
    have split : splitWords ' ' [] (first ++ acronyms.upcaseEnding
        (String.join ((second :: rest).map capitalize))).toList =
          (first :: second :: rest).map String.toList := by
      rw [String.toList_append, splitWords_append inWord, List.nil_append,
        anew.behind _ _ (isWordChar_getLastD nonempty inWord ' ') nonempty]
      rfl
    rw [words_eq split, map_ofList_toList]

end Regular

/-- Plain words are found again between underscores. -/
theorem words_intercalate {list : List String} (plain : ∀ word ∈ list, isPlain word.toList) :
    words ("_".intercalate list) = list := by
  have arePlain : ∀ word ∈ list.map String.toList, isPlain word := by
    simpa using plain
  have split : splitWords ' ' [] ("_".intercalate list).toList = list.map String.toList := by
    rw [String.toList_intercalate]
    exact splitWords_intercalate arePlain ' '
  rw [words_eq split, map_ofList_toList]

end RpcSchema.Naming
