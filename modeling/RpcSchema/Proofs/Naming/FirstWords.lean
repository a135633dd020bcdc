import RpcSchema.Proofs.Code.Literals
import RpcSchema.Proofs.Naming.Identifiers

/-!
# Identifiers that differ in their first word only

An exported identifier and a member have one text behind the first word, unless the acronym at the
end of the exported one takes in the first word. An acronym starts with a capital and has no other,
so it takes in the first word only as a whole, and only when all words behind it start with digits.
In the standard table only `Utf8` has a digit.
-/

namespace RpcSchema.Naming

open Text

namespace Acronyms

/-- The identifiers of a name for both sides differ in its first word only: one is capitalized and
one is not, and one text stands behind it. -/
def AgreesBehindFirst (acronyms : Acronyms) (name : String) : Prop :=
  ∃ first rest tail, words name = first :: rest ∧
    acronyms.exportedName name = capitalize first ++ tail ∧
      acronyms.memberName name = first ++ tail

/-- An acronym at the end of the second of two texts is all that is put in capitals, when no other
takes in some of the first. -/
theorem upcaseEnding_append {acronyms : Acronyms} {front text : String}
    (within : ∀ entry ∈ acronyms.entries, entry.toList <:+ front.toList ++ text.toList →
      entry.toList <:+ text.toList) :
    acronyms.upcaseEnding (front ++ text) = front ++ acronyms.upcaseEnding text := by
  have same : acronyms.ending? (front ++ text) = acronyms.ending? text := by
    have endings : acronyms.entries.filter (·.toList.isSuffixOf (front ++ text).toList) =
        acronyms.entries.filter (·.toList.isSuffixOf text.toList) := by
      refine List.filter_congr fun entry listed => ?_
      rw [Bool.eq_iff_iff, List.isSuffixOf_iff_suffix, List.isSuffixOf_iff_suffix,
        String.toList_append]
      exact ⟨within entry listed, List.suffix_append_of_suffix⟩
    rw [ending?, ending?, endings]
  rw [upcaseEnding, upcaseEnding, same]
  cases found : acronyms.ending? text with
  | none => rfl
  | some entry =>
      have fits := (mem_of_ending? found).2.length_le
      have kept : (front ++ text).toList.take
          ((front ++ text).toList.length - entry.toList.length) =
            front.toList ++ text.toList.take (text.toList.length - entry.toList.length) := by
        rw [String.toList_append, List.length_append, Nat.add_sub_assoc fits,
          List.take_length_add_append]
      simp only [kept, String.ofList_append, String.ofList_toList, String.append_assoc]

end Acronyms

/-! ## Words of identifiers -/

/-- In lower case, the ASCII characters that are in words are those of plain words. -/
theorem isWordChar_lowerChar {c : Char} (ascii : c.toNat < 128)
    (inWord : isAlphanumeric c = true) : ∀ lower ∈ lowerChar c, isWordChar lower = true :=
  List.all_eq_true.mp <| of_ascii (fun c => isAlphanumeric c = true →
    (lowerChar c).all isWordChar = true) (by decide +kernel) ascii inWord

/-- An identifier starts with a letter, which begins its first word. -/
theorem exists_lowerChar_of_isIdentifierStart {c : Char} (start : isIdentifierStart c) :
    isAlphanumeric c = true ∧ ∃ lower, lowerChar c = [lower] ∧ isAsciiLower lower = true := by
  have part : isIdentifierPart c := by rw [isIdentifierPart, start]; rfl
  have facts := of_ascii (fun c => isIdentifierStart c → isAlphanumeric c = true ∧
    (lowerChar c).length = 1 ∧ (lowerChar c).all isAsciiLower = true)
    (by decide +kernel) (Code.toNat_lt_of_isIdentifierPart part) start
  obtain ⟨alphanumeric, single, lowers⟩ := facts
  obtain ⟨lower, isLower⟩ := List.length_eq_one_iff.mp single
  exact ⟨alphanumeric, lower, isLower,
    List.all_eq_true.mp lowers lower (isLower ▸ List.mem_singleton_self lower)⟩

/-- The words of an ASCII name are plain. -/
theorem isPlain_of_ascii {name word : String} (ascii : ∀ c ∈ name.toList, c.toNat < 128)
    (member : word ∈ words name) : isPlain word.toList = true := by
  obtain ⟨characters, split, rfl⟩ := List.mem_map.mp member
  rw [String.toList_ofList, isPlain_iff]
  exact forall_mem_splitWords (List.forall_mem_nil _)
    (fun c inName inWord => isWordChar_lowerChar (ascii c inName) inWord) ' ' _ split

theorem isPlain_of_mem_words {name word : String} (named : isIdentifier name = true)
    (member : word ∈ words name) : isPlain word.toList = true :=
  isPlain_of_ascii (fun c inName => Code.toNat_lt_of_isIdentifierPart
    (List.all_eq_true.mp (Code.all_isIdentifierPart named) c inName)) member

/-- The first word of an identifier starts with a letter. -/
theorem exists_first_word {name : String} (named : isIdentifier name = true) :
    ∃ letter tail rest, words name = String.ofList (letter :: tail) :: rest ∧
      isAsciiLower letter = true := by
  rw [isIdentifier] at named
  split at named
  · cases named
  · next c others spelled =>
    rw [Bool.and_eq_true] at named
    obtain ⟨alphanumeric, lower, isLower, letter⟩ := exists_lowerChar_of_isIdentifierStart named.1
    have begins : splitWords ' ' [] (c :: others) = splitWords c [lower] others := by
      rw [splitWords, alphanumeric, isLower]
      simp
    obtain ⟨first, rest, split, tail, rfl⟩ :=
      exists_of_splitWords_begun (List.cons_ne_nil lower []) c others
    exact ⟨lower, tail, rest.map String.ofList, words_eq (spelled ▸ begins.trans split), letter⟩

/-! ## Acronyms that take in the first word -/

/-- A capitalized word of letters and digits that starts with a letter is titled. -/
theorem isTitled_capitalized {letter : Char} {rest : List Char} (lower : isAsciiLower letter)
    (inWord : ∀ c ∈ rest, isWordChar c) : isTitled (capitalized (letter :: rest)) = true := by
  obtain ⟨capital, isCapital⟩ := exists_isCapitalOf lower
  rw [capitalized, isCapital.upper]
  exact isTitled_cons isCapital.isAsciiUpper inWord

/-- The start of a titled text is titled, and what is behind it has no capital. -/
theorem isTitled_of_append {front text : List Char} (nonempty : front ≠ [])
    (titled : isTitled (front ++ text)) :
    isTitled front = true ∧ ∀ c ∈ text, isAsciiUpper c = false := by
  cases front with
  | nil => exact absurd rfl nonempty
  | cons first front =>
      simp only [List.cons_append, isTitled, Bool.and_eq_true, List.all_append, List.all_eq_true,
        Bool.not_eq_true'] at titled ⊢
      exact ⟨⟨titled.1, titled.2.1⟩, titled.2.2⟩

/-- An acronym that ends in a text and starts in front of it takes in a whole titled text there. -/
theorem eq_append_of_spans {entry front text : List Char} (acronym : isTitled entry)
    (titled : isTitled front) (ends : entry <:+ front ++ text) (spans : ¬ entry <:+ text) :
    entry = front ++ text ∧ ∀ c ∈ text, isAsciiUpper c = false := by
  have longer : text <:+ entry :=
    (List.suffix_or_suffix_of_suffix ends (List.suffix_append front text)).resolve_left spans
  obtain ⟨taken, rfl⟩ := longer
  have nonempty : taken ≠ [] := by
    rintro rfl
    exact spans List.suffix_rfl
  obtain ⟨takenTitled, noCapital⟩ := isTitled_of_append nonempty acronym
  have inFront : taken <:+ front := by
    obtain ⟨others, whole⟩ := ends
    rw [← List.append_assoc] at whole
    exact ⟨others, List.append_cancel_right whole⟩
  exact ⟨by rw [eq_of_isTitled takenTitled titled inFront List.suffix_rfl], noCapital⟩

/-- A capitalized word starts with a capital, unless the word starts with a digit. -/
theorem capitalized_of_isPlain {word : List Char} (plain : isPlain word) :
    ∃ first rest, capitalized word = first :: rest ∧
      (isAsciiUpper first = true ∨ isAsciiDigit first = true ∧ word = first :: rest) := by
  obtain ⟨nonempty, inWord⟩ := isPlain_iff.mp plain
  obtain ⟨first, rest, rfl⟩ := List.exists_cons_of_ne_nil nonempty
  rcases Bool.or_eq_true_iff.mp (inWord first List.mem_cons_self) with letter | digit
  · obtain ⟨capital, isCapital⟩ := exists_isCapitalOf letter
    exact ⟨capital, rest, by rw [capitalized, isCapital.upper]; rfl, .inl isCapital.isAsciiUpper⟩
  · exact ⟨first, rest, by rw [capitalized, (digit_stays digit).1]; rfl, .inr ⟨digit, rfl⟩⟩

section Plain

variable {list : List (List Char)} (plain : ∀ word ∈ list, isPlain word)
include plain

theorem eq_nil_of_flatMap_capitalized (none : list.flatMap capitalized = []) : list = [] := by
  cases list with
  | nil => rfl
  | cons word others =>
      obtain ⟨first, rest, spelled, -⟩ := capitalized_of_isPlain (plain word List.mem_cons_self)
      rw [List.flatMap_cons, spelled] at none
      cases none

/-- Words that have no capital when they are capitalized and run together start with a digit. -/
theorem exists_digit_of_flatMap_capitalized (nonempty : list ≠ [])
    (noCapital : ∀ c ∈ list.flatMap capitalized, isAsciiUpper c = false) :
    ∃ digit rest, list.flatMap capitalized = digit :: rest ∧ isAsciiDigit digit = true := by
  obtain ⟨word, others, rfl⟩ := List.exists_cons_of_ne_nil nonempty
  obtain ⟨first, rest, spelled, start⟩ := capitalized_of_isPlain (plain word List.mem_cons_self)
  rw [List.flatMap_cons, spelled, List.cons_append] at noCapital ⊢
  rcases start with upper | ⟨digit, -⟩
  · rw [noCapital first List.mem_cons_self] at upper
    cases upper
  · exact ⟨first, rest ++ others.flatMap capitalized, rfl, digit⟩

/-- Words that are one digit when they are capitalized and run together are that digit. -/
theorem eq_singleton_of_flatMap_capitalized {digit : Char} (isDigit : isAsciiDigit digit)
    (single : list.flatMap capitalized = [digit]) : list = [[digit]] := by
  cases list with
  | nil => cases single
  | cons word others =>
      obtain ⟨first, rest, spelled, start⟩ := capitalized_of_isPlain (plain word List.mem_cons_self)
      rw [List.flatMap_cons, spelled, List.cons_append, List.cons.injEq,
        List.append_eq_nil_iff] at single
      obtain ⟨rfl, rfl, noOthers⟩ := single
      rcases start with upper | ⟨-, rfl⟩
      · have noCapital := isAsciiUpper_of_isWordChar (isWordChar_of_isAsciiDigit isDigit)
        rw [noCapital] at upper
        cases upper
      · rw [eq_nil_of_flatMap_capitalized
          (fun word member => plain word (List.mem_cons_of_mem _ member)) noOthers]

end Plain

namespace Acronyms

/-- Of the standard table, one entry has a digit. -/
theorem standard_digit {entry : String} (listed : entry ∈ standard.entries)
    {front rest : List Char} {digit : Char} (spelled : entry.toList = front ++ digit :: rest)
    (isDigit : isAsciiDigit digit) : front = ['U', 't', 'f'] ∧ digit :: rest = ['8'] := by
  have single : ∀ entry ∈ standard.entries, ∀ count < entry.toList.length,
      (entry.toList.drop count).head?.any isAsciiDigit →
        entry.toList.take count = ['U', 't', 'f'] ∧ entry.toList.drop count = ['8'] := by
    decide
  have found := single entry listed front.length (by rw [spelled]; simp)
  rw [spelled, List.drop_left, List.take_left] at found
  exact found isDigit

/-- Only the words of `Utf8` have an acronym at their end that takes in the first of them. -/
theorem eq_utf8_of_spans {letter : Char} {tail : List Char} (lower : isAsciiLower letter)
    (inWord : ∀ c ∈ tail, isWordChar c) {list : List (List Char)} (nonempty : list ≠ [])
    (plain : ∀ word ∈ list, isPlain word) {entry : String} (listed : entry ∈ standard.entries)
    (ends : entry.toList <:+ capitalized (letter :: tail) ++ list.flatMap capitalized)
    (spans : ¬ entry.toList <:+ list.flatMap capitalized) :
    letter :: tail = ['u', 't', 'f'] ∧ list = [['8']] := by
  obtain ⟨whole, noCapital⟩ := eq_append_of_spans
    (isTitled_of_isAcronym (standard_isRegular entry listed)) (isTitled_capitalized lower inWord)
    ends spans
  obtain ⟨digit, rest, starts, isDigit⟩ :=
    exists_digit_of_flatMap_capitalized plain nonempty noCapital
  rw [starts] at whole
  obtain ⟨first, behind⟩ := standard_digit listed whole isDigit
  obtain ⟨capital, isCapital⟩ := exists_isCapitalOf lower
  rw [capitalized, isCapital.upper, List.singleton_append, List.cons.injEq] at first
  obtain ⟨rfl, rfl⟩ := first
  have letterEq : [letter] = ['u'] := isCapital.lower.symm
  refine ⟨by rw [List.singleton_inj.mp letterEq], ?_⟩
  exact eq_singleton_of_flatMap_capitalized plain (by decide) (starts.trans behind)

end Acronyms

/-- The first word of an identifier, in front of others, is all that its exported name and its
member differ in, when these are not the words of `Utf8`. -/
theorem Acronyms.agreesBehindFirst_of_ne {name : String} (named : isIdentifier name = true)
    (several : 2 ≤ (words name).length) (other : words name ≠ ["utf", "8"]) :
    standard.AgreesBehindFirst name := by
  have plain : ∀ word ∈ words name, isPlain word.toList := fun _ => isPlain_of_mem_words named
  obtain ⟨letter, tail, rest, spelled, lower⟩ := exists_first_word named
  rw [spelled] at several plain other
  obtain ⟨plainFirst, plainRest⟩ := List.forall_mem_cons.mp plain
  rw [String.toList_ofList] at plainFirst
  have inWord : ∀ c ∈ tail, isWordChar c := fun c member =>
    (isPlain_iff.mp plainFirst).2 c (List.mem_cons_of_mem _ member)
  have nonempty : rest ≠ [] := by
    rintro rfl
    simp at several
  have within : ∀ entry ∈ standard.entries,
      entry.toList <:+ (capitalize (String.ofList (letter :: tail))).toList ++
        (String.join (rest.map capitalize)).toList →
      entry.toList <:+ (String.join (rest.map capitalize)).toList := by
    intro entry listed ends
    rw [toList_capitalize, String.toList_ofList, toList_join_capitalize] at ends
    rw [toList_join_capitalize]
    by_contra spans
    obtain ⟨isFirst, isRest⟩ := eq_utf8_of_spans lower inWord (by simpa using nonempty)
      (by simpa using plainRest) listed ends spans
    have isSecond : rest = ["8"] := by
      rw [← map_ofList_toList rest, isRest]
      rfl
    exact other (by rw [isFirst, isSecond])
  refine ⟨_, rest, standard.upcaseEnding (String.join (rest.map capitalize)), spelled, ?_, ?_⟩
  · rw [exportedName, pascalCase, spelled, List.map_cons, String.join_cons,
      upcaseEnding_append within]
  · obtain ⟨second, others, rfl⟩ := List.exists_cons_of_ne_nil nonempty
    rw [memberName, spelled]

/-- The first word of `Utf8`, capitalized, has letters in lower case. -/
theorem capitalize_append_ne (tail : String) : "UTF8" ≠ capitalize "utf" ++ tail := by
  intro same
  rw [← String.toList_inj, String.toList_append] at same
  have second := congrArg (fun text => text[1]?) same
  cases second

/-- The exported name and the member of an identifier of at least two words have one text behind
the first word, unless the words are those of `Utf8`: then the exported name is one acronym, and the
member has no letter in upper case. -/
theorem agreesBehindFirst_iff {name : String} (named : isIdentifier name = true)
    (several : 2 ≤ (words name).length) :
    (Acronyms.standard.AgreesBehindFirst name ↔ words name ≠ ["utf", "8"]) ∧
      (words name = ["utf", "8"] → Acronyms.standard.exportedName name = "UTF8" ∧
        Acronyms.standard.memberName name = "utf8") := by
  have astray : words name = ["utf", "8"] → Acronyms.standard.exportedName name = "UTF8" ∧
      Acronyms.standard.memberName name = "utf8" := by
    intro spelled
    rw [Acronyms.exportedName, pascalCase, Acronyms.memberName, spelled]
    decide
  refine ⟨⟨?_, Acronyms.agreesBehindFirst_of_ne named several⟩, astray⟩
  rintro ⟨first, rest, tail, spelled, exported, -⟩ isUtf8
  rw [isUtf8, List.cons.injEq] at spelled
  rw [(astray isUtf8).1, ← spelled.1] at exported
  exact capitalize_append_ne tail exported

/-- A name of two words that no acronym takes in, and a name of those of `Utf8`. -/
theorem agreesBehindFirst_http_url :
    (isIdentifier "http_url" = true ∧ 2 ≤ (words "http_url").length) ∧
      Acronyms.standard.AgreesBehindFirst "http_url" ∧
      Acronyms.standard.exportedName "utf_8" = "UTF8" :=
  have named : isIdentifier "http_url" = true ∧ 2 ≤ (words "http_url").length := by decide
  ⟨named, (agreesBehindFirst_iff named.1 named.2).1.mpr (by decide),
    ((agreesBehindFirst_iff (by decide) (by decide)).2 (by decide)).1⟩

/-- The first word of a name in front of a digit can be the start of an acronym. -/
theorem not_agreesBehindFirst_utf_8 :
    isIdentifier "utf_8" = true ∧ 2 ≤ (words "utf_8").length ∧
      ¬ Acronyms.standard.AgreesBehindFirst "utf_8" := by
  refine ⟨by decide, by decide, ?_⟩
  rintro ⟨first, rest, tail, spelled, exported, -⟩
  have isWords : words "utf_8" = ["utf", "8"] := by decide
  have isExported : Acronyms.standard.exportedName "utf_8" = "UTF8" := by decide
  rw [isWords, List.cons.injEq] at spelled
  rw [isExported, ← spelled.1] at exported
  exact capitalize_append_ne tail exported

end RpcSchema.Naming
