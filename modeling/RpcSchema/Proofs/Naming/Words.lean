import RpcSchema.Naming.Words

/-!
# Words that are found again

A word is plain when it is made of lower-case ASCII letters and ASCII digits, and regular when it
also starts with a letter and goes on behind it. Plain words are found again between underscores.
Regular words are found again when they are capitalized and run together: a capital behind a
lower-case letter or a digit starts a word, and the second character of a regular word is no capital
that could be taken for the start of another.
-/

namespace RpcSchema.Naming

open Text

/-! ## ASCII characters -/

/-- What can be decided of every ASCII character holds of each. -/
theorem of_ascii (holds : Char → Prop) (all : ∀ code < 128, holds (Char.ofNat code)) {c : Char}
    (ascii : c.toNat < 128) : holds c := by
  have same := all c.toNat ascii
  rwa [Char.ofNat_toNat] at same

/-- A character of a plain word: a lower-case ASCII letter or an ASCII digit. -/
def isWordChar (c : Char) : Bool := isAsciiLower c || isAsciiDigit c

section Ascii

variable {c : Char}

theorem toNat_lt_of_isAsciiLower (lower : isAsciiLower c) : c.toNat < 128 := by
  simp only [isAsciiLower, Bool.and_eq_true, decide_eq_true_eq] at lower
  exact Nat.lt_of_le_of_lt (Char.le_def.mp lower.2) (by decide)

theorem toNat_lt_of_isAsciiUpper (upper : isAsciiUpper c) : c.toNat < 128 := by
  simp only [isAsciiUpper, Bool.and_eq_true, decide_eq_true_eq] at upper
  exact Nat.lt_of_le_of_lt (Char.le_def.mp upper.2) (by decide)

theorem toNat_lt_of_isAsciiDigit (digit : isAsciiDigit c) : c.toNat < 128 := by
  simp only [isAsciiDigit, Bool.and_eq_true, decide_eq_true_eq] at digit
  exact Nat.lt_of_le_of_lt (Char.le_def.mp digit.2) (by decide)

theorem toNat_lt_of_isWordChar (inWord : isWordChar c) : c.toNat < 128 := by
  rcases Bool.or_eq_true_iff.mp inWord with lower | digit
  · exact toNat_lt_of_isAsciiLower lower
  · exact toNat_lt_of_isAsciiDigit digit

/-- A character of a word neither ends nor starts one, and stays as it is. -/
theorem wordChar_stays (inWord : isWordChar c) :
    isAlphanumeric c = true ∧ isUppercase c = false ∧ lowerChar c = [c] :=
  of_ascii (fun c => isWordChar c →
    isAlphanumeric c = true ∧ isUppercase c = false ∧ lowerChar c = [c]) (by decide)
    (toNat_lt_of_isWordChar inWord) inWord

theorem isLowercase_of_isAsciiLower (lower : isAsciiLower c) : isLowercase c = true :=
  of_ascii (fun c => isAsciiLower c → isLowercase c = true) (by decide)
    (toNat_lt_of_isAsciiLower lower) lower

theorem startsWord_of_isWordChar (inWord : isWordChar c) (next : Option Char) :
    startsWord c next = true := by
  have ends : (isLowercase c || isAsciiDigit c) = true :=
    of_ascii (fun c => isWordChar c → (isLowercase c || isAsciiDigit c) = true)
      (by decide) (toNat_lt_of_isWordChar inWord) inWord
  rw [startsWord, ends, Bool.true_or]

/-- Behind a capital, it depends on the character behind it whether another capital starts a
word. -/
theorem startsWord_of_isAsciiUpper (upper : isAsciiUpper c) (next : Option Char) :
    startsWord c next = next.any isLowercase := by
  have facts : (isLowercase c || isAsciiDigit c) = false ∧ isUppercase c = true :=
    of_ascii (fun c => isAsciiUpper c →
      (isLowercase c || isAsciiDigit c) = false ∧ isUppercase c = true) (by decide)
      (toNat_lt_of_isAsciiUpper upper) upper
  rw [startsWord, facts.1, facts.2, Bool.false_or, Bool.true_and]

/-- A letter in upper case. -/
structure IsCapitalOf (letter capital : Char) : Prop where
  upper : upperChar letter = [capital]
  isAsciiUpper : isAsciiUpper capital = true
  isAlphanumeric : isAlphanumeric capital = true
  isUppercase : isUppercase capital = true
  isLowercase : isLowercase capital = false
  lower : lowerChar capital = [letter]
  stays : upperChar capital = [capital]

theorem exists_isCapitalOf (lower : isAsciiLower c) : ∃ capital, IsCapitalOf c capital := by
  have facts := of_ascii (fun c => isAsciiLower c →
    upperChar c = [Char.ofNat (c.toNat - 32)] ∧
      isAsciiUpper (Char.ofNat (c.toNat - 32)) = true ∧
      isAlphanumeric (Char.ofNat (c.toNat - 32)) = true ∧
      isUppercase (Char.ofNat (c.toNat - 32)) = true ∧
      isLowercase (Char.ofNat (c.toNat - 32)) = false ∧
      lowerChar (Char.ofNat (c.toNat - 32)) = [c] ∧
      upperChar (Char.ofNat (c.toNat - 32)) = [Char.ofNat (c.toNat - 32)]) (by decide)
    (toNat_lt_of_isAsciiLower lower) lower
  obtain ⟨upper, isUpper, alphanumeric, isCapital, notLower, lowered, stays⟩ := facts
  exact ⟨_, upper, isUpper, alphanumeric, isCapital, notLower, lowered, stays⟩

/-- A digit has no case. -/
theorem digit_stays (digit : isAsciiDigit c) : upperChar c = [c] ∧ isLowercase c = false :=
  of_ascii (fun c => isAsciiDigit c → upperChar c = [c] ∧ isLowercase c = false)
    (by decide) (toNat_lt_of_isAsciiDigit digit) digit

theorem isWordChar_of_isAsciiDigit (digit : isAsciiDigit c) : isWordChar c = true := by
  rw [isWordChar, digit, Bool.or_true]

end Ascii

/-! ## Plain words -/

/-- A word of lower-case ASCII letters and ASCII digits. -/
def isPlain (word : List Char) : Bool := !word.isEmpty && word.all isWordChar

theorem splitWords_wordChar {c : Char} (inWord : isWordChar c) (before : Char)
    (word rest : List Char) :
    splitWords before word (c :: rest) = splitWords c (word ++ [c]) rest := by
  obtain ⟨alphanumeric, noCapital, stays⟩ := wordChar_stays inWord
  rw [splitWords, alphanumeric, noCapital, stays]
  rfl

/-- Characters of a word go to the word that is begun. -/
theorem splitWords_append {block : List Char} (inWord : ∀ c ∈ block, isWordChar c)
    (before : Char) (word rest : List Char) :
    splitWords before word (block ++ rest) =
      splitWords (block.getLastD before) (word ++ block) rest := by
  induction block generalizing before word with
  | nil => rw [List.nil_append, List.append_nil, List.getLastD_nil]
  | cons c block ih =>
      rw [List.cons_append, splitWords_wordChar (inWord c List.mem_cons_self),
        ih fun other member => inWord other (List.mem_cons_of_mem _ member), List.getLastD_cons,
        List.append_assoc, List.singleton_append]

theorem splitWords_of_inWord {block : List Char} (inWord : ∀ c ∈ block, isWordChar c)
    (before : Char) (word : List Char) :
    splitWords before word block = closeWord (word ++ block) := by
  have split := splitWords_append inWord before word []
  rwa [List.append_nil, splitWords] at split

theorem splitWords_underscore (before : Char) (word rest : List Char) :
    splitWords before word ('_' :: rest) = closeWord word ++ splitWords '_' [] rest := by
  have noWord : isAlphanumeric '_' = false := by decide
  rw [splitWords, noWord]
  rfl

/-- Where no word is begun, it does not matter what stands before. -/
theorem splitWords_nil_congr (before other : Char) (text : List Char) :
    splitWords before [] text = splitWords other [] text := by
  cases text with
  | nil => rfl
  | cons c rest => simp [splitWords]

theorem closeWord_of_ne_nil {word : List Char} (begun : word ≠ []) : closeWord word = [word] := by
  rw [closeWord, if_neg (by simpa using begun)]

/-- No word is empty, and what holds of the characters that words are made from holds of those of
each word. -/
theorem forall_mem_splitWords {holds : Char → Prop} {text begun : List Char}
    (ofBegun : ∀ c ∈ begun, holds c)
    (ofText : ∀ c ∈ text, isAlphanumeric c = true → ∀ lower ∈ lowerChar c, holds lower)
    (before : Char) :
    ∀ word ∈ splitWords before begun text, word ≠ [] ∧ ∀ c ∈ word, holds c := by
  have closes : ∀ {begun : List Char}, (∀ c ∈ begun, holds c) →
      ∀ word ∈ closeWord begun, word ≠ [] ∧ ∀ c ∈ word, holds c := by
    intro begun ofBegun word member
    rw [closeWord] at member
    split at member
    · cases member
    · next nonempty =>
      rw [List.mem_singleton.mp member]
      exact ⟨by simpa using nonempty, ofBegun⟩
  induction text generalizing before begun with
  | nil =>
      rw [splitWords]
      exact closes ofBegun
  | cons c rest ih =>
      obtain ⟨ofHead, ofRest⟩ := List.forall_mem_cons.mp ofText
      intro word member
      rw [splitWords] at member
      split at member
      · rcases List.mem_append.mp member with closed | later
        · exact closes ofBegun word closed
        · exact ih (List.forall_mem_nil _) ofRest c word later
      · next alphanumeric =>
        have lowered := ofHead (by simpa using alphanumeric)
        split at member
        · next starts =>
          rcases List.mem_cons.mp member with rfl | later
          · exact ⟨by rintro rfl; simp at starts, ofBegun⟩
          · exact ih lowered ofRest c word later
        · exact ih (List.forall_mem_append.mpr ⟨ofBegun, lowered⟩) ofRest c word member

/-- A word that is begun is the first one, or the start of it. -/
theorem exists_of_splitWords_begun {begun : List Char} (nonempty : begun ≠ []) (before : Char)
    (text : List Char) :
    ∃ first rest, splitWords before begun text = first :: rest ∧ begun <+: first := by
  induction text generalizing before begun with
  | nil => exact ⟨begun, [], by rw [splitWords, closeWord_of_ne_nil nonempty], List.prefix_rfl⟩
  | cons c text ih =>
      rw [splitWords]
      split
      · rw [closeWord_of_ne_nil nonempty]
        exact ⟨begun, _, rfl, List.prefix_rfl⟩
      · split
        · exact ⟨begun, _, rfl, List.prefix_rfl⟩
        · obtain ⟨first, rest, split, starts⟩ :=
            ih (List.append_ne_nil_of_left_ne_nil nonempty (lowerChar c)) c
          exact ⟨first, rest, split, (List.prefix_append begun _).trans starts⟩

theorem isPlain_iff {word : List Char} :
    isPlain word = true ↔ word ≠ [] ∧ ∀ c ∈ word, isWordChar c = true := by
  simp [isPlain]

/-- A plain word by itself is one word. -/
theorem splitWords_of_isPlain {word : List Char} (plain : isPlain word) (before : Char) :
    splitWords before [] word = [word] := by
  obtain ⟨nonempty, inWord⟩ := isPlain_iff.mp plain
  rw [splitWords_of_inWord inWord, List.nil_append, closeWord_of_ne_nil nonempty]

/-- Plain words are found again between underscores. -/
theorem splitWords_intercalate {list : List (List Char)} (plain : ∀ word ∈ list, isPlain word)
    (before : Char) : splitWords before [] (['_'].intercalate list) = list := by
  induction list generalizing before with
  | nil => rfl
  | cons word others ih =>
      have plainWord := plain word List.mem_cons_self
      cases others with
      | nil => rw [List.intercalate_singleton, splitWords_of_isPlain plainWord]
      | cons other rest =>
          obtain ⟨nonempty, inWord⟩ := isPlain_iff.mp plainWord
          rw [List.intercalate_cons_cons, List.append_assoc, splitWords_append inWord,
            List.nil_append, List.singleton_append, splitWords_underscore,
            closeWord_of_ne_nil nonempty,
            ih fun word member => plain word (List.mem_cons_of_mem _ member),
            List.singleton_append]

/-! ## Capitalized words -/

/-- A word of at least two characters: a lower-case ASCII letter, then such letters and ASCII
digits. -/
def isRegular : List Char → Bool
  | first :: second :: rest => isAsciiLower first && (second :: rest).all isWordChar
  | _ => false

/-- The word with its first character in upper case. -/
def capitalized : List Char → List Char
  | [] => []
  | c :: rest => upperChar c ++ rest

theorem toList_capitalize (word : String) :
    (capitalize word).toList = capitalized word.toList := by
  rw [capitalize]
  cases word.toList with
  | nil => rfl
  | cons c rest => rw [String.toList_ofList, capitalized]

theorem exists_of_isRegular {word : List Char} (regular : isRegular word) :
    ∃ first second rest, word = first :: second :: rest ∧ isAsciiLower first = true ∧
      ∀ c ∈ second :: rest, isWordChar c = true := by
  match word, regular with
  | first :: second :: rest, regular =>
    simp only [isRegular, Bool.and_eq_true, List.all_eq_true] at regular
    exact ⟨first, second, rest, rfl, regular.1, regular.2⟩

theorem isPlain_of_isRegular {word : List Char} (regular : isRegular word) :
    isPlain word = true := by
  obtain ⟨first, second, rest, rfl, letter, inWord⟩ := exists_of_isRegular regular
  have plain : ∀ c ∈ first :: second :: rest, isWordChar c :=
    List.forall_mem_cons.mpr ⟨by rw [isWordChar, letter, Bool.true_or], inWord⟩
  exact isPlain_iff.mpr ⟨List.cons_ne_nil _ _, plain⟩

/-- A text that is split into given words, and that starts the first of them behind a character of
a word as well. -/
structure StartsAnew (text : List Char) (list : List (List Char)) : Prop where
  alone : splitWords ' ' [] text = list
  behind : ∀ before word, isWordChar before → word ≠ [] →
    splitWords before word text = word :: list

/-- A text that starts its first word behind a capital, too. -/
structure StartsAnywhere (text : List Char) (list : List (List Char)) : Prop
    extends StartsAnew text list where
  behindCapital : ∀ before word, isAsciiUpper before → word ≠ [] →
    splitWords before word text = word :: list
  noLowercase : text.head?.any isLowercase = false

section Capital

variable {first capital : Char} (isCapital : IsCapitalOf first capital)
include isCapital

/-- A capital starts a word where none is begun, and behind a character that it may follow. -/
theorem splitWords_capital (before : Char) (word rest : List Char)
    (starts : word = [] ∨ startsWord before rest.head? = true) :
    splitWords before word (capital :: rest) =
      closeWord word ++ splitWords capital [first] rest := by
  rw [splitWords, isCapital.isAlphanumeric, isCapital.isUppercase, isCapital.lower]
  rcases starts with rfl | starts
  · rfl
  · rw [starts]
    cases word <;> rfl

theorem splitWords_capital_within (before : Char) (word rest : List Char)
    (within : startsWord before rest.head? = false) :
    splitWords before word (capital :: rest) = splitWords capital (word ++ [first]) rest := by
  rw [splitWords, isCapital.isAlphanumeric, isCapital.isUppercase, isCapital.lower, within,
    Bool.and_false]
  rfl

end Capital

theorem isWordChar_getLastD {word : List Char} (nonempty : word ≠ [])
    (inWord : ∀ c ∈ word, isWordChar c) (before : Char) :
    isWordChar (word.getLastD before) = true := by
  rw [List.getLastD_eq_getLast?, List.getLast?_eq_some_getLast nonempty]
  exact inWord _ (List.getLast_mem nonempty)

/-- A regular word that is capitalized closes the word before it, and is begun then. -/
theorem splitWords_capitalized {word : List Char} (regular : isRegular word) (before : Char)
    (begun rest : List Char) (starts : begun = [] ∨ isWordChar before) :
    ∃ last, isWordChar last = true ∧
      splitWords before begun (capitalized word ++ rest) =
        closeWord begun ++ splitWords last word rest := by
  obtain ⟨first, second, tail, rfl, letter, inWord⟩ := exists_of_isRegular regular
  obtain ⟨capital, isCapital⟩ := exists_isCapitalOf letter
  refine ⟨(second :: tail).getLastD capital,
    isWordChar_getLastD (List.cons_ne_nil _ _) inWord capital, ?_⟩
  rw [capitalized, isCapital.upper, List.append_assoc, List.singleton_append,
    splitWords_capital isCapital _ _ _
      (starts.imp_right fun inWord => startsWord_of_isWordChar inWord _),
    splitWords_append inWord, List.singleton_append]

theorem StartsAnew.capitalized_append {word : List Char} (regular : isRegular word)
    {text : List Char} {list : List (List Char)} (anew : StartsAnew text list) :
    StartsAnew (capitalized word ++ text) (word :: list) := by
  have nonempty : word ≠ [] := by
    rintro rfl
    cases regular
  constructor
  · obtain ⟨last, ends, split⟩ := splitWords_capitalized regular ' ' [] text (.inl rfl)
    rw [split, anew.behind last word ends nonempty]
    rfl
  · intro before begun ends begins
    obtain ⟨last, lastEnds, split⟩ :=
      splitWords_capitalized regular before begun text (.inr ends)
    rw [split, anew.behind last word lastEnds nonempty, closeWord_of_ne_nil begins,
      List.singleton_append]

theorem startsAnywhere_nil : StartsAnywhere [] [] where
  alone := rfl
  behind _ _ _ begun := closeWord_of_ne_nil begun
  behindCapital _ _ _ begun := closeWord_of_ne_nil begun
  noLowercase := rfl

/-- A capital with a lower-case letter behind it starts a word anywhere. -/
theorem startsAnywhere_capitalized {first second : Char} {rest : List Char}
    (letter : isAsciiLower first) (next : isAsciiLower second) (inWord : ∀ c ∈ rest, isWordChar c) :
    StartsAnywhere (capitalized (first :: second :: rest)) [first :: second :: rest] := by
  obtain ⟨capital, isCapital⟩ := exists_isCapitalOf letter
  have goesOn : ∀ c ∈ second :: rest, isWordChar c :=
    List.forall_mem_cons.mpr ⟨by rw [isWordChar, next, Bool.true_or], inWord⟩
  have regular : isRegular (first :: second :: rest) := by
    simpa [isRegular, letter] using goesOn
  have anew := startsAnywhere_nil.capitalized_append regular
  rw [List.append_nil] at anew
  refine ⟨anew, fun before begun upper begins => ?_, ?_⟩
  · have starts : startsWord before (second :: rest).head? = true := by
      rw [startsWord_of_isAsciiUpper upper]
      exact isLowercase_of_isAsciiLower next
    rw [capitalized, isCapital.upper, List.singleton_append,
      splitWords_capital isCapital _ _ _ (.inr starts), splitWords_of_inWord goesOn,
      closeWord_of_ne_nil begins]
    rfl
  · rw [capitalized, isCapital.upper]
    exact isCapital.isLowercase

/-- Regular words that are capitalized and run together are found again, whatever words the text
behind them has. -/
theorem StartsAnew.flatMap_capitalized {words : List (List Char)}
    (regular : ∀ word ∈ words, isRegular word) {text : List Char} {list : List (List Char)}
    (anew : StartsAnew text list) :
    StartsAnew (words.flatMap capitalized ++ text) (words ++ list) := by
  induction words with
  | nil => exact anew
  | cons word rest ih =>
      rw [List.flatMap_cons, List.append_assoc, List.cons_append]
      exact (ih fun other member => regular other (List.mem_cons_of_mem _ member)).capitalized_append
        (regular word List.mem_cons_self)

/-! ## Words in capitals -/

/-- Letters in upper case go to one word, as long as no lower-case letter follows. -/
theorem splitWords_capitals {letters : List Char} (lower : ∀ c ∈ letters, isAsciiLower c)
    {rest : List Char} (noLowercase : rest.head?.any isLowercase = false) {before : Char}
    (capital : isAsciiUpper before) (word : List Char) :
    ∃ last, isAsciiUpper last = true ∧
      splitWords before word (letters.flatMap upperChar ++ rest) =
        splitWords last (word ++ letters) rest := by
  induction letters generalizing before word with
  | nil => exact ⟨before, capital, by rw [List.flatMap_nil, List.nil_append, List.append_nil]⟩
  | cons letter letters ih =>
      obtain ⟨next, isCapital⟩ := exists_isCapitalOf (lower letter List.mem_cons_self)
      have restLower : ∀ c ∈ letters, isAsciiLower c := fun c member =>
        lower c (List.mem_cons_of_mem _ member)
      have within : startsWord before (letters.flatMap upperChar ++ rest).head? = false := by
        rw [startsWord_of_isAsciiUpper capital]
        cases letters with
        | nil => exact noLowercase
        | cons second letters =>
            obtain ⟨_, secondCapital⟩ :=
              exists_isCapitalOf (restLower second List.mem_cons_self)
            rw [List.flatMap_cons, secondCapital.upper]
            exact secondCapital.isLowercase
      obtain ⟨last, lastUpper, split⟩ := ih restLower isCapital.isAsciiUpper (word ++ [letter])
      refine ⟨last, lastUpper, ?_⟩
      rw [List.flatMap_cons, isCapital.upper, List.append_assoc, List.singleton_append,
        splitWords_capital_within isCapital _ _ _ within, split,
        List.append_assoc, List.singleton_append]

section Digits

variable {digits : List Char} (numbers : ∀ c ∈ digits, isAsciiDigit c)
include numbers

theorem flatMap_upperChar_digits : digits.flatMap upperChar = digits := by
  induction digits with
  | nil => rfl
  | cons digit digits ih =>
      rw [List.flatMap_cons, (digit_stays (numbers digit List.mem_cons_self)).1,
        ih fun c member => numbers c (List.mem_cons_of_mem _ member), List.singleton_append]

variable {text : List Char} {list : List (List Char)} (anywhere : StartsAnywhere text list)
include anywhere

theorem StartsAnywhere.noLowercase_digits : (digits ++ text).head?.any isLowercase = false := by
  cases digits with
  | nil => exact anywhere.noLowercase
  | cons digit digits => exact (digit_stays (numbers digit List.mem_cons_self)).2

/-- Digits end the word that a run of capitals has begun. -/
theorem StartsAnywhere.behind_digits {before : Char} (capital : isAsciiUpper before)
    {word : List Char} (begun : word ≠ []) :
    splitWords before word (digits ++ text) = (word ++ digits) :: list := by
  have inWord : ∀ c ∈ digits, isWordChar c := fun c member =>
    isWordChar_of_isAsciiDigit (numbers c member)
  rw [splitWords_append inWord]
  cases digits with
  | nil =>
      rw [List.append_nil]
      exact anywhere.behindCapital before word capital begun
  | cons digit digits =>
      exact anywhere.behind _ _ (isWordChar_getLastD (List.cons_ne_nil _ _) inWord before)
        (List.append_ne_nil_of_left_ne_nil begun _)

end Digits

/-- A word of ASCII letters with ASCII digits behind them is found again when it is all in upper
case and the text behind it starts a word anywhere. -/
theorem StartsAnywhere.upper_append {first : Char} {letters digits : List Char}
    (lower : ∀ c ∈ first :: letters, isAsciiLower c) (numbers : ∀ c ∈ digits, isAsciiDigit c)
    {text : List Char} {list : List (List Char)} (anywhere : StartsAnywhere text list) :
    StartsAnew ((first :: letters ++ digits).flatMap upperChar ++ text)
      ((first :: letters ++ digits) :: list) := by
  obtain ⟨capital, isCapital⟩ := exists_isCapitalOf (lower first List.mem_cons_self)
  have split : ∀ before begun, begun = [] ∨ isWordChar before →
      splitWords before begun ((first :: letters ++ digits).flatMap upperChar ++ text) =
        closeWord begun ++ (first :: letters ++ digits) :: list := by
    intro before begun starts
    obtain ⟨last, lastUpper, run⟩ := splitWords_capitals
      (fun c member => lower c (List.mem_cons_of_mem _ member))
      (anywhere.noLowercase_digits numbers) isCapital.isAsciiUpper [first]
    rw [List.flatMap_append, List.flatMap_cons, isCapital.upper, flatMap_upperChar_digits numbers,
      List.append_assoc, List.append_assoc, List.singleton_append,
      splitWords_capital isCapital _ _ _
        (starts.imp_right fun inWord => startsWord_of_isWordChar inWord _), run,
      List.singleton_append, anywhere.behind_digits numbers lastUpper (List.cons_ne_nil _ _)]
  refine ⟨split ' ' [] (.inl rfl), fun before begun ends begins => ?_⟩
  rw [split before begun (.inr ends), closeWord_of_ne_nil begins, List.singleton_append]

end RpcSchema.Naming
