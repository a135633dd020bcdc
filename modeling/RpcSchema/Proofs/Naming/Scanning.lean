import RpcSchema.Proofs.Naming.FirstWords
import RpcSchema.Proofs.Naming.Marks

/-!
# Scanning a name

The words of a name can be found by going over its places, with the words that are closed and the
word that is begun. A capital asks for the character before it, and there is none before the first
place. Such a scan never asks there, since no word is begun yet. Up to any place it has kept the
letters and digits it has passed, in lower case and in their order, and it has still to find the
words of the rest.

So the words of a name hold its letters and digits and nothing else. Those of an ASCII name are
plain, and are found again between underscores.
-/

namespace RpcSchema.Naming

open Text

/-- The letters and digits of a text, in lower case. -/
def loweredLetters (text : List Char) : List Char :=
  (text.filter isAlphanumeric).flatMap lowerChar

/-- The words closed so far, and the word that is begun. -/
structure Scan where
  closed : List (List Char) := []
  begun : List Char := []

namespace Scan

/-- The words found when the name ends. -/
def words (scan : Scan) : List (List Char) := scan.closed ++ closeWord scan.begun

/-- The character before a place of a name. -/
def before? (name : List Char) : Nat → Option Char
  | 0 => none
  | place + 1 => name[place]?

/-- Whether the word that is begun ends in front of a character. Only a capital behind such a word
asks for the character before it, and it fails where there is none. -/
def endsWord? (name : List Char) (scan : Scan) (place : Nat) (c : Char) : Option Bool :=
  if isUppercase c && !scan.begun.isEmpty then
    (before? name place).map fun before => startsWord before name[place + 1]?
  else some false

/-- What a scan has found behind a place of a name, if it does not fail there. -/
def step? (name : List Char) (scan : Scan) (place : Nat) : Option Scan := do
  let c ← name[place]?
  if isAlphanumeric c then
    if ← scan.endsWord? name place c then return ⟨scan.closed ++ [scan.begun], lowerChar c⟩
    else return ⟨scan.closed, scan.begun ++ lowerChar c⟩
  else return ⟨scan.words, []⟩

/-- Scans a name up to a place. -/
def upTo? (name : List Char) (place : Nat) : Option Scan :=
  (List.range place).foldlM (step? name) {}

/-- A scan that has come to a place of a name: it has kept what it has passed, and the words of the
rest are those that it has still to find. -/
structure Reaches (name : List Char) (place : Nat) (scan : Scan) : Prop where
  kept : scan.closed.flatten ++ scan.begun = loweredLetters (name.take place)
  splits : scan.closed ++
      splitWords ((before? name place).getD ' ') scan.begun (name.drop place) =
    splitWords ' ' [] name

theorem flatten_closeWord (word : List Char) : (closeWord word).flatten = word := by
  rw [closeWord]
  split
  · next empty => exact (List.isEmpty_iff.mp empty).symm
  · exact List.flatten_singleton

theorem flatten_words (scan : Scan) : scan.words.flatten = scan.closed.flatten ++ scan.begun := by
  rw [words, List.flatten_append, flatten_closeWord]

theorem reaches_start (name : List Char) : Reaches name 0 {} := ⟨rfl, rfl⟩

section Step

variable {name : List Char} {place : Nat} {c : Char} (here : name[place]? = some c)
include here

theorem take_of_getElem? : name.take (place + 1) = name.take place ++ [c] := by
  rw [List.take_add_one, here, Option.toList_some]

theorem drop_of_getElem? : name.drop place = c :: name.drop (place + 1) := by
  obtain ⟨inside, rfl⟩ := List.getElem?_eq_some_iff.mp here
  exact List.drop_eq_getElem_cons inside

theorem loweredLetters_take :
    loweredLetters (name.take (place + 1)) =
      loweredLetters (name.take place) ++ if isAlphanumeric c then lowerChar c else [] := by
  rw [take_of_getElem? here, loweredLetters, List.filter_append, List.flatMap_append]
  cases inWord : isAlphanumeric c <;> simp [loweredLetters, inWord]

/-- Where a word is begun, something has been passed, so a scan never asks in front of the name. -/
theorem Reaches.endsWord?_eq {scan : Scan} (reaches : Reaches name place scan) :
    scan.endsWord? name place c = some (isUppercase c && !scan.begun.isEmpty &&
      startsWord ((before? name place).getD ' ') name[place + 1]?) := by
  rw [endsWord?]
  split
  · next asks =>
    have begun : scan.begun ≠ [] := by simpa using (Bool.and_eq_true_iff.mp asks).2
    obtain ⟨before, found⟩ : ∃ before, before? name place = some before := by
      cases place with
      | zero => exact absurd (List.append_eq_nil_iff.mp reaches.kept).2 begun
      | succ place =>
          obtain ⟨inside, -⟩ := List.getElem?_eq_some_iff.mp here
          exact ⟨_, List.getElem?_eq_getElem (Nat.lt_of_succ_lt inside)⟩
    rw [asks, found, Bool.true_and]
    rfl
  · next other => rw [Bool.eq_false_iff.mpr other, Bool.false_and]

/-- A step does not fail, and it reaches the next place. -/
theorem Reaches.exists_step {scan : Scan} (reaches : Reaches name place scan) :
    ∃ next, scan.step? name place = some next ∧ Reaches name (place + 1) next := by
  have asked := reaches.endsWord?_eq here
  obtain ⟨kept, splits⟩ := reaches
  have passed := loweredLetters_take here
  have behind : (before? name (place + 1)).getD ' ' = c := congrArg (·.getD ' ') here
  rw [drop_of_getElem? here, splitWords, List.head?_drop] at splits
  cases inWord : isAlphanumeric c with
  | false =>
      rw [inWord] at splits passed
      refine ⟨⟨scan.words, []⟩, by simp [step?, here, inWord], ?_, ?_⟩
      · rw [passed, ← kept, List.append_nil, flatten_words]
        exact (List.append_nil _).symm
      · rw [behind, words, List.append_assoc]
        exact splits
  | true =>
      rw [inWord] at splits passed
      generalize (isUppercase c && !scan.begun.isEmpty &&
        startsWord ((before? name place).getD ' ') name[place + 1]?) = ends at asked splits
      cases ends with
      | false =>
          refine ⟨⟨scan.closed, scan.begun ++ lowerChar c⟩,
            by simp [step?, here, inWord, asked], ?_, ?_⟩
          · rw [passed, ← kept, List.append_assoc]
            rfl
          · rw [behind]
            exact splits
      | true =>
          refine ⟨⟨scan.closed ++ [scan.begun], lowerChar c⟩,
            by simp [step?, here, inWord, asked], ?_, ?_⟩
          · rw [passed, ← kept, List.flatten_append, List.flatten_singleton]
            rfl
          · rw [behind, List.append_assoc, List.singleton_append]
            exact splits

end Step

/-- A scan does not fail up to any place of a name. -/
theorem exists_upTo? (name : List Char) {place : Nat} (inside : place ≤ name.length) :
    ∃ scan, upTo? name place = some scan ∧ Reaches name place scan := by
  induction place with
  | zero => exact ⟨{}, rfl, reaches_start name⟩
  | succ place ih =>
      obtain ⟨scan, scanned, reaches⟩ := ih (Nat.le_of_succ_le inside)
      obtain ⟨next, steps, reachesNext⟩ := reaches.exists_step (List.getElem?_eq_getElem inside)
      refine ⟨next, ?_, reachesNext⟩
      rw [upTo?] at scanned ⊢
      rw [List.range_succ, List.foldlM_append, scanned]
      simpa using steps

/-- A scan of a whole name has its letters and digits, and finds its words. -/
theorem Reaches.words_eq {name : List Char} {scan : Scan}
    (reaches : Reaches name name.length scan) : scan.words = splitWords ' ' [] name := by
  rw [← reaches.splits, List.drop_length]
  rfl

end Scan

/-! ## Words and letters -/

/-- The words of a name have its letters and digits and no other character, in their order. -/
theorem flatten_splitWords (name : List Char) :
    (splitWords ' ' [] name).flatten = loweredLetters name := by
  obtain ⟨scan, -, reaches⟩ := Scan.exists_upTo? name (Nat.le_refl _)
  rw [← reaches.words_eq, scan.flatten_words, reaches.kept, List.take_length]

/-- The words of a name are what a scan of it finds, which never asks for a character in front of
the name. They have the letters and digits of the name in lower case and in their order and nothing
else, and none of them is empty. The words of an ASCII name are found again between underscores, so
that snake case and anchors stay as they are. -/
theorem words_scanned (name : String) :
    (∃ scan, Scan.upTo? name.toList name.toList.length = some scan ∧
      scan.words.map String.ofList = words name) ∧
    String.join (words name) = String.ofList (loweredLetters name.toList) ∧
    (∀ word ∈ words name, word ≠ "") ∧
    ((∀ c ∈ name.toList, c.toNat < 128) →
      words ("_".intercalate (words name)) = words name ∧
      snakeCase (snakeCase name) = snakeCase name ∧
      anchorName (anchorName name) = anchorName name) := by
  obtain ⟨scan, scanned, reaches⟩ := Scan.exists_upTo? name.toList (Nat.le_refl _)
  refine ⟨⟨scan, scanned, by rw [reaches.words_eq, words]⟩, ?_, fun word member => ?_,
    fun ascii => ?_⟩
  · rw [← String.toList_inj, String.toList_join, String.toList_ofList, ← flatten_splitWords,
      words, List.flatMap_map, List.flatMap_congr fun _ _ => String.toList_ofList,
      List.flatMap_id']
  · exact ne_empty_of_mem_words member
  · have again : words ("_".intercalate (words name)) = words name :=
      words_intercalate fun _ => isPlain_of_ascii ascii
    have snake : snakeCase (snakeCase name) = snakeCase name := congrArg "_".intercalate again
    exact ⟨again, snake, snake⟩

/-- A name with runs of capitals, digits and several marks in a row. -/
theorem words_scanned_endpoint :
    (∀ c ∈ "__HTTPServer--v2Id".toList, c.toNat < 128) ∧
      snakeCase "__HTTPServer--v2Id" = "http_server_v2_id" ∧
      words (snakeCase "__HTTPServer--v2Id") = words "__HTTPServer--v2Id" := by
  have ascii : ∀ c ∈ "__HTTPServer--v2Id".toList, c.toNat < 128 := fun c member =>
    of_decide_eq_true (List.all_eq_true.mp (by decide :
      ("__HTTPServer--v2Id".toList.all fun c => decide (c.toNat < 128)) = true) c member)
  exact ⟨ascii, by decide, ((words_scanned _).2.2.2 ascii).1⟩

end RpcSchema.Naming
