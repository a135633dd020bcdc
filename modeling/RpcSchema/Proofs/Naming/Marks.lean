import Mathlib
import RpcSchema.Proofs.Naming.Conventions

/-!
# Marks of reserved words

What marks a reserved word ends with a character that is no part of a word, and that no letter turns
into by a change of case. So no identifier has it before it is marked, and a marked identifier is
like no other.
-/

namespace RpcSchema.Text

/-- An ASCII character that is neither letter nor digit. -/
def isSeparator (c : Char) : Bool := 0 < c.toNat && c.toNat < 128 && !isAlphanumeric c

/-- A code point outside ASCII, or of a letter or digit. -/
def isApart (code : Nat) : Bool := 128 ≤ code || isAlphanumeric (Char.ofNat code)

/-- The images of a run are such code points: all from the first on, or the only one. -/
def CaseRun.isApart (entry : CaseRun) : Bool :=
  128 ≤ (entry.run.first : Int) + entry.shift ||
    (entry.run.first == entry.run.last &&
      isAlphanumeric (Char.ofNat ((entry.run.first : Int) + entry.shift).toNat))

/-- The images of a run are outside ASCII, or there is one only, and it is as it should be. -/
def CaseRun.keeps (holds : Nat → Bool) (entry : CaseRun) : Bool :=
  128 ≤ (entry.run.first : Int) + entry.shift ||
    (entry.run.first == entry.run.last && holds ((entry.run.first : Int) + entry.shift).toNat)

/-- What holds outside ASCII and of the images of all runs holds of every image. -/
theorem holds_shiftCode {holds : Nat → Bool} (outside : ∀ code, 128 ≤ code → holds code)
    {runs : Array CaseRun} (keeps : ∀ entry ∈ runs.toList, entry.keeps holds) {code : Nat}
    (beyond : 128 ≤ code) : holds (shiftCode runs code) := by
  rw [shiftCode]
  split
  · next entry found =>
    have inRun := Array.find?_some found
    have images := keeps entry (Array.mem_toList_iff.mpr (Array.mem_of_find?_eq_some found))
    simp only [CodeRun.holds, Bool.and_eq_true, decide_eq_true_eq] at inRun
    simp only [CaseRun.keeps, Bool.or_eq_true, Bool.and_eq_true, decide_eq_true_eq,
      beq_iff_eq] at images
    rcases images with beyondFirst | ⟨single, image⟩
    · exact outside _ (by omega)
    · obtain rfl : code = entry.run.first := by omega
      exact image
  · exact outside code beyond

theorem isApart_shiftCode {runs : Array CaseRun} (apart : ∀ entry ∈ runs.toList, entry.isApart)
    {code : Nat} (beyond : 128 ≤ code) : isApart (shiftCode runs code) := by
  refine holds_shiftCode (fun code outside => by simp [isApart, outside]) ?_ beyond
  intro entry listed
  have images := apart entry listed
  simp only [CaseRun.isApart, CaseRun.keeps, isApart, Bool.or_eq_true, Bool.and_eq_true] at images ⊢
  exact images.imp_right (And.imp_right .inr)

theorem isApart_lowerShifts : ∀ entry ∈ lowerShifts.toList, entry.isApart := by
  decide +kernel

theorem isApart_upperShifts : ∀ entry ∈ upperShifts.toList, entry.isApart := by
  decide +kernel

theorem isApart_upperExpansions :
    ∀ entry ∈ upperExpansions.toList, ∀ code ∈ entry.2, isApart code := by
  decide +kernel

end RpcSchema.Text

namespace RpcSchema.Naming

open Text

/-! ## Parts with separators between them -/

section Separator

variable {α : Type} {separator : α}

theorem not_mem_intercalate {item : α} (other : item ≠ separator)
    {list : List (List α)} (absent : ∀ part ∈ list, item ∉ part) :
    item ∉ [separator].intercalate list := by
  induction list with
  | nil => exact List.not_mem_nil
  | cons part rest ih =>
      obtain ⟨absentHere, absentLater⟩ := List.forall_mem_cons.mp absent
      cases rest with
      | nil => rwa [List.intercalate_singleton]
      | cons next rest =>
          rw [List.intercalate_cons_cons, List.mem_append, List.mem_append, List.mem_singleton]
          rintro ((inPart | isSeparator) | inRest)
          · exact absentHere inPart
          · exact other isSeparator
          · exact ih absentLater inRest

/-- Parts that are not empty and have no separator are told by what they are with separators between
them. -/
theorem intercalate_inj [BEq α] [LawfulBEq α] {list other : List (List α)}
    (apart : ∀ part ∈ list, separator ∉ part ∧ part ≠ [])
    (otherApart : ∀ part ∈ other, separator ∉ part ∧ part ≠ [])
    (same : [separator].intercalate list = [separator].intercalate other) : list = other := by
  have found : ∀ {list : List (List α)}, (∀ part ∈ list, separator ∉ part ∧ part ≠ []) →
      list = (([separator].intercalate list).splitOn separator).filter (!·.isEmpty) := by
    intro list apart
    cases list with
    | nil => rfl -- The one empty part that is split off is left out.
    | cons part rest =>
        have whole : (part :: rest).filter (!·.isEmpty) = part :: rest :=
          List.filter_eq_self.mpr fun part member => by simpa using (apart part member).2
        rw [List.splitOn_intercalate separator (fun part member => (apart part member).1)
          (List.cons_ne_nil _ _), whole]
  rw [found apart, same, ← found otherApart]

end Separator

/-! ## Characters that no letter turns into -/

theorem isSeparator_of_mem_marks {mark : Char} (listed : mark ∈ marks) : isSeparator mark :=
  of_mem_marks (fun mark => isSeparator mark) (by decide) listed

section Separator

variable {separator c : Char} (separates : isSeparator separator)
include separates

theorem isAlphanumeric_of_isSeparator : isAlphanumeric separator = false := by
  simpa using (Bool.and_eq_true_iff.mp separates).2

theorem not_mem_of_all_alphanumeric {text : List Char} (inWords : text.all isAlphanumeric) :
    separator ∉ text := by
  intro member
  have inWord := List.all_eq_true.mp inWords separator member
  rw [isAlphanumeric_of_isSeparator separates] at inWord
  cases inWord

theorem ofNat_ne {code : Nat} (apart : isApart code) : separator ≠ Char.ofNat code := by
  have between := isAlphanumeric_of_isSeparator separates
  simp only [isSeparator, Bool.and_eq_true, decide_eq_true_eq] at separates
  obtain ⟨⟨positive, ascii⟩, -⟩ := separates
  rintro rfl
  rw [isApart, between, Bool.or_false, decide_eq_true_eq] at apart
  rw [Char.toNat_ofNat] at positive ascii
  split at ascii
  · omega
  · -- No other code point stands for a character, and the one in its place is zero.
    next invalid => exact absurd positive (by rw [if_neg invalid]; decide)

/-- Only a separator is a separator in lower case. -/
theorem not_mem_lowerChar (other : c ≠ separator) : separator ∉ lowerChar c := by
  by_cases ascii : c.val < 0x80
  · rw [lowerChar, if_pos ascii, List.mem_singleton]
    split
    · next upper =>
      exact ofNat_ne separates (of_ascii (fun c => isAsciiUpper c → isApart (c.toNat + 32))
        (by decide) ascii upper)
    · exact other.symm
  · rw [lowerChar, if_neg ascii]
    split
    · rw [List.mem_cons, List.mem_singleton, not_or]
      exact ⟨ofNat_ne separates (by decide : isApart 0x69),
        ofNat_ne separates (by decide : isApart 0x307)⟩
    · exact List.mem_singleton.not.mpr (ofNat_ne separates
        (isApart_shiftCode isApart_lowerShifts (Nat.le_of_not_lt ascii)))

/-- Only a separator is a separator in upper case. -/
theorem not_mem_upperChar (other : c ≠ separator) : separator ∉ upperChar c := by
  by_cases ascii : c.val < 0x80
  · rw [upperChar, if_pos ascii, List.mem_singleton]
    split
    · next lower =>
      exact ofNat_ne separates (of_ascii (fun c => isAsciiLower c → isApart (c.toNat - 32))
        (by decide) ascii lower)
    · exact other.symm
  · rw [upperChar, if_neg ascii]
    split
    · next entry found =>
      rw [List.mem_map]
      rintro ⟨code, member, same⟩
      exact ofNat_ne separates (isApart_upperExpansions entry (Array.mem_toList_iff.mpr
        (Array.mem_of_find?_eq_some found)) code member) same.symm
    · exact List.mem_singleton.not.mpr (ofNat_ne separates
        (isApart_shiftCode isApart_upperShifts (Nat.le_of_not_lt ascii)))

theorem not_mem_upperText {text : String} (absent : separator ∉ text.toList) :
    separator ∉ (upperText text).toList := by
  rw [upperText, String.toList_ofList, List.mem_flatMap]
  rintro ⟨c, member, isUpper⟩
  exact not_mem_upperChar separates (fun same => absent (same ▸ member)) isUpper

/-! ## Identifiers have no separators of their own -/

theorem not_mem_splitWords {text begun : List Char} {before : Char} (absent : separator ∉ begun) :
    ∀ word ∈ splitWords before begun text, word ≠ [] ∧ separator ∉ word := by
  have others : ∀ c ∈ text, isAlphanumeric c = true → ∀ lower ∈ lowerChar c, separator ≠ lower := by
    rintro c _ alphanumeric lower member rfl
    refine not_mem_lowerChar separates ?_ member
    rintro rfl
    rw [isAlphanumeric_of_isSeparator separates] at alphanumeric
    cases alphanumeric
  have ofBegun : ∀ c ∈ begun, separator ≠ c := fun c member same => absent (same ▸ member)
  intro word member
  obtain ⟨nonempty, apart⟩ := forall_mem_splitWords ofBegun others before word member
  exact ⟨nonempty, fun inWord => apart separator inWord rfl⟩

theorem not_mem_of_mem_words {name word : String} (member : word ∈ words name) :
    separator ∉ word.toList := by
  obtain ⟨characters, split, rfl⟩ := List.mem_map.mp member
  rw [String.toList_ofList]
  exact (not_mem_splitWords separates List.not_mem_nil characters split).2

theorem not_mem_join_capitalize {list : List String} (absent : ∀ word ∈ list, separator ∉ word.toList) :
    separator ∉ (String.join (list.map capitalize)).toList := by
  rw [toList_join_capitalize, List.mem_flatMap]
  rintro ⟨characters, member, inWord⟩
  obtain ⟨word, isWord, rfl⟩ := List.mem_map.mp member
  have absentHere := absent word isWord
  cases spelled : word.toList with
  | nil => simp [spelled, capitalized] at inWord
  | cons c rest =>
      rw [spelled, List.mem_cons, not_or] at absentHere
      rw [spelled, capitalized, List.mem_append] at inWord
      exact inWord.elim (not_mem_upperChar separates (Ne.symm absentHere.1)) absentHere.2

theorem Acronyms.not_mem_upcaseEnding {acronyms : Acronyms} {text : String}
    (absent : separator ∉ text.toList) : separator ∉ (acronyms.upcaseEnding text).toList := by
  rcases acronyms.upcaseEnding_cases text with same | ⟨entry, -, front, rfl, written⟩
  · rwa [same]
  · rw [String.toList_append, List.mem_append, not_or] at absent
    rw [written, String.toList_append, List.mem_append, not_or]
    exact ⟨absent.1, not_mem_upperText separates absent.2⟩

theorem not_mem_exportedName (acronyms : Acronyms) (name : String) :
    separator ∉ (acronyms.exportedName name).toList :=
  Acronyms.not_mem_upcaseEnding separates
    (not_mem_join_capitalize separates fun _ member => not_mem_of_mem_words separates member)

theorem not_mem_memberName (acronyms : Acronyms) (name : String) :
    separator ∉ (acronyms.memberName name).toList := by
  rw [Acronyms.memberName]
  split
  · exact List.not_mem_nil
  · next word spelled =>
    exact not_mem_of_mem_words separates (spelled.symm ▸ List.mem_cons_self : word ∈ words name)
  · next first rest _ spelled =>
    rw [String.toList_append, List.mem_append, not_or]
    have absent : ∀ word ∈ first :: rest, separator ∉ word.toList := fun word member =>
      not_mem_of_mem_words separates (spelled ▸ member)
    exact ⟨absent first List.mem_cons_self, Acronyms.not_mem_upcaseEnding separates
      (not_mem_join_capitalize separates fun word member =>
        absent word (List.mem_cons_of_mem _ member))⟩

theorem not_mem_snakeCase (other : separator ≠ '_') (name : String) :
    separator ∉ (snakeCase name).toList := by
  rw [snakeCase, String.toList_intercalate]
  refine not_mem_intercalate other fun characters member => ?_
  obtain ⟨word, isWord, rfl⟩ := List.mem_map.mp member
  exact not_mem_of_mem_words separates isWord

end Separator

theorem ne_empty_of_mem_words {name word : String} (member : word ∈ words name) : word ≠ "" := by
  obtain ⟨characters, split, rfl⟩ := List.mem_map.mp member
  have nonempty :=
    (not_mem_splitWords (by decide : isSeparator '_') List.not_mem_nil characters split).1
  simpa using nonempty

/-- Words are told by the name that has underscores between them. -/
theorem words_eq_of_snakeCase_eq {name other : String} (same : snakeCase name = snakeCase other) :
    words name = words other := by
  have spelled := congrArg String.toList same
  rw [snakeCase, snakeCase, String.toList_intercalate, String.toList_intercalate] at spelled
  have apart : ∀ name, ∀ word ∈ (words name).map String.toList, '_' ∉ word ∧ word ≠ [] := by
    intro name characters member
    obtain ⟨word, isWord, rfl⟩ := List.mem_map.mp member
    exact ⟨not_mem_of_mem_words (by decide) isWord,
      fun empty => ne_empty_of_mem_words isWord (String.toList_eq_nil_iff.mp empty)⟩
  have found := intercalate_inj (apart name) (apart other) spelled
  exact (List.map_inj_right fun _ _ => String.toList_inj.mp).mp found

/-! ## Marked identifiers -/

/-- An identifier stands for a name: it is the name, or the name with its mark. -/
def Escape.Writes (escape : Escape) (name identifier : String) : Prop :=
  identifier = name ∨ identifier = escape.apply name

theorem Convention.writes_safeName (convention : Convention) (name : String) :
    convention.escape.Writes name (convention.safeName name) := by
  rw [safeName]
  split
  · exact .inr rfl
  · exact .inl rfl

/-- An identifier stands for one name at most, where the mark ends with a character that names do
not have. -/
theorem Escape.Writes.unique {escape : Escape} {front : String} {separator : Char}
    (isBefore : escape = .before (front.push separator)) {name other identifier : String}
    (writes : escape.Writes name identifier) (writesOther : escape.Writes other identifier)
    (absent : separator ∉ name.toList) (absentOther : separator ∉ other.toList) : name = other := by
  subst isBefore
  have marked : ∀ name, separator ∈ (front.push separator ++ name).toList := by
    intro name
    simp
  rcases writes with rfl | rfl <;> rcases writesOther with same | same
  · exact same
  · exact absurd (same ▸ marked other) absent
  · exact absurd (same ▸ marked name) absentOther
  · exact (String.append_right_inj _).mp same

namespace Convention

section Marked

variable {convention : Convention}

/-- Marking tells names apart that do not have the character which the mark ends with. -/
theorem safeName_eq_iff {front : String} {separator : Char}
    (isBefore : convention.escape = .before (front.push separator)) {name other : String}
    (absent : separator ∉ name.toList) (absentOther : separator ∉ other.toList) :
    convention.safeName name = convention.safeName other ↔ name = other := by
  constructor
  · intro same
    exact (convention.writes_safeName name).unique isBefore
      (same ▸ convention.writes_safeName other) absent absentOther
  · exact congrArg convention.safeName

/-- Where no reserved word starts with the mark, what is marked is no reserved word. -/
theorem isReserved_safeName {mark : String} (isBefore : convention.escape = .before mark)
    (unmarked : ∀ word ∈ convention.reserved, ¬ mark.toList <+: word.toList)
    (identifier : String) : convention.isReserved (convention.safeName identifier) = false := by
  unfold safeName
  split
  · rw [isBefore, Bool.eq_false_iff]
    intro listed
    refine unmarked _ (List.contains_iff_mem.mp listed) ?_
    rw [Escape.apply, String.toList_append]
    exact List.prefix_append _ _
  · next free => exact Bool.eq_false_iff.mpr free

end Marked

/-! ## Identifiers of a language -/

/-- A field that is no key is an identifier like others. -/
theorem fieldName_of_ne_wire {convention : Convention} (noKey : convention.fieldCase ≠ .wire)
    (name : String) :
    convention.fieldName name =
      convention.safeName (convention.cased convention.fieldCase name) := by
  rw [fieldName]
  split
  · next isKey => exact absurd isKey noKey
  · rfl

variable {convention : Convention} (listed : convention ∈ languages)
include listed

theorem typeCase_eq : convention.typeCase = .exported := by
  simp only [languages, List.mem_cons, List.not_mem_nil, or_false] at listed
  rcases listed with rfl | rfl | rfl | rfl <;> rfl

variable {separator : Char} (separates : isSeparator separator)
include separates

omit listed in
/-- A name in a case has no separators but the underscores of snake case. -/
theorem not_mem_cased_of_snake {case : NameCase} (noKey : case ≠ .wire)
    (other : case = .snake → separator ≠ '_') (name : String) :
    separator ∉ (convention.cased case name).toList := by
  cases case with
  | exported => exact not_mem_exportedName separates _ name
  | member => exact not_mem_memberName separates _ name
  | snake => exact not_mem_snakeCase separates (other rfl) name
  | wire => exact absurd rfl noKey

variable (unmarked : separator ∉ marks)
include unmarked

/-- Reserved words are marked with letters and marks. -/
theorem not_mem_safeName {name : String} (absent : separator ∉ name.toList) :
    separator ∉ (convention.safeName name).toList := by
  have marked : ∃ mark : String, convention.escape = .before mark ∧
      mark.toList.all fun c => marks.contains c || isAlphanumeric c := by
    simp only [languages, List.mem_cons, List.not_mem_nil, or_false] at listed
    rcases listed with rfl | rfl | rfl | rfl
    · exact ⟨"_", rfl, by decide⟩
    · exact ⟨"_", rfl, by decide⟩
    · exact ⟨"r#", rfl, by decide⟩
    · exact ⟨"@", rfl, by decide⟩
  obtain ⟨mark, isBefore, plain⟩ := marked
  rw [safeName]
  split
  · rw [isBefore, Escape.apply, String.toList_append, List.mem_append, not_or]
    refine ⟨fun member => unmarked ?_, absent⟩
    have known := List.all_eq_true.mp plain separator member
    rwa [isAlphanumeric_of_isSeparator separates, Bool.or_false, List.contains_iff_mem] at known
  · exact absent

omit listed in
theorem not_mem_cased {case : NameCase} (noKey : case ≠ .wire) (name : String) :
    separator ∉ (convention.cased case name).toList :=
  not_mem_cased_of_snake separates noKey (fun _ same => unmarked (same ▸ by decide)) name

theorem not_mem_typeName (name : String) : separator ∉ (convention.typeName name).toList :=
  not_mem_safeName listed separates unmarked
    (not_mem_cased separates unmarked (typeCase_eq listed ▸ by decide) name)

theorem not_mem_fieldName (noKey : convention.fieldCase ≠ .wire) (name : String) :
    separator ∉ (convention.fieldName name).toList := by
  rw [fieldName_of_ne_wire noKey]
  exact not_mem_safeName listed separates unmarked (not_mem_cased separates unmarked noKey name)

theorem not_mem_inputType (method : String) : separator ∉ (convention.inputType method).toList := by
  rw [inputType, String.toList_append, List.mem_append, not_or]
  exact ⟨not_mem_cased separates unmarked (typeCase_eq listed ▸ by decide) method,
    not_mem_of_all_alphanumeric separates (by decide)⟩

theorem not_mem_outputType (method : String) :
    separator ∉ (convention.outputType method).toList := by
  rw [outputType, String.toList_append, List.mem_append, not_or]
  exact ⟨not_mem_cased separates unmarked (typeCase_eq listed ▸ by decide) method,
    not_mem_of_all_alphanumeric separates (by decide)⟩

end Convention

end RpcSchema.Naming
