import RpcSchema.Generate.Model
import RpcSchema.Proofs.Naming.Marks

/-!
# Names that look alike

Names that differ may have one identifier. They do not as long as their words differ and are
regular. Of other words more is needed: that they differ when they are run together in capitals, as
an identifier does not tell where a word of one letter or with a digit in front ends.
-/

namespace RpcSchema.Naming

open Text

/-- The words of a name run together, all in capitals. -/
def runTogether (list : List String) : String := upperText (String.join (list.map capitalize))

/-- Two names may have one identifier, by their words: the words are the same, or they are not all
regular and the same when run together. -/
def Alike (list other : List String) : Prop :=
  list = other ∨
    (¬ ∀ word ∈ list ++ other, isRegular word.toList) ∧ runTogether list = runTogether other

instance (list other : List String) : Decidable (Alike list other) :=
  inferInstanceAs (Decidable (_ ∨ _))

theorem alike_iff_of_regular {list other : List String}
    (regular : ∀ word ∈ list ++ other, isRegular word.toList) : Alike list other ↔ list = other :=
  ⟨fun alike => alike.resolve_right fun irregular => irregular.1 regular, .inl⟩

/-! ## Identifiers in capitals -/

theorem upperText_append (text other : String) :
    upperText (text ++ other) = upperText text ++ upperText other := by
  simp [upperText, String.toList_append, List.flatMap_append, String.ofList_append]

theorem runTogether_append (list ending : List String) :
    runTogether (list ++ ending) =
      runTogether list ++ upperText (String.join (ending.map capitalize)) := by
  rw [runTogether, List.map_append, String.join_append, upperText_append, runTogether]

/-- An acronym in capitals stays as it is. -/
theorem upperText_upperText {entry : String} (acronym : isAcronym entry) :
    upperText (upperText entry) = upperText entry := by
  obtain ⟨capital, letters, digits, spelled, upper, lower, numbers⟩ := exists_of_isAcronym acronym
  have ascii : ∀ c ∈ entry.toList, c.toNat < 128 := by
    rw [spelled, List.forall_mem_cons, List.forall_mem_append]
    exact ⟨toNat_lt_of_isAsciiUpper upper,
      fun c member => toNat_lt_of_isAsciiLower (lower c member),
      fun c member => toNat_lt_of_isAsciiDigit (numbers c member)⟩
  have stays : ∀ c ∈ entry.toList, (upperChar c).flatMap upperChar = upperChar c := fun c member =>
    of_ascii (fun c => (upperChar c).flatMap upperChar = upperChar c) (by decide) (ascii c member)
  rw [upperText, upperText, String.toList_ofList, List.flatMap_assoc, List.flatMap_congr stays]

theorem Acronyms.upperText_upcaseEnding {acronyms : Acronyms} (table : acronyms.IsRegular)
    (text : String) : upperText (acronyms.upcaseEnding text) = upperText text := by
  rcases acronyms.upcaseEnding_cases text with same | ⟨entry, listed, front, rfl, written⟩
  · rw [same]
  · rw [written, upperText_append, upperText_upperText (table entry listed), ← upperText_append]

theorem upperText_exportedName {acronyms : Acronyms} (table : acronyms.IsRegular) (name : String) :
    upperText (acronyms.exportedName name) = runTogether (words name) :=
  Acronyms.upperText_upcaseEnding table _

/-! ## Endings -/

/-- A text that may stand behind an identifier, and its words. -/
structure IsEnding (text : String) (list : List String) : Prop where
  text_eq : text = String.join (list.map capitalize)
  anywhere : StartsAnywhere text.toList (list.map String.toList)
  regular : ∀ word ∈ list, isRegular word.toList

theorem isEnding_empty : IsEnding "" [] where
  text_eq := rfl
  anywhere := startsAnywhere_nil
  regular := by simp

theorem isEnding_input : IsEnding "Input" ["input"] where
  text_eq := by decide
  anywhere := startsAnywhere_capitalized (by decide : isAsciiLower 'i')
    (by decide : isAsciiLower 'n') (List.all_eq_true.mp (by decide : ['p', 'u', 't'].all isWordChar))
  regular := by decide

theorem isEnding_output : IsEnding "Output" ["output"] where
  text_eq := by decide
  anywhere := startsAnywhere_capitalized (by decide : isAsciiLower 'o')
    (by decide : isAsciiLower 'u') (List.all_eq_true.mp (by decide : ['t', 'p', 'u', 't'].all isWordChar))
  regular := by decide

/-- Identifiers that are the same, endings included, are those of alike names. -/
theorem alike_of_exportedName_append_eq {acronyms : Acronyms} (table : acronyms.IsRegular)
    {name other text otherText : String} {ending otherEnding : List String}
    (isEnding : IsEnding text ending) (isOtherEnding : IsEnding otherText otherEnding)
    (same : acronyms.exportedName name ++ text = acronyms.exportedName other ++ otherText) :
    Alike (words name ++ ending) (words other ++ otherEnding) := by
  by_cases regular : ∀ word ∈ words name ++ ending ++ (words other ++ otherEnding),
      isRegular word.toList
  · rw [alike_iff_of_regular regular]
    have areRegular : (∀ word ∈ words name, isRegular word.toList) ∧
        ∀ word ∈ words other, isRegular word.toList :=
      ⟨fun word member => regular word (by simp [member]),
        fun word member => regular word (by simp [member])⟩
    rw [← words_exportedName_append table areRegular.1 rfl text ending isEnding.anywhere, same,
      words_exportedName_append table areRegular.2 rfl otherText otherEnding isOtherEnding.anywhere]
  · refine .inr ⟨regular, ?_⟩
    rw [runTogether_append, runTogether_append, ← isEnding.text_eq, ← isOtherEnding.text_eq,
      ← upperText_exportedName table, ← upperText_exportedName table, ← upperText_append,
      ← upperText_append, same]

theorem alike_of_exportedName_eq {acronyms : Acronyms} (table : acronyms.IsRegular)
    {name other : String} (same : acronyms.exportedName name = acronyms.exportedName other) :
    Alike (words name) (words other) := by
  have alike := alike_of_exportedName_append_eq table isEnding_empty isEnding_empty
    (congrArg (· ++ "") same)
  rwa [List.append_nil, List.append_nil] at alike

/-! ## Names in a language -/

/-- Two names may have one identifier when they are written in a case. -/
def NameCase.Alike : NameCase → String → String → Prop
  | .wire, name, other => name = other
  | .snake, name, other => words name = words other
  | .exported, name, other | .member, name, other => Naming.Alike (words name) (words other)

instance : (case : NameCase) → (name other : String) → Decidable (case.Alike name other)
  | .wire, name, other => inferInstanceAs (Decidable (name = other))
  | .snake, name, other => inferInstanceAs (Decidable (words name = words other))
  | .exported, name, other | .member, name, other =>
    inferInstanceAs (Decidable (Naming.Alike (words name) (words other)))

namespace Convention

section Language

variable {convention : Convention} (listed : convention ∈ languages)
include listed

theorem fieldCase_ne_member : convention.fieldCase ≠ .member := by
  simp only [languages, List.mem_cons, List.not_mem_nil, or_false] at listed
  rcases listed with rfl | rfl | rfl | rfl <;> decide

/-- Fields of one identifier are alike. -/
theorem alike_of_fieldName_eq {name other : String}
    (same : convention.fieldName name = convention.fieldName other) :
    convention.fieldCase.Alike name other := by
  have readable := isReadable_of_mem listed
  obtain ⟨front, separator, isBefore, isMark, separates, -⟩ := readable.mark
  have isSeparator := isSeparator_of_mem_marks isMark
  rw [fieldName, fieldName] at same
  cases case : convention.fieldCase with
  | exported =>
      rw [case] at same
      exact alike_of_exportedName_eq readable.table
        ((safeName_eq_iff isBefore (not_mem_exportedName isSeparator _ _)
          (not_mem_exportedName isSeparator _ _)).mp same)
  | member => exact absurd case (fieldCase_ne_member listed)
  | snake =>
      rw [case] at same
      have other := separates case
      exact words_eq_of_snakeCase_eq
        ((safeName_eq_iff isBefore (not_mem_snakeCase isSeparator other _)
          (not_mem_snakeCase isSeparator other _)).mp same)
  | wire => rwa [case] at same

end Language

/-- An identifier depends on the words of its name alone. -/
theorem cased_eq_of_words_eq (convention : Convention) {case : NameCase} (other : case ≠ .wire)
    {name other : String} (same : words name = words other) :
    convention.cased case name = convention.cased case other := by
  cases case with
  | exported => simp only [cased, Acronyms.exportedName, pascalCase, same]
  | member => simp only [cased, Acronyms.memberName, same]
  | snake => simp only [cased, snakeCase, same]
  | wire => exact absurd rfl other

theorem fieldName_eq_of_words_eq {convention : Convention} (noKey : convention.fieldCase ≠ .wire)
    {name other : String} (same : words name = words other) :
    convention.fieldName name = convention.fieldName other := by
  rw [fieldName_of_ne_wire noKey, fieldName_of_ne_wire noKey,
    cased_eq_of_words_eq convention noKey same]

end Convention

end RpcSchema.Naming

namespace RpcSchema.Model

open Naming

/-! ## Record types -/

/-- The name in the schema of what a record type belongs to. -/
def schemaName : Model → String
  | .type decl => decl.name
  | .input method => method.name
  | .output method => method.name

/-- The word that is put behind the name. -/
def ending : Model → List String
  | .type _ => []
  | .input _ => ["input"]
  | .output _ => ["output"]

/-- The words of a record type's name. -/
def words (model : Model) : List String := Naming.words model.schemaName ++ model.ending

/-- The name of a record type before it is marked. -/
def bareName (convention : Convention) (model : Model) : String :=
  convention.cased convention.typeCase model.schemaName ++
    String.join (model.ending.map capitalize)

theorem isEnding (model : Model) :
    IsEnding (String.join (model.ending.map capitalize)) model.ending := by
  cases model with
  | type decl => exact isEnding_empty
  | input method => exact isEnding_input.text_eq ▸ isEnding_input
  | output method => exact isEnding_output.text_eq ▸ isEnding_output

theorem writes_name (convention : Convention) (model : Model) :
    convention.escape.Writes (model.bareName convention) (model.name convention) := by
  cases model with
  | type decl =>
      have bare : (Model.type decl).bareName convention =
          convention.cased convention.typeCase decl.name := String.append_empty
      rw [bare]
      exact convention.writes_safeName _
  | input method =>
      rw [bareName, ending, ← isEnding_input.text_eq]
      exact .inl rfl
  | output method =>
      rw [bareName, ending, ← isEnding_output.text_eq]
      exact .inl rfl

/-- Record types of one name are alike. -/
theorem alike_of_name_eq {convention : Convention} (listed : convention ∈ Convention.languages)
    {model other : Model} (same : model.name convention = other.name convention) :
    Alike model.words other.words := by
  have readable := Convention.isReadable_of_mem listed
  obtain ⟨front, separator, isBefore, isMark, -⟩ := readable.mark
  have bare : ∀ model : Model, model.bareName convention =
      convention.acronyms.exportedName model.schemaName ++
        String.join (model.ending.map capitalize) := by
    intro model
    rw [bareName, Convention.typeCase_eq listed]
    rfl
  have absent : ∀ model : Model, separator ∉ (model.bareName convention).toList := by
    intro model
    have absentEnding := of_mem_marks (fun mark => ∀ ending ∈ [[], ["input"], ["output"]],
      mark ∉ (String.join (ending.map capitalize)).toList) (by decide) isMark
    rw [bare, String.toList_append, List.mem_append, not_or]
    exact ⟨not_mem_exportedName (isSeparator_of_mem_marks isMark) _ _,
      absentEnding _ (by cases model <;> simp [ending])⟩
  have sameBare := (model.writes_name convention).unique isBefore
    (same ▸ other.writes_name convention) (absent model) (absent other)
  rw [bare, bare] at sameBare
  exact alike_of_exportedName_append_eq readable.table model.isEnding other.isEnding sameBare

/-- Without acronyms, a record type's name is made of its words alone. -/
theorem name_rust (model : Model) :
    model.name Convention.rust =
      Convention.rust.safeName (String.join (model.words.map capitalize)) := by
  -- No reserved word ends like the name of a method's inputs or outputs.
  have unreserved : ∀ (text ending : String), ending ∈ ["Input", "Output"] →
      Convention.rust.safeName (text ++ ending) = text ++ ending := by
    intro text ending isEnding
    have all : ∀ ending ∈ ["Input", "Output"], ∀ word ∈ Convention.rust.reserved,
        ending.toList.isSuffixOf word.toList = false := by
      decide
    rw [Convention.safeName, if_neg]
    intro isReserved
    have member := List.contains_iff_mem.mp isReserved
    have apart := all ending isEnding _ member
    rw [String.toList_append, List.isSuffixOf_iff_suffix.mpr (List.suffix_append _ _)] at apart
    cases apart
  have joined : String.join (model.words.map capitalize) =
      Convention.rust.cased .exported model.schemaName ++
        String.join (model.ending.map capitalize) := by
    rw [words, List.map_append, String.join_append]
    rfl
  rw [joined]
  cases model with
  | type decl =>
      rw [ending, List.map_nil, String.join_nil, String.append_empty]
      rfl
  | input method =>
      rw [ending, ← isEnding_input.text_eq, unreserved _ _ (by decide)]
      rfl
  | output method =>
      rw [ending, ← isEnding_output.text_eq, unreserved _ _ (by decide)]
      rfl

end RpcSchema.Model
