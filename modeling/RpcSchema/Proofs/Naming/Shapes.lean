import RpcSchema.Proofs.Generation.Outlines
import RpcSchema.Proofs.Naming.FirstWords

/-!
# The shape of identifiers

Languages read meaning off the first character of an identifier: Go exports what starts with a
capital, and what reads or writes JSON there sees nothing else. A name starts with a letter, so its
first word does, and neither capitals behind the first character nor an acronym at the end change
what the identifier starts with. What is written in lower case may be a reserved word and is marked
then; what starts with a capital never is.
-/

namespace RpcSchema.Naming

open Text

/-! ## Shapes -/

/-- An ASCII letter or an ASCII digit. -/
def isAsciiAlphanumeric (c : Char) : Bool := isAsciiUpper c || isWordChar c

/-- A text of ASCII letters and digits with such a character at its start. -/
def isCamel (isFirst : Char → Bool) (text : List Char) : Bool :=
  text.head?.any isFirst && text.all isAsciiAlphanumeric

/-- A capital, then ASCII letters and digits. -/
def isExported (identifier : String) : Bool := isCamel isAsciiUpper identifier.toList

/-- A lower-case ASCII letter, then ASCII letters and digits, behind an underscore or nothing. -/
def IsMember (identifier : String) : Prop :=
  ∃ name : String, (identifier = name ∨ identifier = "_" ++ name) ∧
    isCamel isAsciiLower name.toList = true

theorem isAsciiAlphanumeric_of_isWordChar {c : Char} (inWord : isWordChar c) :
    isAsciiAlphanumeric c = true := by
  rw [isAsciiAlphanumeric, inWord, Bool.or_true]

/-- In upper case, too, a character of a word is a letter or a digit. -/
theorem isAsciiAlphanumeric_of_mem_upperChar {c raised : Char} (inWord : isWordChar c)
    (member : raised ∈ upperChar c) : isAsciiAlphanumeric raised = true := by
  have all : (upperChar c).all isAsciiAlphanumeric = true :=
    of_ascii (fun c => isWordChar c → (upperChar c).all isAsciiAlphanumeric = true) (by decide)
      (toNat_lt_of_isWordChar inWord) inWord
  exact List.all_eq_true.mp all raised member

theorem forall_mem_capitalized {word : List Char} (plain : isPlain word) :
    ∀ c ∈ capitalized word, isAsciiAlphanumeric c = true := by
  obtain ⟨nonempty, inWord⟩ := isPlain_iff.mp plain
  obtain ⟨first, rest, rfl⟩ := List.exists_cons_of_ne_nil nonempty
  obtain ⟨firstInWord, restInWord⟩ := List.forall_mem_cons.mp inWord
  intro c member
  rcases List.mem_append.mp member with isFirst | inRest
  · exact isAsciiAlphanumeric_of_mem_upperChar firstInWord isFirst
  · exact isAsciiAlphanumeric_of_isWordChar (restInWord c inRest)

theorem forall_mem_join_capitalize {list : List String}
    (plain : ∀ word ∈ list, isPlain word.toList) :
    ∀ c ∈ (String.join (list.map capitalize)).toList, isAsciiAlphanumeric c = true := by
  intro c member
  rw [toList_join_capitalize] at member
  obtain ⟨characters, isWord, inWord⟩ := List.mem_flatMap.mp member
  obtain ⟨word, listed, rfl⟩ := List.mem_map.mp isWord
  exact forall_mem_capitalized (plain word listed) c inWord

/-! ## Acronyms at the end -/

/-- In capitals, an acronym starts as before and is made of ASCII letters and digits. -/
theorem upperText_of_isAcronym {entry : String} (acronym : isAcronym entry) :
    (upperText entry).toList.head? = entry.toList.head? ∧
      ∀ c ∈ (upperText entry).toList, isAsciiAlphanumeric c = true := by
  obtain ⟨capital, letters, digits, spelled, upper, lower, numbers⟩ := exists_of_isAcronym acronym
  have stays : upperChar capital = [capital] :=
    of_ascii (fun c => isAsciiUpper c → upperChar c = [c]) (by decide)
      (toNat_lt_of_isAsciiUpper upper) upper
  have plain : ∀ c ∈ letters ++ digits, isWordChar c = true := by
    intro c member
    rcases List.mem_append.mp member with isLetter | isDigit
    · rw [isWordChar, lower c isLetter, Bool.true_or]
    · exact isWordChar_of_isAsciiDigit (numbers c isDigit)
  rw [upperText, String.toList_ofList, spelled, List.flatMap_cons, stays, List.singleton_append]
  refine ⟨rfl, List.forall_mem_cons.mpr ⟨by rw [isAsciiAlphanumeric, upper, Bool.true_or], ?_⟩⟩
  intro c member
  obtain ⟨letter, isLetter, raised⟩ := List.mem_flatMap.mp member
  exact isAsciiAlphanumeric_of_mem_upperChar (plain letter isLetter) raised

namespace Acronyms

variable {acronyms : Acronyms} (table : acronyms.IsRegular)
include table

/-- An acronym that is the whole text starts with a capital before and after. -/
theorem head?_upcaseEnding (text : String) :
    (acronyms.upcaseEnding text).toList.head? = text.toList.head? := by
  rcases acronyms.upcaseEnding_cases text with same | ⟨entry, listed, front, rfl, written⟩
  · rw [same]
  · rw [written, String.toList_append, String.toList_append, List.head?_append, List.head?_append,
      (upperText_of_isAcronym (table entry listed)).1]

theorem forall_mem_upcaseEnding {text : String}
    (all : ∀ c ∈ text.toList, isAsciiAlphanumeric c = true) :
    ∀ c ∈ (acronyms.upcaseEnding text).toList, isAsciiAlphanumeric c = true := by
  rcases acronyms.upcaseEnding_cases text with same | ⟨entry, listed, front, rfl, written⟩
  · rwa [same]
  · rw [String.toList_append, List.forall_mem_append] at all
    rw [written, String.toList_append, List.forall_mem_append]
    exact ⟨all.1, (upperText_of_isAcronym (table entry listed)).2⟩

end Acronyms

/-! ## Identifiers before they are marked -/

section Named

variable {name : String} (named : isIdentifier name = true) {acronyms : Acronyms}
  (table : acronyms.IsRegular)
include named table

theorem isExported_exportedName : isExported (acronyms.exportedName name) = true := by
  obtain ⟨letter, tail, rest, spelled, lower⟩ := exists_first_word named
  obtain ⟨capital, isCapital⟩ := exists_isCapitalOf lower
  have starts : (acronyms.exportedName name).toList.head? = some capital := by
    rw [Acronyms.exportedName, Acronyms.head?_upcaseEnding table, pascalCase,
      toList_join_capitalize, spelled, List.map_cons, List.flatMap_cons, String.toList_ofList,
      capitalized, isCapital.upper]
    rfl
  have all : ∀ c ∈ (acronyms.exportedName name).toList, isAsciiAlphanumeric c = true :=
    Acronyms.forall_mem_upcaseEnding table
      (forall_mem_join_capitalize fun _ => isPlain_of_mem_words named)
  rw [isExported, isCamel, starts, List.all_eq_true.mpr all, Bool.and_true]
  exact isCapital.isAsciiUpper

theorem isCamel_memberName :
    isCamel isAsciiLower (acronyms.memberName name).toList = true := by
  obtain ⟨letter, tail, rest, spelled, lower⟩ := exists_first_word named
  have plain : ∀ word ∈ words name, isPlain word.toList := fun _ => isPlain_of_mem_words named
  rw [spelled] at plain
  obtain ⟨plainFirst, plainRest⟩ := List.forall_mem_cons.mp plain
  have inFirst : ∀ c ∈ (String.ofList (letter :: tail)).toList, isAsciiAlphanumeric c = true :=
    fun c member => isAsciiAlphanumeric_of_isWordChar ((isPlain_iff.mp plainFirst).2 c member)
  have starts : (acronyms.memberName name).toList.head? = some letter := by
    rw [Acronyms.memberName, spelled]
    cases rest <;> simp
  have all : ∀ c ∈ (acronyms.memberName name).toList, isAsciiAlphanumeric c = true := by
    rw [Acronyms.memberName, spelled]
    cases rest with
    | nil => exact inFirst
    | cons second others =>
        rw [String.toList_append, List.forall_mem_append]
        exact ⟨inFirst,
          Acronyms.forall_mem_upcaseEnding table (forall_mem_join_capitalize plainRest)⟩
  rw [isCamel, starts, List.all_eq_true.mpr all, Bool.and_true]
  exact lower

end Named

/-! ## Reserved words -/

namespace Convention

variable {convention : Convention}

/-- A reserved word is written in lower case, so what starts with a capital is none. -/
theorem isReserved_of_isExported
    (lower : ∀ word ∈ convention.reserved, isExported word = false) {identifier : String}
    (exported : isExported identifier = true) : convention.isReserved identifier = false := by
  unfold isReserved
  rw [Bool.eq_false_iff]
  intro listed
  have notExported := lower identifier (List.contains_iff_mem.mp listed)
  rw [exported] at notExported
  cases notExported

theorem safeName_of_isExported
    (lower : ∀ word ∈ convention.reserved, isExported word = false) {identifier : String}
    (exported : isExported identifier = true) : convention.safeName identifier = identifier := by
  rw [safeName, isReserved_of_isExported lower exported]
  rfl

/-- A convention that writes types, fields and methods with a capital at their start, and none of
whose reserved words has one. -/
structure IsExporting (convention : Convention) : Prop where
  table : convention.acronyms.IsRegular
  typeCase : convention.typeCase = .exported
  fieldCase : convention.fieldCase = .exported
  methodCase : convention.methodCase = .exported
  lower : ∀ word ∈ convention.reserved, isExported word = false

theorem isExporting_of_mem (listed : convention ∈ [go, csharp]) : convention.IsExporting := by
  simp only [List.mem_cons, List.not_mem_nil, or_false] at listed
  rcases listed with rfl | rfl
  · exact ⟨Acronyms.standard_isRegular, rfl, rfl, rfl, by decide⟩
  · exact ⟨Acronyms.standard_isRegular, rfl, rfl, rfl, by decide⟩

theorem IsExporting.isExported_of_mem (exporting : convention.IsExporting) {name : String}
    (named : isIdentifier name = true) {identifier : String}
    (member : identifier ∈
      [convention.typeName name, convention.fieldName name, convention.methodName name]) :
    isExported identifier = true := by
  have exported := isExported_exportedName named exporting.table
  have written : convention.safeName (convention.cased .exported name) =
      convention.acronyms.exportedName name :=
    safeName_of_isExported exporting.lower exported
  simp only [List.mem_cons, List.not_mem_nil, or_false] at member
  rcases member with isType | isField | isMethod
  · rw [isType, typeName, exporting.typeCase, written]
    exact exported
  · have unkeyed : convention.fieldName name =
        convention.safeName (convention.cased .exported name) := by
      rw [fieldName, exporting.fieldCase]
    rw [isField, unkeyed, written]
    exact exported
  · rw [isMethod, methodName, exporting.methodCase, written]
    exact exported

theorem isMember_safeName (mark : convention.escape = .before "_") {identifier : String}
    (camel : isCamel isAsciiLower identifier.toList = true) :
    IsMember (convention.safeName identifier) := by
  have writes := convention.writes_safeName identifier
  rw [mark] at writes
  exact ⟨identifier, writes, camel⟩

end Convention

/-- Whatever the name, Go and C# have types, fields and methods that start with a capital; members
of Go and methods of TypeScript start with a lower-case letter or with an underscore in front of one;
and none of them is a reserved word. So a field of a generated Go type is exported. -/
theorem identifiers_shaped {name : String} (named : isIdentifier name = true) :
    (∀ convention ∈ [Convention.go, Convention.csharp],
      ∀ identifier ∈ [convention.typeName name, convention.fieldName name,
          convention.methodName name],
        isExported identifier = true ∧ convention.isReserved identifier = false) ∧
      (IsMember (Convention.typescript.methodName name) ∧
        Convention.typescript.isReserved (Convention.typescript.methodName name) = false) ∧
      (IsMember (Convention.go.memberName name) ∧
        Convention.go.isReserved (Convention.go.memberName name) = false) ∧
      ∀ (schema : Schema) (field : Field) (made : GoCode.Field), field.name = name →
        GoTypes.structField schema field = .ok made → isExported made.name = true := by
  have member : isCamel isAsciiLower (Acronyms.standard.memberName name).toList = true :=
    isCamel_memberName named Acronyms.standard_isRegular
  refine ⟨?_, ⟨?_, ?_⟩, ⟨?_, ?_⟩, ?_⟩
  · intro convention listed identifier isWritten
    have exporting := Convention.isExporting_of_mem listed
    have exported := exporting.isExported_of_mem named isWritten
    exact ⟨exported, Convention.isReserved_of_isExported exporting.lower exported⟩
  · exact Convention.isMember_safeName rfl member
  · exact Convention.isReserved_safeName rfl (by decide) _
  · exact Convention.isMember_safeName rfl member
  · exact Convention.isReserved_safeName rfl (by decide) _
  · rintro schema field made rfl done
    have exporting : Convention.go.IsExporting := Convention.isExporting_of_mem (by simp)
    rw [GoTypes.name_structField done]
    exact exporting.isExported_of_mem named (by simp)

/-- A reserved word in upper case, with an underscore behind it. -/
theorem identifiers_shaped_type :
    isIdentifier "TYPE_" = true ∧
      (∀ identifier ∈ [Convention.go.typeName "TYPE_", Convention.go.fieldName "TYPE_",
          Convention.go.methodName "TYPE_"], isExported identifier = true) ∧
      Convention.go.fieldName "TYPE_" = "Type" ∧ IsMember "_type" ∧
      Convention.go.isReserved "_type" = false := by
  have named : isIdentifier "TYPE_" = true := by decide
  have marked : Convention.go.memberName "TYPE_" = "_type" := by decide
  obtain ⟨exported, -, member, -⟩ := identifiers_shaped named
  rw [marked] at member
  exact ⟨named, fun identifier listed => (exported .go (by simp) identifier listed).1, by decide,
    member⟩

end RpcSchema.Naming
