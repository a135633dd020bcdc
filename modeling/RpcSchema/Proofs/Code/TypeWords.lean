import RpcSchema.Proofs.Naming.Marks

/-!
# Words of types

A type as source is words with marks between them. What a type mentions is said by its words, in
every language and whatever marks stand around them.
-/

namespace RpcSchema.Code

/-- The characters that part the words of types. -/
def typeMarks : List Char :=
  [' ', ',', '.', ':', '?', '*', '&', '<', '>', '(', ')', '[', ']']

def isTypeMark (c : Char) : Bool := typeMarks.contains c

def wordsBetween (text : List Char) : List (List Char) :=
  (text.splitOnP isTypeMark).filter (!·.isEmpty)

/-- The words of a type. -/
def typeWords (text : String) : List String := (wordsBetween text.toList).map String.ofList

example : typeWords "Option<Box<Pet>>" = ["Option", "Box", "Pet"] := by decide

section Between

variable {front rest : List Char}

/-- A mark belongs to no word, and parts those before it from those behind it. -/
theorem wordsBetween_append_cons {mark : Char} (marks : isTypeMark mark) :
    wordsBetween (front ++ mark :: rest) = wordsBetween front ++ wordsBetween rest := by
  rw [wordsBetween, List.splitOnP_append_cons front rest marks, List.filter_append]
  rfl

theorem wordsBetween_append_of_front (closed : front.getLast?.all isTypeMark) :
    wordsBetween (front ++ rest) = wordsBetween front ++ wordsBetween rest := by
  rcases List.eq_nil_or_concat front with rfl | ⟨before, mark, rfl⟩
  · rfl
  · rw [List.concat_eq_append] at closed ⊢
    rw [List.getLast?_concat] at closed
    have alone : wordsBetween [] = [] := rfl
    rw [List.append_assoc, List.singleton_append, wordsBetween_append_cons closed,
      wordsBetween_append_cons closed, alone, List.append_nil]

theorem wordsBetween_append_of_rest (opens : rest.head?.all isTypeMark) :
    wordsBetween (front ++ rest) = wordsBetween front ++ wordsBetween rest := by
  cases rest with
  | nil => rw [List.append_nil, show wordsBetween [] = [] from rfl, List.append_nil]
  | cons mark rest =>
      have alone : wordsBetween ([] ++ mark :: rest) = wordsBetween [] ++ wordsBetween rest :=
        wordsBetween_append_cons opens
      rw [List.nil_append] at alone
      rw [wordsBetween_append_cons opens, alone]
      rfl

end Between

/-- The words up to a mark and those behind it. -/
theorem typeWords_append_of_front {front rest : String}
    (closed : front.toList.getLast?.all isTypeMark) :
    typeWords (front ++ rest) = typeWords front ++ typeWords rest := by
  rw [typeWords, String.toList_append, wordsBetween_append_of_front closed, List.map_append]
  rfl

theorem typeWords_append_of_rest {front rest : String}
    (opens : rest.toList.head?.all isTypeMark) :
    typeWords (front ++ rest) = typeWords front ++ typeWords rest := by
  rw [typeWords, String.toList_append, wordsBetween_append_of_rest opens, List.map_append]
  rfl

/-- What has no marks is one word, if it is not empty. -/
theorem eq_of_mem_typeWords {name word : String} (unmarked : ∀ mark ∈ typeMarks, mark ∉ name.toList)
    (member : word ∈ typeWords name) : word = name := by
  have plain : ∀ c ∈ name.toList, isTypeMark c = false := fun c inName => by
    rw [isTypeMark, List.contains_eq_mem, decide_eq_false_iff_not]
    exact fun mark => unmarked c mark inName
  rw [typeWords, wordsBetween, List.splitOnP_eq_singleton plain] at member
  obtain ⟨found, isWord, rfl⟩ := List.mem_map.mp member
  rw [List.mem_singleton.mp (List.mem_of_mem_filter isWord), String.ofList_toList]

/-- Whether what stands around a name parts it from all other words, which are known. -/
def surrounds (known : List String) (before after : String) : Bool :=
  before.toList.getLast?.all isTypeMark && after.toList.head?.all isTypeMark &&
    (typeWords before ++ typeWords after).all known.contains

/-- The words of a type with a name in it are that name and known ones. -/
theorem mem_typeWords_of_surrounds {known : List String} {before name after word : String}
    (unmarked : ∀ mark ∈ typeMarks, mark ∉ name.toList) (around : surrounds known before after)
    (member : word ∈ typeWords (before ++ name ++ after)) : word ∈ known ∨ word = name := by
  simp only [surrounds, Bool.and_eq_true] at around
  obtain ⟨⟨closed, opens⟩, listed⟩ := around
  have isKnown : ∀ word ∈ typeWords before ++ typeWords after, word ∈ known := fun word member =>
    List.contains_iff_mem.mp (List.all_eq_true.mp listed word member)
  rw [String.append_assoc, typeWords_append_of_front closed, typeWords_append_of_rest opens,
    List.mem_append, List.mem_append] at member
  rcases member with before | inName | after
  · exact .inl (isKnown word (List.mem_append_left _ before))
  · exact .inr (eq_of_mem_typeWords unmarked inName)
  · exact .inl (isKnown word (List.mem_append_right _ after))

/-! ## Names of types -/

section Names

open Naming Text

theorem isSeparator_of_mem_typeMarks {mark : Char} (listed : mark ∈ typeMarks) :
    isSeparator mark ∧ mark ∉ marks := by
  have apart : typeMarks.all fun mark => isSeparator mark && !marks.contains mark := by decide
  simpa using List.all_eq_true.mp apart mark listed

variable {convention : Convention} (known : convention ∈ Convention.languages)
include known

theorem unmarked_typeName (name : String) :
    ∀ mark ∈ typeMarks, mark ∉ (convention.typeName name).toList := fun _ listed =>
  Convention.not_mem_typeName known (isSeparator_of_mem_typeMarks listed).1
    (isSeparator_of_mem_typeMarks listed).2 name

theorem unmarked_inputType (method : String) :
    ∀ mark ∈ typeMarks, mark ∉ (convention.inputType method).toList := fun _ listed =>
  Convention.not_mem_inputType known (isSeparator_of_mem_typeMarks listed).1
    (isSeparator_of_mem_typeMarks listed).2 method

theorem unmarked_outputType (method : String) :
    ∀ mark ∈ typeMarks, mark ∉ (convention.outputType method).toList := fun _ listed =>
  Convention.not_mem_outputType known (isSeparator_of_mem_typeMarks listed).1
    (isSeparator_of_mem_typeMarks listed).2 method

end Names

end RpcSchema.Code
