import RpcSchema.Proofs.Naming.Marks

/-!
# Escaped identifiers

Two names may have one identifier before reserved words are escaped, and then they have one after
it. Escaping adds no other collision: what a mark ends with is in no identifier before it is marked,
so a marked word is like no name, even of those names that are spelled like marked words themselves.
No reserved word starts with the mark of its language, so what is escaped is none any more.
-/

namespace RpcSchema.Naming.Convention

open Text

/-- The cases in which a convention writes identifiers. -/
def cases (convention : Convention) : List NameCase :=
  [convention.typeCase, convention.fieldCase, convention.methodCase, .member]

/-- A convention whose mark is told apart from what it marks: it ends with a separator, which is not
the one between words where words are separated, and no reserved word starts with it. -/
structure HasMark (convention : Convention) (front : String) (separator : Char) : Prop where
  escape : convention.escape = .before (front.push separator)
  separates : isSeparator separator
  unspaced : .snake ∈ convention.cases → separator ≠ '_'
  unmarked : ∀ word ∈ convention.reserved, ¬ (front.push separator).toList <+: word.toList

theorem exists_hasMark {convention : Convention} (listed : convention ∈ languages) :
    ∃ front separator, convention.HasMark front separator := by
  simp only [languages, List.mem_cons, List.not_mem_nil, or_false] at listed
  rcases listed with rfl | rfl | rfl | rfl
  -- Rust alone writes underscores between words, and its mark ends with another character.
  · exact ⟨"", '_', congrArg Escape.before (by decide), by decide, by decide, by decide⟩
  · exact ⟨"", '_', congrArg Escape.before (by decide), by decide, by decide, by decide⟩
  · exact ⟨"r", '#', congrArg Escape.before (by decide), by decide, by decide, by decide⟩
  · exact ⟨"", '@', congrArg Escape.before (by decide), by decide, by decide, by decide⟩

theorem ne_wire_of_mem {convention : Convention} (listed : convention ∈ languages) :
    convention.typeCase ≠ .wire ∧ convention.methodCase ≠ .wire := by
  simp only [languages, List.mem_cons, List.not_mem_nil, or_false] at listed
  rcases listed with rfl | rfl | rfl | rfl <;> decide

namespace HasMark

variable {convention : Convention} {front : String} {separator : Char}
  (hasMark : convention.HasMark front separator)
include hasMark

theorem not_mem_cased {case : NameCase} (written : case ∈ convention.cases)
    (noKey : case ≠ .wire) (name : String) :
    separator ∉ (convention.cased case name).toList :=
  not_mem_cased_of_snake hasMark.separates noKey
    (fun isSnake => hasMark.unspaced (isSnake ▸ written)) name

/-- Names whose identifiers are told apart before escaping are told apart by what is escaped. -/
theorem safeName_cased_eq_iff {case : NameCase} (written : case ∈ convention.cases)
    (noKey : case ≠ .wire) (name other : String) :
    convention.safeName (convention.cased case name) =
        convention.safeName (convention.cased case other) ↔
      convention.cased case name = convention.cased case other :=
  safeName_eq_iff hasMark.escape (hasMark.not_mem_cased written noKey name)
    (hasMark.not_mem_cased written noKey other)

end HasMark

/-- In every language the identifiers of two types, methods, members, or fields that are no keys are
the same exactly when they are the same before reserved words are escaped, whatever the names; and
no such identifier is a reserved word. -/
theorem escaping_adds_no_collision {convention : Convention} (listed : convention ∈ languages)
    (name other : String) :
    ((convention.typeName name = convention.typeName other ↔
          convention.cased convention.typeCase name =
            convention.cased convention.typeCase other) ∧
        convention.isReserved (convention.typeName name) = false) ∧
      ((convention.methodName name = convention.methodName other ↔
          convention.cased convention.methodCase name =
            convention.cased convention.methodCase other) ∧
        convention.isReserved (convention.methodName name) = false) ∧
      ((convention.memberName name = convention.memberName other ↔
          convention.cased .member name = convention.cased .member other) ∧
        convention.isReserved (convention.memberName name) = false) ∧
      (convention.fieldCase ≠ .wire →
        (convention.fieldName name = convention.fieldName other ↔
            convention.cased convention.fieldCase name =
              convention.cased convention.fieldCase other) ∧
          convention.isReserved (convention.fieldName name) = false) := by
  obtain ⟨front, separator, hasMark⟩ := exists_hasMark listed
  obtain ⟨typeNoKey, methodNoKey⟩ := ne_wire_of_mem listed
  have isMember : NameCase.member ∈ convention.cases := by simp [cases]
  have free : ∀ identifier, convention.isReserved (convention.safeName identifier) = false :=
    isReserved_safeName hasMark.escape hasMark.unmarked
  refine ⟨⟨?_, free _⟩, ⟨?_, free _⟩, ⟨?_, free _⟩, fun fieldNoKey => ?_⟩
  · exact hasMark.safeName_cased_eq_iff (by simp [cases]) typeNoKey name other
  · exact hasMark.safeName_cased_eq_iff (by simp [cases]) methodNoKey name other
  · exact hasMark.safeName_cased_eq_iff isMember (by decide) name other
  · rw [fieldName_of_ne_wire fieldNoKey, fieldName_of_ne_wire fieldNoKey]
    exact ⟨hasMark.safeName_cased_eq_iff (by simp [cases]) fieldNoKey name other, free _⟩

/-- A keyword, and a name that is spelled like the keyword with its mark. -/
theorem escaping_adds_no_collision_type :
    rust ∈ languages ∧ rust.fieldCase ≠ .wire ∧
      rust.fieldName "type" = "r#type" ∧
      rust.fieldName "type" ≠ rust.fieldName "r#type" ∧
      rust.isReserved (rust.fieldName "type") = false ∧
      rust.typeName "self" ≠ rust.typeName "r#Self" := by
  have listed : rust ∈ languages := by simp [languages]
  have noKey : rust.fieldCase ≠ .wire := by decide
  obtain ⟨-, -, -, ofField⟩ := escaping_adds_no_collision listed "type" "r#type"
  obtain ⟨apart, free⟩ := ofField noKey
  obtain ⟨⟨typesApart, -⟩, -⟩ := escaping_adds_no_collision listed "self" "r#Self"
  exact ⟨listed, noKey, by decide, apart.not.mpr (by decide), free,
    typesApart.not.mpr (by decide)⟩

/-- Keys of TypeScript are not escaped. -/
example : typescript.isReserved (typescript.fieldName "type") = true := by decide

end RpcSchema.Naming.Convention
