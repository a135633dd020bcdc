import Mathlib.Logic.Relation
import RpcSchema.Proofs.Schema.Canonical
import RpcSchema.Target.TsRevivers

/-!
# The types that hold timestamps

A type holds timestamps in itself or through references, which may go round in circles or lead
nowhere. The search for these types goes in rounds: each adds the types that hold timestamps when
the types found before do. Every round but the last finds a type that is not found yet, so the
search ends. What it has found by then are the types from which a chain of references leads to a
type with a timestamp of its own, and no others.
-/

namespace RpcSchema

namespace Schema

/-- A declared type has a property whose values, or their elements, are of another type. -/
def RefersTo (schema : Schema) (name other : String) : Prop :=
  ∃ type, (name, type) ∈ schema.types ∧ ∃ field ∈ type.properties, ∃ target,
    field.elementType = .reference target ∧ target.name = other

/-- A declared type has a property whose values, or their elements, are timestamps. -/
def HasTimestamp (schema : Schema) (name : String) : Prop :=
  ∃ type, (name, type) ∈ schema.types ∧ ∃ field ∈ type.properties,
    field.elementType = .primitive .timestamp

/-- A chain of references leads from a type to one with a timestamp of its own. -/
def HoldsTimestamp (schema : Schema) (name : String) : Prop :=
  ∃ last, Relation.ReflTransGen schema.RefersTo name last ∧ schema.HasTimestamp last

theorem HoldsTimestamp.of_refersTo {schema : Schema} {name other : String}
    (refers : schema.RefersTo name other) (holds : schema.HoldsTimestamp other) :
    schema.HoldsTimestamp name := by
  obtain ⟨last, chain, timestamp⟩ := holds
  exact ⟨last, chain.head refers, timestamp⟩

/-- The values of a type are timestamps or of a declared type that holds them. -/
def ValuesHoldTimestamp (schema : Schema) (type : FieldType) : Prop :=
  type = .primitive .timestamp ∨
    ∃ target, type = .reference target ∧ schema.HoldsTimestamp target.name

/-- The values of a field, or their elements, are timestamps or of a type that holds them. -/
def FieldHoldsTimestamp (schema : Schema) (field : Field) : Prop :=
  schema.ValuesHoldTimestamp field.elementType

end Schema

namespace TsRevivers

theorem holds_iff (dated : List String) (field : Field) :
    holds dated field = true ↔
      field.elementType = .primitive .timestamp ∨
        ∃ target, field.elementType = .reference target ∧ target.name ∈ dated := by
  unfold holds
  cases field.elementType with
  | primitive kind => simp
  | reference target => simp

theorem mem_newlyDated {types : List TypeDecl} {dated : List String} {name : String} :
    name ∈ newlyDated types dated ↔
      name ∉ dated ∧ ∃ type ∈ types, type.name = name ∧
        ∃ field ∈ type.properties, holds dated field = true := by
  simp only [newlyDated, List.mem_map, List.mem_filter, Bool.and_eq_true, Bool.not_eq_true',
    List.contains_eq_mem, decide_eq_false_iff_not, List.any_eq_true]
  constructor
  · rintro ⟨type, ⟨declared, absent, holding⟩, rfl⟩
    exact ⟨absent, type, declared, rfl, holding⟩
  · rintro ⟨absent, type, declared, rfl, holding⟩
    exact ⟨type, ⟨declared, absent, holding⟩, rfl⟩

/-! ## The search ends -/

/-- The search from given names on: a round that finds no type is the last one, any other adds what
it finds. -/
inductive Settles (types : List TypeDecl) : List String → List String → Prop
  | done {dated : List String} : newlyDated types dated = [] → Settles types dated dated
  | round {dated result : List String} : newlyDated types dated ≠ [] →
      Settles types (dated ++ newlyDated types dated) result → Settles types dated result

theorem Settles.unique {types : List TypeDecl} {dated result other : List String}
    (settles : Settles types dated result) (otherwise : Settles types dated other) :
    result = other := by
  induction settles with
  | done none =>
      cases otherwise with
      | done _ => rfl
      | round some _ => exact absurd none some
  | round some _ ih =>
      cases otherwise with
      | done none => exact absurd none some
      | round _ rest => exact ih rest

/-- The types that are not found yet. -/
def undated (types : List TypeDecl) (dated : List String) : List TypeDecl :=
  types.filter fun type => !dated.contains type.name

theorem undated_append (types : List TypeDecl) (dated found : List String) :
    undated types (dated ++ found) =
      (undated types dated).filter fun type => !found.contains type.name := by
  simp only [undated, List.filter_filter, List.contains_eq_mem, List.mem_append,
    Bool.decide_or, Bool.not_or, Bool.and_comm]

/-- A round that finds a type leaves fewer of them to be found. -/
theorem undated_lt_of_found {types : List TypeDecl} {dated : List String}
    (found : newlyDated types dated ≠ []) :
    (undated types (dated ++ newlyDated types dated)).length < (undated types dated).length := by
  obtain ⟨name, isNew⟩ := List.exists_mem_of_ne_nil _ found
  obtain ⟨absent, type, declared, rfl, _⟩ := mem_newlyDated.mp isNew
  rw [undated_append, List.length_filter_lt_length_iff_exists]
  exact ⟨type, List.mem_filter.mpr ⟨declared, by simpa using absent⟩, by simpa using isNew⟩

/-- With a round for every type that is not found yet, the search ends by itself. -/
theorem settles_datedFrom {types : List TypeDecl} {rounds : Nat} {dated : List String}
    (enough : (undated types dated).length ≤ rounds) :
    Settles types dated (datedFrom types rounds dated) := by
  induction rounds generalizing dated with
  | zero =>
      refine .done ?_
      by_contra found
      have fewer := undated_lt_of_found found
      omega
  | succ rounds ih =>
      rw [datedFrom]
      by_cases found : newlyDated types dated = []
      · simp only [found, List.isEmpty_nil, if_true]
        exact .done found
      · simp only [List.isEmpty_iff, found, if_false]
        have fewer := undated_lt_of_found found
        exact .round found (ih (by omega))

theorem settles_datedTypes (schema : Schema) :
    Settles (schema.types.map (·.2)) [] (datedTypes schema) := by
  refine settles_datedFrom ?_
  have bound : (undated (schema.types.map (·.2)) []).length ≤ (schema.types.map (·.2)).length :=
    List.length_filter_le _ _
  rwa [List.length_map] at bound

/-! ## What the search finds -/

section Found

variable {schema : Schema} (canonical : schema.IsCanonical)
include canonical

/-- Every round keeps to types that hold timestamps. -/
theorem holdsTimestamp_of_newlyDated {dated : List String}
    (sound : ∀ name ∈ dated, schema.HoldsTimestamp name) {name : String}
    (found : name ∈ newlyDated (schema.types.map (·.2)) dated) : schema.HoldsTimestamp name := by
  obtain ⟨_, type, declared, rfl, field, member, holding⟩ := mem_newlyDated.mp found
  obtain ⟨⟨key, _⟩, isEntry, rfl⟩ := List.mem_map.mp declared
  have sameName := canonical.named _ isEntry
  simp only at sameName
  rw [sameName]
  rcases (holds_iff dated field).mp holding with timestamp | ⟨target, isReference, known⟩
  · exact ⟨key, .refl, _, isEntry, field, member, timestamp⟩
  · exact .of_refersTo ⟨_, isEntry, field, member, target, isReference, rfl⟩
      (sound target.name known)

/-- What the search ends with holds timestamps, if what it starts from does; and a last round finds
every declared type whose properties hold timestamps among the names that there are. -/
theorem Settles.sound_and_closed {dated result : List String}
    (settles : Settles (schema.types.map (·.2)) dated result)
    (sound : ∀ name ∈ dated, schema.HoldsTimestamp name) :
    (∀ name ∈ result, schema.HoldsTimestamp name) ∧
      newlyDated (schema.types.map (·.2)) result = [] := by
  induction settles with
  | done none => exact ⟨sound, none⟩
  | round _ _ ih =>
      refine ih fun name member => ?_
      rcases List.mem_append.mp member with before | found
      · exact sound name before
      · exact holdsTimestamp_of_newlyDated canonical sound found

/-- A declared type with a property that holds timestamps, by what was found, is itself found. -/
theorem mem_of_closed {result : List String}
    (closed : newlyDated (schema.types.map (·.2)) result = []) {name : String} {type : TypeDecl}
    (declared : (name, type) ∈ schema.types) {field : Field} (member : field ∈ type.properties)
    (holding : holds result field = true) : name ∈ result := by
  by_contra absent
  have found : name ∈ newlyDated (schema.types.map (·.2)) result :=
    mem_newlyDated.mpr ⟨absent, type, List.mem_map_of_mem declared,
      canonical.named _ declared, field, member, holding⟩
  rw [closed] at found
  exact List.not_mem_nil found

theorem mem_datedTypes_iff {name : String} :
    name ∈ datedTypes schema ↔ schema.HoldsTimestamp name := by
  obtain ⟨sound, closed⟩ := Settles.sound_and_closed canonical (settles_datedTypes schema)
    fun name member => absurd member List.not_mem_nil
  refine ⟨sound name, ?_⟩
  rintro ⟨last, chain, type, declared, field, member, timestamp⟩
  have found : last ∈ datedTypes schema :=
    mem_of_closed canonical closed declared member ((holds_iff _ field).mpr (.inl timestamp))
  -- From the end of the chain backwards, every type refers to one that is found.
  induction chain using Relation.ReflTransGen.head_induction_on with
  | refl => exact found
  | head refers _ ih =>
      obtain ⟨type, declared, field, member, target, isReference, rfl⟩ := refers
      exact mem_of_closed canonical closed declared member
        ((holds_iff _ field).mpr (.inr ⟨target, isReference, ih⟩))

theorem holds_datedTypes_iff (field : Field) :
    holds (datedTypes schema) field = true ↔ schema.FieldHoldsTimestamp field := by
  rw [holds_iff, Schema.FieldHoldsTimestamp, Schema.ValuesHoldTimestamp]
  simp only [mem_datedTypes_iff canonical]

/-- The search through a canonical schema ends, with one result, whatever its references do. A name
is in the result exactly when a chain of declared types leads from it by properties whose element
type is a reference to a type with a property whose element type is the timestamp. -/
theorem datedTypes_of_chains :
    Settles (schema.types.map (·.2)) [] (datedTypes schema) ∧
      (∀ result, Settles (schema.types.map (·.2)) [] result → result = datedTypes schema) ∧
      ∀ name, name ∈ datedTypes schema ↔
        ∃ last, Relation.ReflTransGen schema.RefersTo name last ∧ schema.HasTimestamp last :=
  ⟨settles_datedTypes schema, fun _ settles => settles.unique (settles_datedTypes schema),
    fun _ => mem_datedTypes_iff canonical⟩

end Found

/-- Two types that refer to each other, one of them with a timestamp, and a type that refers to
itself and to a type that is not declared. -/
def knot : Schema :=
  { name := "knot"
    version := "1"
    types := [
      ("loop", {
        name := "loop"
        properties := [
          { name := "self", type := .reference (.toType "loop") },
          { name := "way", type := .reference (.toType "nowhere") }] }),
      ("pet", {
        name := "pet"
        properties := [{ name := "visits", type := .primitive .array,
                         items := some (.reference (.toType "visit")) }] }),
      ("visit", {
        name := "visit"
        properties := [
          { name := "at", type := .primitive .timestamp },
          { name := "pet", type := .reference (.toType "pet") }] })] }

theorem datedTypes_knot :
    knot.IsCanonical ∧ datedTypes knot = ["visit", "pet"] ∧
      (∃ last, Relation.ReflTransGen knot.RefersTo "pet" last ∧ knot.HasTimestamp last) ∧
      ¬ ∃ last, Relation.ReflTransGen knot.RefersTo "loop" last ∧ knot.HasTimestamp last := by
  have canonical : knot.IsCanonical :=
    ⟨by decide, by decide, by decide, by decide, by decide, by decide⟩
  have found : datedTypes knot = ["visit", "pet"] := by decide
  obtain ⟨_, _, chains⟩ := datedTypes_of_chains canonical
  refine ⟨canonical, found, (chains "pet").mp (by simp [found]), fun chain => ?_⟩
  have listed := (chains "loop").mpr chain
  simp [found] at listed

end TsRevivers

end RpcSchema
