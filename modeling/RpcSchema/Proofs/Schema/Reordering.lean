import Mathlib.Data.List.Forall2
import Mathlib.Data.List.Nodup
import RpcSchema.CommandLine.Run
import RpcSchema.Proofs.Schema.Loading
import RpcSchema.Target

/-!
# Declaration order

Two schemas may declare the same groups, methods, properties, inputs and outputs in different
orders. As long as no name is declared twice in one list, sorting by name leaves one arrangement of
each list, so both have the same canonical form. A loaded schema is a canonical form: nothing that
comes after loading can tell the two apart.
-/

namespace RpcSchema

/-! ## Sorting by name -/

theorem sortByName_perm {α : Type} (name : α → String) (items : List α) :
    (sortByName name items).Perm items :=
  List.mergeSort_perm items _

theorem decide_name_trans {α : Type} (name : α → String) (first second third : α)
    (below : decide (name first ≤ name second) = true)
    (above : decide (name second ≤ name third) = true) :
    decide (name first ≤ name third) = true := by
  rw [decide_eq_true_eq] at below above ⊢
  exact String.le_trans below above

theorem decide_name_total {α : Type} (name : α → String) (first second : α) :
    (decide (name first ≤ name second) || decide (name second ≤ name first)) = true := by
  simpa using String.le_total (name first) (name second)

theorem pairwise_sortByName {α : Type} (name : α → String) (items : List α) :
    (sortByName name items).Pairwise fun first second => name first ≤ name second := by
  have sorted := List.pairwise_mergeSort (decide_name_trans name) (decide_name_total name) items
  exact sorted.imp fun ordered => of_decide_eq_true ordered

/-- Lists of distinctly named items that are permutations of each other have one sorted form. -/
theorem sortByName_eq_of_perm {α : Type} {name : α → String} {items others : List α}
    (distinct : (items.map name).Nodup) (reordered : items.Perm others) :
    sortByName name items = sortByName name others := by
  have sameItems : (sortByName name items).Perm (sortByName name others) :=
    (sortByName_perm name items).trans (reordered.trans (sortByName_perm name others).symm)
  refine sameItems.eq_of_pairwise ?_ (pairwise_sortByName name items)
    (pairwise_sortByName name others)
  intro first second inFirst inSecond below above
  have firstMember := (sortByName_perm name items).mem_iff.mp inFirst
  have secondMember := reordered.mem_iff.mpr ((sortByName_perm name others).mem_iff.mp inSecond)
  exact List.inj_on_of_nodup_map distinct firstMember secondMember
    (String.le_antisymm below above)

/-! ## Reordered declarations -/

/-- The same method, but for the order of its inputs and the order of its outputs. -/
structure Method.Reordered (method other : Method) : Prop where
  inputs : method.inputs.Perm other.inputs
  outputs : method.outputs.Perm other.outputs
  rest : { other with inputs := method.inputs, outputs := method.outputs } = method

/-- The same type, but for the order of its properties. -/
structure TypeDecl.Reordered (type other : TypeDecl) : Prop where
  properties : type.properties.Perm other.properties
  rest : { other with properties := type.properties } = type

/-- The same schema, but for the order of every list of named declarations. A method that moves may
have its inputs and outputs reordered as well. -/
structure Schema.Reordered (schema other : Schema) : Prop where
  groups : schema.groups.Perm other.groups
  methods : ∃ moved, schema.methods.Perm moved ∧
    List.Forall₂ Method.Reordered moved other.methods
  types : List.Forall₂ (fun entry renewed => entry.1 = renewed.1 ∧ entry.2.Reordered renewed.2)
    schema.types other.types
  rest : { other with
    groups := schema.groups, methods := schema.methods, types := schema.types } = schema

structure Method.NamesDistinct (method : Method) : Prop where
  inputs : (method.inputs.map Field.name).Nodup
  outputs : (method.outputs.map Field.name).Nodup

/-- No list of named declarations has a name twice. -/
structure Schema.NamesDistinct (schema : Schema) : Prop where
  groups : (schema.groups.map Group.name).Nodup
  methods : (schema.methods.map Method.name).Nodup
  ofMethods : ∀ method ∈ schema.methods, method.NamesDistinct
  properties : ∀ entry ∈ schema.types, (entry.2.properties.map Field.name).Nodup

theorem Method.Reordered.canonicalize_eq {method other : Method}
    (reordered : method.Reordered other) (distinct : method.NamesDistinct) :
    method.canonicalize = other.canonicalize := by
  rw [← reordered.rest, Method.canonicalize, Method.canonicalize,
    sortByName_eq_of_perm distinct.inputs reordered.inputs,
    sortByName_eq_of_perm distinct.outputs reordered.outputs]

theorem TypeDecl.Reordered.canonicalize_eq {type other : TypeDecl}
    (reordered : type.Reordered other) (distinct : (type.properties.map Field.name).Nodup)
    (key : String) : type.canonicalize key = other.canonicalize key := by
  rw [← reordered.rest, TypeDecl.canonicalize, TypeDecl.canonicalize,
    sortByName_eq_of_perm distinct reordered.properties]

theorem map_canonicalize_methods {methods others : List Method}
    (reordered : List.Forall₂ Method.Reordered methods others)
    (distinct : ∀ method ∈ methods, method.NamesDistinct) :
    methods.map Method.canonicalize = others.map Method.canonicalize := by
  induction reordered with
  | nil => rfl
  | cons head _ ih =>
      rw [List.map_cons, List.map_cons,
        head.canonicalize_eq (distinct _ List.mem_cons_self),
        ih fun method member => distinct method (List.mem_cons_of_mem _ member)]

theorem map_canonicalize_types {types others : List (String × TypeDecl)}
    (reordered : List.Forall₂ (fun entry renewed =>
      entry.1 = renewed.1 ∧ entry.2.Reordered renewed.2) types others)
    (distinct : ∀ entry ∈ types, (entry.2.properties.map Field.name).Nodup) :
    (types.map fun (key, type) => (key, type.canonicalize key)) =
      others.map fun (key, type) => (key, type.canonicalize key) := by
  induction reordered with
  | nil => rfl
  | @cons entry renewed _ _ head _ ih =>
      obtain ⟨sameKey, sameType⟩ := head
      have sameHead := sameType.canonicalize_eq (distinct entry List.mem_cons_self) entry.1
      rw [List.map_cons, List.map_cons,
        ih fun entry member => distinct entry (List.mem_cons_of_mem _ member)]
      change (entry.1, entry.2.canonicalize entry.1) :: _ =
        (renewed.1, renewed.2.canonicalize renewed.1) :: _
      rw [sameHead, sameKey]

theorem Schema.Reordered.canonicalize_methods {schema other : Schema}
    (reordered : schema.Reordered other) (distinct : schema.NamesDistinct) :
    sortByName Method.name (schema.methods.map Method.canonicalize) =
      sortByName Method.name (other.methods.map Method.canonicalize) := by
  obtain ⟨moved, permuted, changed⟩ := reordered.methods
  have sameMethods : (schema.methods.map Method.canonicalize).Perm
      (other.methods.map Method.canonicalize) := by
    rw [← map_canonicalize_methods changed fun method member =>
      distinct.ofMethods method (permuted.mem_iff.mpr member)]
    exact permuted.map Method.canonicalize
  refine sortByName_eq_of_perm ?_ sameMethods
  -- A canonical method keeps its name.
  have sameNames : (schema.methods.map Method.canonicalize).map Method.name =
      schema.methods.map Method.name := by
    rw [List.map_map]
    rfl
  rw [sameNames]
  exact distinct.methods

theorem Schema.Reordered.canonicalize_eq {schema other : Schema}
    (reordered : schema.Reordered other) (distinct : schema.NamesDistinct) :
    schema.canonicalize = other.canonicalize := by
  have sameMethods := reordered.canonicalize_methods distinct
  have sameGroups := sortByName_eq_of_perm distinct.groups reordered.groups
  have sameTypes := map_canonicalize_types reordered.types distinct.properties
  calc
    schema.canonicalize = { schema with
        groups := sortByName Group.name other.groups
        methods := sortByName Method.name (other.methods.map Method.canonicalize)
        types := other.types.map fun (key, type) => (key, type.canonicalize key) } := by
      rw [← sameGroups, ← sameMethods, ← sameTypes, Schema.canonicalize]
    _ = other.canonicalize := by
      rw [← reordered.rest, Schema.canonicalize]

/-! ## From the file to the output -/

/-- A file whose document has the form of a schema and decodes to the given one. -/
def Schema.WrittenIn (schema : Schema) (content : ByteArray) : Prop :=
  ∃ text document, String.fromUTF8? content = some text ∧
    Json.Value.ofText text = .ok document ∧ structuralViolations document = [] ∧
    Schema.ofText text = .ok schema

theorem Schema.WrittenIn.loadFile_eq {schema : Schema} {content : ByteArray}
    (written : schema.WrittenIn content) (path : String) :
    loadFile path (some content) = .ok schema.canonicalize := by
  obtain ⟨text, document, isText, parsed, clean, decoded⟩ := written
  rw [loadFile, Option.bind_some, isText]
  exact load_eq parsed clean decoded

/-- The order of groups, of methods, of the properties of a type and of the inputs and outputs of a
method is lost in the canonical form, and so in all remarks, in all generated files and in whatever
a command makes of a file. -/
theorem canonicalize_eq_of_reordered {schema other : Schema}
    (reordered : schema.Reordered other) (distinct : schema.NamesDistinct) :
    schema.canonicalize = other.canonicalize ∧
      (∀ pipeline : Pipeline,
        pipeline.run schema.canonicalize = pipeline.run other.canonicalize) ∧
      (∀ target : Target,
        target.backend.generate schema.canonicalize =
          target.backend.generate other.canonicalize) ∧
      ∀ content otherContent, schema.WrittenIn content → other.WrittenIn otherContent →
        ∀ command : CommandLine.Command,
          command.plan (some content) = command.plan (some otherContent) := by
  have same := reordered.canonicalize_eq distinct
  refine ⟨same, fun pipeline => by rw [same], fun target => by rw [same], ?_⟩
  intro content otherContent written otherWritten command
  have sameLoad : ∀ source : CommandLine.SchemaSource,
      source.load (some content) = source.load (some otherContent) := by
    intro source
    rw [CommandLine.SchemaSource.load, CommandLine.SchemaSource.load,
      written.loadFile_eq, otherWritten.loadFile_eq, same]
  cases command with
  | version => rfl
  | check source =>
      rw [CommandLine.Command.plan, CommandLine.Command.plan, sameLoad source]
  | generate source output backend =>
      rw [CommandLine.Command.plan, CommandLine.Command.plan, sameLoad source]

/-- Methods that trade places, one of them with its inputs the other way round, and a type with its
properties the other way round. -/
theorem canonicalize_eq_of_trade :
    let id : Field := { name := "id", type := .primitive .string }
    let age : Field := { name := "age", type := .primitive .integer }
    let schema : Schema :=
      { name := "kennel"
        version := "1"
        methods := [{ name := "get", inputs := [id, age] }, { name := "add" }]
        types := [("pet", { properties := [id, age] })] }
    let other : Schema :=
      { name := "kennel"
        version := "1"
        methods := [{ name := "add" }, { name := "get", inputs := [age, id] }]
        types := [("pet", { properties := [age, id] })] }
    schema.NamesDistinct ∧ schema.Reordered other ∧
      schema.canonicalize = other.canonicalize := by
  intro id age schema other
  have distinct : schema.NamesDistinct := by
    refine ⟨by decide, by decide, ?_, by decide⟩
    intro method member
    exact ⟨by revert method; decide, by revert method; decide⟩
  have reordered : schema.Reordered other := by
    refine ⟨.refl _, ⟨_, .swap _ _ _, ?_⟩, ?_, rfl⟩
    · exact .cons ⟨.refl _, .refl _, rfl⟩ (.cons ⟨.swap _ _ _, .refl _, rfl⟩ .nil)
    · exact .cons ⟨rfl, .swap _ _ _, rfl⟩ .nil
  exact ⟨distinct, reordered, (canonicalize_eq_of_reordered reordered distinct).1⟩

end RpcSchema
