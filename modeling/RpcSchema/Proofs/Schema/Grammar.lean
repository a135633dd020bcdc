import Mathlib.Logic.Basic
import Mathlib.Tactic.MkIffOfInductiveProp
import RpcSchema.Proofs.Schema.Conformance

/-!
# The grammar of schema documents

What a document has to be like to be a schema, said of its values alone: which members an object may
have, which it must have, and what stands under each. The form that documents are checked against has
no violation in a document exactly when the document is of this grammar. Two places offer a choice
of two, and no value is both at once.
-/

namespace RpcSchema

open Json

namespace Grammar

/-! ## Texts -/

def IsLetter (c : Char) : Prop := ('a' ≤ c ∧ c ≤ 'z') ∨ ('A' ≤ c ∧ c ≤ 'Z')

def IsDigit (c : Char) : Prop := '0' ≤ c ∧ c ≤ '9'

/-- A letter, then letters, digits and underscores up to the end of the text. -/
def IsName (text : String) : Prop :=
  ∃ first rest, text.toList = first :: rest ∧ IsLetter first ∧
    ∀ c ∈ rest, IsLetter c ∨ IsDigit c ∨ c = '_'

/-- The names of the kinds of values. -/
def kinds : List String :=
  ["string", "boolean", "integer", "float", "array", "object", "timestamp"]

/-- The root of types and at least one character behind it on the same line. -/
def PointsToType (text : String) : Prop :=
  ∃ first rest, text.toList = "#/types/".toList ++ first :: rest ∧ first ≠ '\n'

/-! ## Values -/

def IsText (rule : String → Prop) (value : Value) : Prop :=
  ∃ text, value = .string text ∧ rule text

def IsAnyText : Value → Prop := IsText fun _ => True

def IsFlag (value : Value) : Prop := ∃ flag, value = .bool flag

def IsList (rule : Value → Prop) (value : Value) : Prop :=
  ∃ items, value = .array items ∧ ∀ item ∈ items, rule item

def IsObject (rule : List (String × Value) → Prop) (value : Value) : Prop :=
  ∃ members, value = .object members ∧ rule members

section Members

variable (members : List (String × Value))

/-- No member has a key beyond the given ones. -/
def KeysAmong (keys : List String) : Prop := ∀ key ∈ members.map (·.1), key ∈ keys

/-- What stands under the key follows the rule. -/
def Optional (key : String) (rule : Value → Prop) : Prop :=
  ∀ value, members.lookup key = some value → rule value

/-- Something stands under the key, and it follows the rule. -/
def Required (key : String) (rule : Value → Prop) : Prop :=
  ∃ value, members.lookup key = some value ∧ rule value

theorem required_iff {key : String} {rule : Value → Prop} :
    Required members key rule ↔
      (members.lookup key).isSome = true ∧ Optional members key rule := by
  rw [Required, Optional, Option.isSome_iff_exists]
  constructor
  · rintro ⟨value, found, follows⟩
    exact ⟨⟨value, found⟩, fun other same => Option.some.inj (found.symm.trans same) ▸ follows⟩
  · rintro ⟨⟨value, found⟩, follows⟩
    exact ⟨value, found, follows value found⟩

theorem optional_any {key : String} : Optional members key fun _ => True := fun _ _ => trivial

/-! ## Objects -/

@[mk_iff] structure ReferenceMembers : Prop where
  keys : KeysAmong members ["$ref"]
  target : Required members "$ref" (IsText PointsToType)

def IsReference : Value → Prop := IsObject ReferenceMembers

/-- The name of a kind or a reference, and not both. -/
def IsFieldType (value : Value) : Prop := Xor (IsText (· ∈ kinds) value) (IsReference value)

@[mk_iff] structure TypedItemsMembers : Prop where
  keys : KeysAmong members ["type"]
  type : Required members "type" IsFieldType

/-- An object with a type or a reference, and not both. -/
def IsItems (value : Value) : Prop := Xor (IsObject TypedItemsMembers value) (IsReference value)

@[mk_iff] structure FieldMembers : Prop where
  keys : KeysAmong members
    ["default", "description", "enum", "items", "name", "readonly", "required", "type"]
  name : Required members "name" (IsText IsName)
  type : Required members "type" IsFieldType
  description : Optional members "description" IsAnyText
  required : Optional members "required" IsFlag
  readonly : Optional members "readonly" IsFlag
  items : Optional members "items" IsItems
  enum : Optional members "enum" (IsList IsAnyText)

def IsField : Value → Prop := IsObject FieldMembers

@[mk_iff] structure TypeExampleMembers : Prop where
  keys : KeysAmong members ["description", "value"]
  description : Optional members "description" IsAnyText

@[mk_iff] structure TypeMembers : Prop where
  keys : KeysAmong members ["description", "examples", "private", "properties"]
  description : Optional members "description" IsAnyText
  isPrivate : Optional members "private" IsFlag
  properties : Optional members "properties" (IsList IsField)
  examples : Optional members "examples" (IsList (IsObject TypeExampleMembers))

@[mk_iff] structure MethodExampleMembers : Prop where
  keys : KeysAmong members ["description", "input", "name", "output"]
  name : Optional members "name" IsAnyText
  description : Optional members "description" IsAnyText

@[mk_iff] structure MethodMembers : Prop where
  keys : KeysAmong members
    ["description", "examples", "group", "inputs", "name", "outputs", "private"]
  name : Required members "name" (IsText IsName)
  description : Optional members "description" IsAnyText
  group : Optional members "group" IsAnyText
  isPrivate : Optional members "private" IsFlag
  inputs : Optional members "inputs" (IsList IsField)
  outputs : Optional members "outputs" (IsList IsField)
  examples : Optional members "examples" (IsList (IsObject MethodExampleMembers))

@[mk_iff] structure GroupMembers : Prop where
  keys : KeysAmong members ["description", "name", "summary"]
  name : Required members "name" (IsText (· ≠ ""))
  description : Optional members "description" IsAnyText
  summary : Optional members "summary" IsAnyText

@[mk_iff] structure GoMembers : Prop where
  keys : KeysAmong members ["tags"]
  tags : Optional members "tags" (IsList IsAnyText)

/-- The types are an object of any keys; all else has known keys. -/
@[mk_iff] structure SchemaMembers : Prop where
  keys : KeysAmong members
    ["description", "go", "groups", "methods", "name", "types", "version"]
  name : Required members "name" (IsText (· ≠ ""))
  version : Required members "version" IsAnyText
  description : Required members "description" IsAnyText
  groups : Required members "groups" (IsList (IsObject GroupMembers))
  methods : Required members "methods" (IsList (IsObject MethodMembers))
  types : Required members "types"
    (IsObject fun types => ∀ entry ∈ types, IsObject TypeMembers entry.2)
  go : Optional members "go" (IsObject GoMembers)

end Members

def IsSchema : Value → Prop := IsObject SchemaMembers

end Grammar

namespace Shape

open Grammar

/-! ## Having a form -/

theorem violationsByIndex_eq_nil {item : Shape} {items : List Value}
    (accepted : ∀ value ∈ items, ∀ path, item.violations path value = []) (path : List Step)
    (index : Nat) :
    violationsByIndex (fun path value => item.violations path value) path index items = [] := by
  induction items generalizing index with
  | nil => rfl
  | cons head rest ih =>
      rw [violationsByIndex, accepted head List.mem_cons_self, List.nil_append,
        ih fun value member => accepted value (List.mem_cons_of_mem _ member)]

theorem violations_record_eq_nil {required : List String} {known : List (String × Shape)}
    {members : List (String × Value)} (conforms : Conforms required known members)
    {path : List Step} (knownClean : memberViolations path members known = []) :
    (record required known).violations path (.object members) = [] := by
  have noUnknown : unknownKeys (known.map (·.1)) members = [] := by
    rw [unknownKeys, List.filter_eq_nil_iff]
    intro key present
    simpa using conforms.closed key present
  have noneMissing : (required.filter fun key => (members.lookup key).isNone) = [] := by
    rw [List.filter_eq_nil_iff]
    intro key needed
    rw [Option.isNone_iff_eq_none, ← Option.not_isSome_iff_eq_none, not_not]
    exact conforms.complete key needed
  rw [violations, knownClean, noUnknown, noneMissing]
  rfl

-- A path says where a violation is, not whether there is one.
mutual
theorem violations_eq_nil_of_accepts : ∀ (shape : Shape) {value : Value}, shape.Accepts value →
    ∀ path, shape.violations path value = []
  | .any, _, _, _ => by rw [violations]
  | .boolean, _, accepted, path => by
      obtain ⟨flag, rfl⟩ := exists_bool accepted
      rw [violations]
  | .text rule, _, accepted, path => by
      obtain ⟨content, rfl, clean⟩ := exists_text accepted
      rw [violations, clean, List.map_nil]
  | .list item, _, accepted, path => by
      obtain ⟨items, rfl, fits⟩ := exists_items accepted
      rw [violations]
      exact violationsByIndex_eq_nil
        (fun value member => violations_eq_nil_of_accepts item (fits value member)) path 0
  | .map member, _, accepted, path => by
      obtain ⟨members, rfl, fits⟩ := exists_entries accepted
      rw [violations, List.flatMap_eq_nil_iff]
      exact fun entry present => violations_eq_nil_of_accepts member (fits entry present) _
  | .record required known, _, accepted, path => by
      obtain ⟨members, rfl, conforms⟩ := exists_members accepted
      exact violations_record_eq_nil conforms
        (memberViolations_eq_nil_of_accepts known conforms.accepted path)
  | .choice forms, value, accepted, path => by
      obtain ⟨before, clean⟩ := accepted
      rw [violations] at clean ⊢
      split at clean
      · next chosen => rw [if_pos chosen]
      · cases clean

theorem memberViolations_eq_nil_of_accepts : ∀ (known : List (String × Shape))
    {members : List (String × Value)},
    (∀ entry ∈ known, ∀ value, members.lookup entry.1 = some value → entry.2.Accepts value) →
      ∀ path, memberViolations path members known = []
  | [], _, _, _ => by rw [memberViolations]
  | (key, shape) :: rest, members, accepted, path => by
      rw [memberViolations, memberViolations_eq_nil_of_accepts rest
        fun entry member => accepted entry (List.mem_cons_of_mem _ member)]
      cases found : members.lookup key with
      | none => rfl
      | some value =>
          have fits : shape.Accepts value := accepted (key, shape) List.mem_cons_self value found
          rw [List.append_nil]
          exact violations_eq_nil_of_accepts shape fits _
end

theorem accepts_any : any.Accepts = fun _ => True :=
  funext fun _ => eq_true ⟨[], by rw [violations]⟩

theorem accepts_boolean : boolean.Accepts = IsFlag := by
  refine funext fun value => propext ⟨exists_bool, ?_⟩
  rintro ⟨flag, rfl⟩
  exact ⟨[], by rw [violations]⟩

theorem accepts_text (rule : TextRule) : (text rule).Accepts = IsText (rule.holds · = true) := by
  have clean_iff : ∀ text, rule.issues text = [] ↔ rule.holds text = true := by
    intro text
    unfold TextRule.issues
    cases kept : rule.holds text with
    | true => simp
    | false =>
        rw [if_neg Bool.false_ne_true]
        cases rule with
        | any => cases kept
        | _ => simp
  refine funext fun value => propext ⟨fun accepted => ?_, ?_⟩
  · obtain ⟨content, rfl, clean⟩ := exists_text accepted
    exact ⟨content, rfl, (clean_iff content).mp clean⟩
  · rintro ⟨content, rfl, follows⟩
    exact ⟨[], by rw [violations, (clean_iff content).mpr follows, List.map_nil]⟩

theorem accepts_list (item : Shape) : (list item).Accepts = IsList item.Accepts := by
  refine funext fun value => propext ⟨exists_items, ?_⟩
  rintro ⟨items, rfl, fits⟩
  refine ⟨[], ?_⟩
  rw [violations]
  exact violationsByIndex_eq_nil
    (fun value member => violations_eq_nil_of_accepts item (fits value member)) [] 0

theorem accepts_map (member : Shape) :
    (map member).Accepts = IsObject fun members => ∀ entry ∈ members, member.Accepts entry.2 := by
  refine funext fun value => propext ⟨exists_entries, ?_⟩
  rintro ⟨members, rfl, fits⟩
  refine ⟨[], ?_⟩
  rw [violations, List.flatMap_eq_nil_iff]
  exact fun entry present => violations_eq_nil_of_accepts member (fits entry present) _

theorem accepts_record (required : List String) (known : List (String × Shape)) :
    (record required known).Accepts = IsObject fun members =>
      KeysAmong members (known.map (·.1)) ∧
        (∀ key ∈ required, (members.lookup key).isSome = true) ∧
        ∀ entry ∈ known, Optional members entry.1 entry.2.Accepts := by
  refine funext fun value => propext ⟨fun accepted => ?_, ?_⟩
  · obtain ⟨members, rfl, conforms⟩ := exists_members accepted
    exact ⟨members, rfl, conforms.closed, conforms.complete, conforms.accepted⟩
  · rintro ⟨members, rfl, closed, complete, accepted⟩
    exact ⟨[], violations_record_eq_nil ⟨accepted, closed, complete⟩
      (memberViolations_eq_nil_of_accepts known accepted [])⟩

theorem accepts_record_eq {required : List String} {known : List (String × Shape)}
    {rule : List (String × Value) → Prop}
    (agree : ∀ members, (KeysAmong members (known.map (·.1)) ∧
      (∀ key ∈ required, (members.lookup key).isSome = true) ∧
      ∀ entry ∈ known, Optional members entry.1 entry.2.Accepts) ↔ rule members) :
    (record required known).Accepts = IsObject rule := by
  rw [accepts_record]
  exact congrArg IsObject (funext fun members => propext (agree members))

/-- A choice of two that no value has both of. -/
theorem accepts_choice {first second : Shape}
    (exclusive : ∀ value, first.Accepts value → ¬second.Accepts value) :
    (choice [first, second]).Accepts = fun value =>
      Xor (first.Accepts value) (second.Accepts value) := by
  refine funext fun value => propext ⟨fun accepted => ?_, fun accepted => ⟨[], ?_⟩⟩
  · obtain ⟨form, member, fits⟩ := exists_form accepted
    simp only [List.mem_cons, List.not_mem_nil, or_false] at member
    rcases member with rfl | rfl
    · exact .inl ⟨fits, exclusive value fits⟩
    · exact .inr ⟨fits, fun isFirst => exclusive value isFirst fits⟩
  · have chosen : anyAccepts value [first, second] = true := by
      rw [anyAccepts, anyAccepts, Bool.or_eq_true, Bool.or_eq_true, List.isEmpty_iff,
        List.isEmpty_iff]
      rcases accepted with ⟨fits, _⟩ | ⟨fits, _⟩
      · exact .inl (violations_eq_nil_of_accepts first fits [])
      · exact .inr (.inl (violations_eq_nil_of_accepts second fits []))
    rw [violations, if_pos chosen]

/-! ## Texts under a rule -/

theorem holds_any : (TextRule.any.holds · = true) = fun _ => True :=
  funext fun _ => eq_true rfl

theorem holds_nonempty : (TextRule.nonempty.holds · = true) = (· ≠ "") :=
  funext fun text => propext (by simp [TextRule.holds])

theorem holds_identifier : (TextRule.identifier.holds · = true) = IsName := by
  refine funext fun text => propext ?_
  rw [TextRule.holds, isIdentifier, IsName]
  cases text.toList with
  | nil => simp
  | cons first rest =>
      simp [isIdentifierStart, isIdentifierPart, Text.isAsciiLower, Text.isAsciiUpper,
        Text.isAsciiDigit, IsLetter, IsDigit, or_assoc]

theorem holds_kind : (TextRule.kind.holds · = true) = (· ∈ kinds) := by
  have named : ∀ kind ∈ Kind.all, kind.name ∈ kinds := by decide
  have isNamed : ∀ name ∈ kinds, ∃ kind ∈ Kind.all, kind.name = name := by decide
  refine funext fun text => propext ?_
  rw [TextRule.holds, Kind.ofName?, List.find?_isSome]
  constructor
  · rintro ⟨kind, listed, same⟩
    exact eq_of_beq same ▸ named kind listed
  · intro listed
    obtain ⟨kind, isKind, same⟩ := isNamed text listed
    exact ⟨kind, isKind, beq_iff_eq.mpr same⟩

theorem holds_reference : (TextRule.reference.holds · = true) = PointsToType := by
  have root : TypeRef.root.toList = "#/types/".toList := rfl
  refine funext fun text => propext ?_
  rw [TextRule.holds, isTypeReference, PointsToType, Bool.and_eq_true, List.isPrefixOf_iff_prefix]
  constructor
  · rintro ⟨⟨rest, spelled⟩, goesOn⟩
    rw [← spelled, ← String.length_toList, List.drop_left] at goesOn
    cases rest with
    | nil => cases goesOn
    | cons first rest => exact ⟨first, rest, spelled.symm, by simpa using goesOn⟩
  · rintro ⟨first, rest, spelled, sameLine⟩
    rw [← root] at spelled
    rw [spelled, ← String.length_toList, List.drop_left]
    exact ⟨List.prefix_append _ _, by simpa using sameLine⟩

/-! ## The forms of schemas -/

theorem accepts_anyText : anyText.Accepts = IsAnyText := by
  rw [anyText, accepts_text, holds_any]
  rfl

theorem accepts_reference : reference.Accepts = IsReference :=
  accepts_record_eq fun members => by
    simp [referenceMembers_iff, required_iff, accepts_text, holds_reference]

theorem accepts_fieldType : fieldType.Accepts = IsFieldType := by
  rw [fieldType, accepts_choice, accepts_text, holds_kind, accepts_reference]
  · rfl
  · rw [accepts_text, accepts_reference]
    rintro value ⟨text, rfl, _⟩ ⟨members, isObject, _⟩
    cases isObject

theorem accepts_typedItems :
    (record ["type"] [("type", fieldType)]).Accepts = IsObject TypedItemsMembers :=
  accepts_record_eq fun members => by
    simp [typedItemsMembers_iff, required_iff, accepts_fieldType]

/-- An object with a type has a key that no reference may have. -/
theorem not_isReference_of_typedItems {value : Value} (typed : IsObject TypedItemsMembers value) :
    ¬IsReference value := by
  obtain ⟨members, rfl, typed⟩ := typed
  rintro ⟨same, isObject, refers⟩
  cases isObject
  obtain ⟨type, found, _⟩ := typed.type
  have present : "type" ∈ members.map (·.1) :=
    List.mem_map_of_mem (mem_of_lookup_eq_some found)
  have isKnown := refers.keys "type" present
  simp at isKnown

theorem accepts_items : items.Accepts = IsItems := by
  rw [items, accepts_choice, accepts_typedItems, accepts_reference]
  · rfl
  · rw [accepts_typedItems, accepts_reference]
    exact fun value => not_isReference_of_typedItems

theorem accepts_field : field.Accepts = Grammar.IsField :=
  accepts_record_eq fun members => by
    simp only [fieldMembers_iff, required_iff, accepts_any, accepts_anyText, accepts_boolean,
      accepts_list, accepts_items, accepts_fieldType, accepts_text, holds_identifier, optional_any,
      List.map_cons, List.map_nil, List.forall_mem_cons, List.not_mem_nil, false_implies,
      implies_true]
    tauto

theorem accepts_typeExample : typeExample.Accepts = IsObject TypeExampleMembers :=
  accepts_record_eq fun members => by
    simp only [typeExampleMembers_iff, accepts_any, accepts_anyText, optional_any, List.map_cons,
      List.map_nil, List.forall_mem_cons, List.not_mem_nil, false_implies, implies_true]
    tauto

theorem accepts_type : type.Accepts = IsObject TypeMembers :=
  accepts_record_eq fun members => by
    simp only [typeMembers_iff, accepts_anyText, accepts_boolean, accepts_list, accepts_field,
      accepts_typeExample, List.map_cons, List.map_nil, List.forall_mem_cons, List.not_mem_nil,
      false_implies, implies_true]
    tauto

theorem accepts_methodExample : methodExample.Accepts = IsObject MethodExampleMembers :=
  accepts_record_eq fun members => by
    simp only [methodExampleMembers_iff, accepts_any, accepts_anyText, optional_any, List.map_cons,
      List.map_nil, List.forall_mem_cons, List.not_mem_nil, false_implies, implies_true]
    tauto

theorem accepts_method : method.Accepts = IsObject MethodMembers :=
  accepts_record_eq fun members => by
    simp only [methodMembers_iff, required_iff, accepts_anyText, accepts_boolean, accepts_list,
      accepts_field, accepts_methodExample, accepts_text, holds_identifier, List.map_cons,
      List.map_nil, List.forall_mem_cons, List.not_mem_nil, false_implies, implies_true]
    tauto

theorem accepts_group : group.Accepts = IsObject GroupMembers :=
  accepts_record_eq fun members => by
    simp only [groupMembers_iff, required_iff, accepts_anyText, accepts_text, holds_nonempty,
      List.map_cons, List.map_nil, List.forall_mem_cons, List.not_mem_nil, false_implies,
      implies_true]
    tauto

theorem accepts_go : go.Accepts = IsObject GoMembers :=
  accepts_record_eq fun members => by
    simp only [goMembers_iff, accepts_anyText, accepts_list, List.map_cons, List.map_nil,
      List.forall_mem_cons, List.not_mem_nil, false_implies, implies_true]
    tauto

theorem accepts_schema : schema.Accepts = IsSchema :=
  accepts_record_eq fun members => by
    simp only [schemaMembers_iff, required_iff, accepts_anyText, accepts_list, accepts_map,
      accepts_go, accepts_group, accepts_method, accepts_type, accepts_text, holds_nonempty,
      List.map_cons, List.map_nil, List.forall_mem_cons, List.not_mem_nil, false_implies,
      implies_true]
    tauto

end Shape

/-- A document has no violation exactly when it is of the grammar of schemas. -/
theorem structuralViolations_eq_nil_iff (document : Value) :
    structuralViolations document = [] ↔ Grammar.IsSchema document := by
  rw [← Shape.accepts_schema, structuralViolations]
  exact ⟨fun clean => ⟨[], clean⟩,
    fun accepted => Shape.violations_eq_nil_of_accepts Shape.schema accepted []⟩

end RpcSchema
