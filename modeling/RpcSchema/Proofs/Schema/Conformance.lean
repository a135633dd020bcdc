import RpcSchema.Proofs.Json.Agreement
import RpcSchema.Schema.Shape

/-!
# Values of a form, and trees with distinct keys

A value has a form when nothing in it departs from the form. What that says of the value is read
off here, form by form. A value no longer shows whether its text repeated a key; the tree still
does. Keys matter in a tree as far as its form says anything: what lies in a part of any form, such
as the default of a field, may repeat keys as it likes.
-/

namespace RpcSchema

open Json

namespace Shape

/-- A value without a violation of the form. -/
def Accepts (shape : Shape) (value : Value) : Prop := ∃ path, shape.violations path value = []

variable {value : Value}

theorem exists_bool (accepted : boolean.Accepts value) : ∃ flag, value = .bool flag := by
  obtain ⟨path, clean⟩ := accepted
  cases value with
  | bool flag => exact ⟨flag, rfl⟩
  | _ => cases clean

theorem exists_text {rule : TextRule} (accepted : (text rule).Accepts value) :
    ∃ content, value = .string content ∧ rule.issues content = [] := by
  obtain ⟨path, clean⟩ := accepted
  cases value with
  | string content =>
      rw [violations, List.map_eq_nil_iff] at clean
      exact ⟨content, rfl, clean⟩
  | _ => cases clean

theorem accepts_of_violationsByIndex {item : Shape} {path : List Step} {index : Nat}
    {items : List Value}
    (clean :
      violationsByIndex (fun path value => item.violations path value) path index items = []) :
    ∀ value ∈ items, item.Accepts value := by
  induction items generalizing index with
  | nil => exact fun value member => absurd member List.not_mem_nil
  | cons head rest ih =>
      rw [violationsByIndex, List.append_eq_nil_iff] at clean
      intro value member
      cases member with
      | head => exact ⟨_, clean.1⟩
      | tail _ inRest => exact ih clean.2 value inRest

theorem exists_items {item : Shape} (accepted : (list item).Accepts value) :
    ∃ items, value = .array items ∧ ∀ value ∈ items, item.Accepts value := by
  obtain ⟨path, clean⟩ := accepted
  cases value with
  | array items =>
      rw [violations] at clean
      exact ⟨items, rfl, accepts_of_violationsByIndex clean⟩
  | _ => cases clean

theorem exists_entries {member : Shape} (accepted : (map member).Accepts value) :
    ∃ members, value = .object members ∧ ∀ entry ∈ members, member.Accepts entry.2 := by
  obtain ⟨path, clean⟩ := accepted
  cases value with
  | object members =>
      rw [violations, List.flatMap_eq_nil_iff] at clean
      exact ⟨members, rfl, fun entry present => ⟨_, clean entry present⟩⟩
  | _ => cases clean

/-- What the form of a record says of the members of an object. -/
structure Conforms (required : List String) (known : List (String × Shape))
    (members : List (String × Value)) : Prop where
  accepted : ∀ entry ∈ known, ∀ value, members.lookup entry.1 = some value →
    entry.2.Accepts value
  closed : ∀ key ∈ members.map (·.1), key ∈ known.map (·.1)
  complete : ∀ key ∈ required, (members.lookup key).isSome

theorem accepts_of_memberViolations {path : List Step} {members : List (String × Value)}
    {known : List (String × Shape)} (clean : memberViolations path members known = []) :
    ∀ entry ∈ known, ∀ value, members.lookup entry.1 = some value → entry.2.Accepts value := by
  induction known with
  | nil => exact fun entry member => absurd member List.not_mem_nil
  | cons head rest ih =>
      obtain ⟨key, shape⟩ := head
      rw [memberViolations, List.append_eq_nil_iff] at clean
      intro entry member value found
      cases member with
      | head =>
          rw [found] at clean
          exact ⟨_, clean.1⟩
      | tail _ inRest => exact ih clean.2 entry inRest value found

theorem exists_members {required : List String} {known : List (String × Shape)}
    (accepted : (record required known).Accepts value) :
    ∃ members, value = .object members ∧ Conforms required known members := by
  obtain ⟨path, clean⟩ := accepted
  cases value with
  | object members =>
      rw [violations, List.append_eq_nil_iff, List.append_eq_nil_iff, List.map_eq_nil_iff,
        List.map_eq_nil_iff] at clean
      obtain ⟨⟨knownClean, unexpected⟩, missing⟩ := clean
      refine ⟨members, rfl, accepts_of_memberViolations knownClean, ?_, ?_⟩
      · intro key present
        -- Unknown keys are listed in one violation, which is there when one key is.
        have noUnknown : unknownKeys (known.map (·.1)) members = [] := by
          cases unknown : unknownKeys (known.map (·.1)) members with
          | nil => rfl
          | cons first others =>
              rw [unknown] at unexpected
              cases unexpected
        rw [unknownKeys, List.filter_eq_nil_iff] at noUnknown
        simpa using noUnknown key present
      · intro key needed
        rw [List.filter_eq_nil_iff] at missing
        have present := missing key needed
        cases found : members.lookup key with
        | none =>
            rw [found] at present
            exact absurd rfl present
        | some value => rfl
  | _ => cases clean

theorem exists_form {forms : List Shape} (accepted : (choice forms).Accepts value) :
    ∃ form ∈ forms, form.Accepts value := by
  obtain ⟨path, clean⟩ := accepted
  have chosen : anyAccepts value forms = true := by
    cases chosen : anyAccepts value forms with
    | true => rfl
    | false =>
        rw [violations, chosen] at clean
        cases clean
  clear clean
  induction forms with
  | nil => cases chosen
  | cons form rest ih =>
      rw [anyAccepts, Bool.or_eq_true, List.isEmpty_iff] at chosen
      cases chosen with
      | inl isFirst => exact ⟨form, List.mem_cons_self, [], isFirst⟩
      | inr isLater =>
          obtain ⟨other, member, fits⟩ := ih isLater
          exact ⟨other, List.mem_cons_of_mem _ member, fits⟩

/-! ## The forms of parts -/

/-- Whether the form says nothing of its values. -/
def isFree : Shape → Bool
  | .any => true
  | _ => false

/-- The form of the items of an array. A part that the form says nothing about has the form of no
value. -/
def item : Shape → Shape
  | .any => .any
  | .list item => item
  | _ => .choice []

/-- The form of the member of an object under a key. -/
def member (key : String) : Shape → Shape
  | .any => .any
  | .map member => member
  | .record _ known => (known.lookup key).getD (.choice [])
  | _ => .choice []

end Shape

/-! ## Distinct keys -/

namespace Json

/-- The keys of an object in the order of the text. -/
def Members.keys : Members → List String
  | .next (.ok key) _ _ _ tail => key :: tail.keys
  | .next (.error _) _ _ _ tail => tail.keys
  | _ => []

mutual
/-- Whether no object repeats a key, apart from what lies in a part of any form: the default of a
field, the value of a type's example, the input and the output of a method's example. -/
def Node.keysDistinct (shape : Shape) : Node → Bool
  | .array _ elements => elements.keysDistinct shape.item
  | .object _ members =>
    (shape.isFree || decide members.keys.Nodup) && members.keysDistinct shape
  | _ => true

def Elements.keysDistinct (item : Shape) : Elements → Bool
  | .next _ head tail => head.keysDistinct item && tail.keysDistinct item
  | _ => true

def Members.keysDistinct (shape : Shape) : Members → Bool
  | .next (.ok key) _ node _ tail =>
    node.keysDistinct (shape.member key) && tail.keysDistinct shape
  | .next (.error _) _ _ _ tail => tail.keysDistinct shape
  | _ => true
end

theorem Members.keys_eq {depth : Nat} (members : Members) {pairs : List (String × Value)}
    (valued : members.values depth = .ok pairs) : members.keys = pairs.map (·.1) := by
  cases members with
  | close place =>
      cases valued
      rfl
  | bare key place => exact absurd valued Members.values_bare
  | next key colon node follow tail =>
      obtain ⟨name, first, rest, rfl, _, tailValued, rfl⟩ := Members.values_next valued
      rw [Members.keys, List.map_cons, Members.keys_eq tail tailValued]
  | _ => cases valued

theorem Members.nodup_of_keysDistinct {shape : Shape} {start : Place} {members : Members}
    (bound : shape.isFree = false)
    (distinct : (Node.object start members).keysDistinct shape = true) :
    members.keys.Nodup ∧ members.keysDistinct shape = true := by
  rw [Node.keysDistinct, bound, Bool.false_or, Bool.and_eq_true, decide_eq_true_eq] at distinct
  exact distinct

-- Inside a choice no part is free, so its keys are distinct under any other form as well.
mutual
theorem Node.keysDistinct_of_choice {forms : List Shape} (node : Node) (shape : Shape)
    (distinct : node.keysDistinct (.choice forms) = true) : node.keysDistinct shape = true := by
  cases node with
  | array start elements =>
      rw [Node.keysDistinct] at distinct ⊢
      exact Elements.keysDistinct_of_choice elements shape.item distinct
  | object start members =>
      obtain ⟨nodup, inside⟩ := Members.nodup_of_keysDistinct rfl distinct
      rw [Node.keysDistinct, decide_eq_true nodup, Bool.or_true, Bool.true_and]
      exact Members.keysDistinct_of_choice members shape inside
  | _ => rfl

theorem Elements.keysDistinct_of_choice {forms : List Shape} (elements : Elements)
    (shape : Shape) (distinct : elements.keysDistinct (.choice forms) = true) :
    elements.keysDistinct shape = true := by
  cases elements with
  | next start head tail =>
      rw [Elements.keysDistinct, Bool.and_eq_true] at distinct ⊢
      exact ⟨Node.keysDistinct_of_choice head shape distinct.1,
        Elements.keysDistinct_of_choice tail shape distinct.2⟩
  | _ => rfl

theorem Members.keysDistinct_of_choice {forms : List Shape} (members : Members)
    (shape : Shape) (distinct : members.keysDistinct (.choice forms) = true) :
    members.keysDistinct shape = true := by
  cases members with
  | next key colon node follow tail =>
      cases key with
      | ok key =>
          rw [Members.keysDistinct, Bool.and_eq_true] at distinct ⊢
          exact ⟨Node.keysDistinct_of_choice node (shape.member key) distinct.1,
            Members.keysDistinct_of_choice tail shape distinct.2⟩
      | error fault =>
          rw [Members.keysDistinct] at distinct ⊢
          exact Members.keysDistinct_of_choice tail shape distinct
  | _ => rfl
end

end Json

end RpcSchema
