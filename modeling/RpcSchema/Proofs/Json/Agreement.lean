import RpcSchema.Json.Decoding
import RpcSchema.Proofs.Json.Members

/-!
# Decoders and values

A decoder goes through the tree of a text on its own, by rules of its own on order, absence and
repetition. It agrees with a reading of values when whatever it decodes is what the reading makes
of the value of the same tree. The decoders of scalars, lists, maps and records agree with readings
that know nothing of trees.
-/

namespace RpcSchema.Json

theorem exists_of_bind_eq_ok {ε α β : Type} {answer : Except ε α} {next : α → Except ε β}
    {result : β} (done : answer >>= next = .ok result) :
    ∃ value, answer = .ok value ∧ next value = .ok result := by
  cases answer with
  | error fault => cases done
  | ok value => exact ⟨value, rfl, done⟩

theorem bind_of_eq_ok {ε α β : Type} {answer : Except ε α} {next : α → Except ε β} {value : α}
    (done : answer = .ok value) : answer >>= next = next value := by
  rw [done]
  rfl

theorem exists_of_map_eq_ok {ε α β : Type} {answer : Except ε α} {change : α → β} {result : β}
    (done : answer.map change = .ok result) :
    ∃ value, answer = .ok value ∧ change value = result := by
  cases answer with
  | error fault => cases done
  | ok value => exact ⟨value, rfl, Except.ok.inj done⟩

/-! ## The values of trees -/

section Nodes

variable {depth : Nat} {value : Value}

/-- How the value of a tree comes about. -/
inductive Node.Reads (depth : Nat) : Node → Value → Prop
  | null (stop : Position) : Reads depth (.word none stop) .null
  | bool (flag : Bool) (stop : Position) : Reads depth (.word (some flag) stop) (.bool flag)
  | number (number : Number) (stop : Position) :
      Reads depth (.number (.ok number) stop) (.number number)
  | string (text : String) (stop : Position) :
      Reads depth (.string (.ok text) stop) (.string text)
  | array {start : Place} {elements : Elements} {inner : Nat} {items : List Value}
      (entered : enter depth start = .ok inner) (read : elements.values inner = .ok items) :
      Reads depth (.array start elements) (.array items)
  | object {start : Place} {members : Members} {inner : Nat} {pairs : List (String × Value)}
      (entered : enter depth start = .ok inner) (read : members.values inner = .ok pairs) :
      Reads depth (.object start members) (.object (orderMembers pairs))

theorem Node.reads {node : Node} (valued : node.value depth = .ok value) :
    node.Reads depth value := by
  cases node with
  | word word stop =>
      cases word with
      | none =>
          cases valued
          exact .null stop
      | some flag =>
          cases valued
          exact .bool flag stop
  | number number stop =>
      obtain ⟨read, rfl, rfl⟩ := exists_of_map_eq_ok valued
      exact .number read stop
  | string text stop =>
      obtain ⟨read, rfl, rfl⟩ := exists_of_map_eq_ok valued
      exact .string read stop
  | array start elements =>
      rw [Node.value] at valued
      obtain ⟨inner, entered, valued⟩ := exists_of_bind_eq_ok valued
      obtain ⟨items, read, valued⟩ := exists_of_bind_eq_ok valued
      cases valued
      exact .array entered read
  | object start members =>
      rw [Node.value] at valued
      obtain ⟨inner, entered, valued⟩ := exists_of_bind_eq_ok valued
      obtain ⟨pairs, read, valued⟩ := exists_of_bind_eq_ok valued
      cases valued
      exact .object entered read
  | absent place => cases valued
  | broken taken passed => cases valued

theorem Elements.values_next {start : Place} {head : Node} {tail : Elements}
    {items : List Value} (valued : (Elements.next start head tail).values depth = .ok items) :
    start.next ≠ some ']' ∧ ∃ first rest, head.value depth = .ok first ∧
      tail.values depth = .ok rest ∧ items = first :: rest := by
  rw [Elements.values] at valued
  split at valued
  · cases valued
  · rename_i isElement
    obtain ⟨first, headValued, valued⟩ := exists_of_bind_eq_ok valued
    obtain ⟨rest, tailValued, valued⟩ := exists_of_bind_eq_ok valued
    exact ⟨isElement, first, rest, headValued, tailValued, (Except.ok.inj valued).symm⟩

theorem Members.values_next {key : Except Fault String} {colon follow : Place} {node : Node}
    {tail : Members} {pairs : List (String × Value)}
    (valued : (Members.next key colon node follow tail).values depth = .ok pairs) :
    ∃ name first rest, key = .ok name ∧ node.value depth = .ok first ∧
      tail.values depth = .ok rest ∧ pairs = (name, first) :: rest := by
  rw [Members.values] at valued
  obtain ⟨name, isName, valued⟩ := exists_of_bind_eq_ok valued
  obtain ⟨first, headValued, valued⟩ := exists_of_bind_eq_ok valued
  obtain ⟨rest, tailValued, valued⟩ := exists_of_bind_eq_ok valued
  exact ⟨name, first, rest, isName, headValued, tailValued, (Except.ok.inj valued).symm⟩

/-- Only the closing brace ends members that can be read. -/
theorem Members.values_bare {key : Except Fault String} {place : Place}
    {pairs : List (String × Value)} :
    (Members.bare key place).values depth ≠ .ok pairs := by
  intro valued
  rw [Members.values] at valued
  obtain ⟨name, isName, valued⟩ := exists_of_bind_eq_ok valued
  cases valued

end Nodes

/-- Where a document may end depends on its text only, not on how its tree is decoded. -/
theorem Document.decode_eq_ok_iff {α : Type} {document : Document} {decode : Decoder α}
    {result : α} :
    document.decode decode = .ok result ↔
      decode maxDepth document.root = .ok result ∧
        ∀ place, document.follow = some place → place.next = none := by
  rw [Document.decode]
  constructor
  · intro decoded
    obtain ⟨read, rootDecoded, ended⟩ := exists_of_bind_eq_ok decoded
    cases follow : document.follow with
    | none =>
        rw [follow] at ended
        cases ended
        exact ⟨rootDecoded, fun place isPlace => nomatch isPlace⟩
    | some place =>
        rw [follow] at ended
        cases next : place.next with
        | none =>
            simp only [next] at ended
            cases ended
            refine ⟨rootDecoded, fun other isPlace => ?_⟩
            cases isPlace
            exact next
        | some c =>
            simp only [next] at ended
            cases ended
  · rintro ⟨rootDecoded, ended⟩
    rw [bind_of_eq_ok rootDecoded]
    cases follow : document.follow with
    | none => rfl
    | some place =>
        simp only [ended place follow]
        rfl

/-! ## Readings -/

namespace Value

variable {α : Type}

def asString : Value → String
  | .string text => text
  | _ => ""

def asBool : Value → Bool
  | .bool value => value
  | _ => false

/-- A null is the absence of a value. -/
def asOptional (reading : Value → α) : Value → Option α
  | .null => none
  | value => some (reading value)

def asList (reading : Value → α) : Value → List α
  | .array items => items.map reading
  | _ => []

def asMap (reading : Value → α) : Value → List (String × α)
  | .object members => members.map fun member => (member.1, reading member.2)
  | _ => []

end Value

namespace Decoder

/-- Whatever is decoded from a tree is read off the value of the tree. -/
def Agrees {α : Type} (decode : Decoder α) (reading : Value → α) : Prop :=
  ∀ ⦃depth : Nat⦄ ⦃node : Node⦄ ⦃value : Value⦄ ⦃result : α⦄,
    node.value depth = .ok value → decode depth node = .ok result → result = reading value

theorem value_agrees : Decoder.value.Agrees id := by
  intro depth node value result valued decoded
  exact Except.ok.inj (decoded.symm.trans valued)

theorem string_agrees : Decoder.string.Agrees Value.asString := by
  intro depth node value result valued decoded
  cases Node.reads valued with
  | string text stop => exact (Except.ok.inj decoded).symm
  | _ => cases decoded

theorem bool_agrees : Decoder.bool.Agrees Value.asBool := by
  intro depth node value result valued decoded
  cases Node.reads valued with
  | bool flag stop => exact (Except.ok.inj decoded).symm
  | _ => cases decoded

variable {α : Type} {decode : Decoder α} {reading : Value → α}

theorem optional_of_ne_null {depth : Nat} {node : Node} {value : Value}
    (valued : node.value depth = .ok value) (notNull : value ≠ .null) :
    Decoder.optional decode depth node = (decode depth node).map some := by
  cases Node.reads valued with
  | null stop => exact absurd rfl notNull
  | _ => rfl

theorem Agrees.optional (agrees : decode.Agrees reading) :
    (Decoder.optional decode).Agrees (Value.asOptional reading) := by
  intro depth node value result valued decoded
  by_cases isNull : value = .null
  · subst isNull
    cases Node.reads valued with
    | null stop => exact (Except.ok.inj decoded).symm
  · rw [optional_of_ne_null valued isNull] at decoded
    obtain ⟨read, isRead, rfl⟩ := exists_of_map_eq_ok decoded
    rw [agrees valued isRead]
    cases value with
    | null => exact absurd rfl isNull
    | _ => rfl

theorem Agrees.elements (agrees : decode.Agrees reading) {depth : Nat} (elements : Elements)
    {items : List Value} {results : List α} (valued : elements.values depth = .ok items)
    (decoded : Decoder.elements decode depth elements = .ok results) :
    results = items.map reading := by
  cases elements with
  | close place =>
      cases valued
      cases decoded
      rfl
  | cut place => cases valued
  | next start head tail =>
      obtain ⟨isElement, first, rest, headValued, tailValued, rfl⟩ :=
        Elements.values_next valued
      rw [Decoder.elements, if_neg isElement] at decoded
      obtain ⟨item, headDecoded, decoded⟩ := exists_of_bind_eq_ok decoded
      obtain ⟨others, tailDecoded, decoded⟩ := exists_of_bind_eq_ok decoded
      cases decoded
      rw [List.map_cons, agrees headValued headDecoded,
        agrees.elements tail tailValued tailDecoded]

theorem Agrees.list (agrees : decode.Agrees reading) :
    (Decoder.list decode).Agrees (Value.asList reading) := by
  intro depth node value result valued decoded
  cases Node.reads valued with
  | @array start elements inner items entered read =>
      rw [Decoder.list, entered] at decoded
      exact agrees.elements elements read decoded
  | _ => cases decoded

theorem Agrees.members (agrees : decode.Agrees reading) {depth : Nat} (members : Members)
    {pairs : List (String × Value)} {results : List (String × α)}
    (valued : members.values depth = .ok pairs)
    (decoded : Decoder.members decode depth members = .ok results) :
    results = pairs.map fun member => (member.1, reading member.2) := by
  cases members with
  | close place =>
      cases valued
      cases decoded
      rfl
  | bare key place => exact absurd valued Members.values_bare
  | next key colon node follow tail =>
      obtain ⟨name, first, rest, rfl, headValued, tailValued, rfl⟩ :=
        Members.values_next valued
      rw [Decoder.members] at decoded
      obtain ⟨_, isName, decoded⟩ := exists_of_bind_eq_ok decoded
      cases isName
      obtain ⟨item, headDecoded, decoded⟩ := exists_of_bind_eq_ok decoded
      obtain ⟨others, tailDecoded, decoded⟩ := exists_of_bind_eq_ok decoded
      cases decoded
      rw [List.map_cons, agrees headValued headDecoded,
        agrees.members tail tailValued tailDecoded]
  | _ => cases valued

/-- Of several members with one key both sides keep the last. -/
theorem Agrees.map (agrees : decode.Agrees reading) :
    (Decoder.map decode).Agrees (Value.asMap reading) := by
  intro depth node value result valued decoded
  cases Node.reads valued with
  | @object start members inner pairs entered read =>
      rw [Decoder.map, entered] at decoded
      change (do return orderMembers (← Decoder.members decode inner members)) = _ at decoded
      obtain ⟨results, membersDecoded, decoded⟩ := exists_of_bind_eq_ok decoded
      cases decoded
      rw [agrees.members members read membersDecoded, orderMembers_map]
      rfl
  | _ => cases decoded

/-- A result that is changed afterwards. -/
theorem Agrees.finish {β : Type} (agrees : decode.Agrees reading) (change : α → β) :
    Decoder.Agrees (fun depth node => do return change (← decode depth node))
      fun value => change (reading value) := by
  intro depth node value result valued decoded
  obtain ⟨read, isRead, decoded⟩ := exists_of_bind_eq_ok decoded
  cases decoded
  rw [agrees valued isRead]

end Decoder

end RpcSchema.Json
