import RpcSchema.Proofs.Json.Printing
import RpcSchema.Proofs.Json.RecordAgreement

/-!
# Values as they are written

The value of a tree forgets what a text repeats: of several members with one key the last stays. As
it is written, a value has all its members in the order of the text, however deep they nest. What a
text stands for is the value that is written there, put in order, if that does not nest too deep.
-/

namespace RpcSchema.Json

mutual
/-- The value of a tree as it is written, with repeated members and in the order of the text. -/
def Node.asWritten? : Node → Option Value
  | .word none _ => some .null
  | .word (some flag) _ => some (.bool flag)
  | .number number _ => number.toOption.map .number
  | .string text _ => text.toOption.map .string
  | .array _ elements => elements.asWritten?.map .array
  | .object _ members => members.asWritten?.map .object
  | .absent _ => none
  | .broken _ _ => none

def Elements.asWritten? : Elements → Option (List Value)
  | .close _ => some []
  | .cut _ => none
  | .next start head tail =>
    if start.next = some ']' then none
    else do return (← head.asWritten?) :: (← tail.asWritten?)

def Members.asWritten? : Members → Option (List (String × Value))
  | .close _ => some []
  | .cut _ => none
  | .keyless _ _ => none
  | .broken _ _ => none
  | .bare _ _ => none
  | .next key _ value _ tail => do
    return (← key.toOption, ← value.asWritten?) :: (← tail.asWritten?)
end

/-- The value of a whole text as it is written; nothing else stands behind it. -/
def Document.asWritten? (document : Document) : Option Value :=
  if document.follow.any fun place => place.next.isSome then none else document.root.asWritten?

/-! ## Parts of trees -/

section Parts

theorem toOption_eq_some_iff {ε α : Type} {answer : Except ε α} {result : α} :
    answer.toOption = some result ↔ answer = .ok result := by
  cases answer <;> simp [Except.toOption]

theorem Elements.asWritten?_next_iff {start : Place} {head : Node} {tail : Elements}
    {items : List Value} :
    (Elements.next start head tail).asWritten? = some items ↔
      start.next ≠ some ']' ∧ ∃ first rest, head.asWritten? = some first ∧
        tail.asWritten? = some rest ∧ first :: rest = items := by
  rw [Elements.asWritten?]
  split
  · next closes => simp [closes]
  · next isElement => simp [isElement, Option.bind_eq_some_iff]

theorem Members.asWritten?_next_iff {key : Except Fault String} {colon follow : Place}
    {node : Node} {tail : Members} {pairs : List (String × Value)} :
    (Members.next key colon node follow tail).asWritten? = some pairs ↔
      ∃ name first rest, key = .ok name ∧ node.asWritten? = some first ∧
        tail.asWritten? = some rest ∧ (name, first) :: rest = pairs := by
  rw [Members.asWritten?]
  simp [Option.bind_eq_some_iff, toOption_eq_some_iff]

end Parts

/-! ## Values of trees -/

mutual
/-- What is written has a value in order, unless it nests too deep. -/
theorem Node.holds_of_asWritten {node : Node} {value : Value}
    (written : node.asWritten? = some value) : node.Holds value := by
  cases node with
  | word flag stop =>
      cases flag <;> cases written <;>
        exact Node.holds_of_value (fun _ => by rw [Node.value]) rfl rfl
  | number number stop =>
      obtain ⟨read, isNumber, rfl⟩ := Option.map_eq_some_iff.mp written
      obtain rfl := toOption_eq_some_iff.mp isNumber
      exact Node.holds_of_value (fun _ => by rw [Node.value]; rfl) rfl rfl
  | string text stop =>
      obtain ⟨read, isText, rfl⟩ := Option.map_eq_some_iff.mp written
      obtain rfl := toOption_eq_some_iff.mp isText
      exact Node.holds_of_value (fun _ => by rw [Node.value]; rfl) rfl rfl
  | array start elements =>
      obtain ⟨items, inside, rfl⟩ := Option.map_eq_some_iff.mp written
      exact Node.holds_array (Elements.holds_of_asWritten inside) start
  | object start members =>
      obtain ⟨pairs, inside, rfl⟩ := Option.map_eq_some_iff.mp written
      exact Node.holds_object (Members.holds_of_asWritten inside) start
  | absent place => cases written
  | broken taken passed => cases written

theorem Elements.holds_of_asWritten {elements : Elements} {items : List Value}
    (written : elements.asWritten? = some items) : elements.Holds items := by
  cases elements with
  | close place =>
      cases written
      exact Elements.holds_close place
  | cut place => cases written
  | next start head tail =>
      obtain ⟨isElement, first, rest, isFirst, isRest, rfl⟩ :=
        Elements.asWritten?_next_iff.mp written
      exact .next isElement (Node.holds_of_asWritten isFirst) (Elements.holds_of_asWritten isRest)

theorem Members.holds_of_asWritten {members : Members} {pairs : List (String × Value)}
    (written : members.asWritten? = some pairs) : members.Holds pairs := by
  cases members with
  | close place =>
      cases written
      exact Members.holds_close place
  | next key colon node follow tail =>
      obtain ⟨name, first, rest, rfl, isFirst, isRest, rfl⟩ :=
        Members.asWritten?_next_iff.mp written
      exact .next (Node.holds_of_asWritten isFirst) (Members.holds_of_asWritten isRest)
  | cut place => cases written
  | keyless first place => cases written
  | broken taken passed => cases written
  | bare key place => cases written
end

mutual
/-- Where a value is read one is written. -/
theorem Node.exists_asWritten {depth : Nat} {node : Node} {value : Value}
    (valued : node.value depth = .ok value) : ∃ written, node.asWritten? = some written := by
  cases Node.reads valued with
  | null | bool | number | string => exact ⟨_, rfl⟩
  | array entered read =>
      obtain ⟨items, inside⟩ := Elements.exists_asWritten read
      exact ⟨.array items, by rw [Node.asWritten?, inside, Option.map_some]⟩
  | object entered read =>
      obtain ⟨pairs, inside⟩ := Members.exists_asWritten read
      exact ⟨.object pairs, by rw [Node.asWritten?, inside, Option.map_some]⟩

theorem Elements.exists_asWritten {depth : Nat} {elements : Elements} {items : List Value}
    (valued : elements.values depth = .ok items) :
    ∃ written, elements.asWritten? = some written := by
  cases elements with
  | close place => exact ⟨[], rfl⟩
  | cut place => cases valued
  | next start head tail =>
      obtain ⟨isElement, first, rest, isFirst, isRest, -⟩ := Elements.values_next valued
      obtain ⟨head, written⟩ := Node.exists_asWritten isFirst
      obtain ⟨tail, others⟩ := Elements.exists_asWritten isRest
      exact ⟨_, Elements.asWritten?_next_iff.mpr ⟨isElement, head, tail, written, others, rfl⟩⟩

theorem Members.exists_asWritten {depth : Nat} {members : Members}
    {pairs : List (String × Value)} (valued : members.values depth = .ok pairs) :
    ∃ written, members.asWritten? = some written := by
  cases members with
  | close place => exact ⟨[], rfl⟩
  | bare key place => exact absurd valued Members.values_bare
  | next key colon node follow tail =>
      obtain ⟨name, first, rest, isName, isFirst, isRest, -⟩ := Members.values_next valued
      obtain ⟨value, written⟩ := Node.exists_asWritten isFirst
      obtain ⟨tail, others⟩ := Members.exists_asWritten isRest
      exact ⟨_, Members.asWritten?_next_iff.mpr ⟨name, value, tail, isName, written, others, rfl⟩⟩
  | cut place => cases valued
  | keyless first place => cases valued
  | broken taken passed => cases valued
end

theorem Document.asWritten?_eq_some_iff {document : Document} {value : Value} :
    document.asWritten? = some value ↔
      document.root.asWritten? = some value ∧
        ∀ place, document.follow = some place → place.next = none := by
  rw [asWritten?]
  cases document.follow with
  | none => simp
  | some place => cases behind : place.next <;> simp [behind]

/-- A text stands for what is written there, in order, if that does not nest too deep. -/
theorem ofText_eq_ok_iff_asWritten {text : String} {result : Value} :
    Value.ofText text = .ok result ↔
      ∃ value, (Document.ofText text).asWritten? = some value ∧ value.height < maxDepth ∧
        result = value.ordered := by
  simp only [Value.ofText, Document.decode_eq_ok_iff, Decoder.value,
    Document.asWritten?_eq_some_iff]
  constructor
  · rintro ⟨valued, ended⟩
    obtain ⟨value, written⟩ := Node.exists_asWritten valued
    exact ⟨value, ⟨written, ended⟩,
      (Node.holds_of_asWritten written _ _ (by decide)).mp valued⟩
  · rintro ⟨value, ⟨written, ended⟩, inOrder⟩
    exact ⟨(Node.holds_of_asWritten written _ _ (by decide)).mpr inOrder, ended⟩

/-- Whatever is read has its members in order. -/
theorem isOrdered_of_ofText {text : String} {result : Value} (parsed : Value.ofText text = .ok result) :
    result.IsOrdered := by
  obtain ⟨value, -, -, rfl⟩ := ofText_eq_ok_iff_asWritten.mp parsed
  exact value.isOrdered_ordered

namespace Node

variable {node : Node}

theorem asWritten?_eq_null_iff : node.asWritten? = some .null ↔ ∃ stop, node = .word none stop := by
  cases node with
  | word flag stop => cases flag <;> simp [asWritten?]
  | _ => simp [asWritten?]

theorem asWritten?_eq_string_iff {text : String} :
    node.asWritten? = some (.string text) ↔ ∃ stop, node = .string (.ok text) stop := by
  cases node with
  | word flag stop => cases flag <;> simp [asWritten?]
  | string content stop => simp [asWritten?, toOption_eq_some_iff]
  | _ => simp [asWritten?]

theorem asWritten?_eq_object_iff {pairs : List (String × Value)} :
    node.asWritten? = some (.object pairs) ↔
      ∃ start members, node = .object start members ∧ members.asWritten? = some pairs := by
  cases node with
  | word flag stop => cases flag <;> simp [asWritten?]
  | _ => simp [asWritten?]

end Node

/-! ## Arrays among other texts -/

theorem skipGapFrom_rest (chars : List Char) (position : Position) :
    (skipGapFrom chars position).rest = chars.dropWhile isGap := by
  induction chars generalizing position with
  | nil => rfl
  | cons c rest ih =>
      rw [skipGapFrom, List.dropWhile_cons]
      split
      · exact ih _
      · rfl

/-- An array is read from a bracket only. -/
theorem head?_of_readNode_array {fuel : Nat} {cursor : Cursor} {start : Place} {elements : Elements}
    (read : (readNode fuel cursor).1 = .array start elements) : cursor.rest.head? = some '[' := by
  have notWord : ∀ value letters inner,
      (readWordNode value letters inner).1 ≠ .array start elements := by
    intro value letters inner
    rw [readWordNode]
    split <;> simp
  have notString : ∀ inner, (readStringNode inner).1 ≠ .array start elements := by
    intro inner
    rw [readStringNode]
    split <;> simp
  have notNumber : ∀ inner, (readNumberNode inner).1 ≠ .array start elements := by
    intro inner
    rw [readNumberNode]
    split <;> simp
  cases fuel with
  | zero => cases read
  | succ fuel =>
      rw [readNode] at read
      split at read
      · cases read
      · next c rest isRest =>
        rw [isRest, List.head?_cons]
        by_contra noBracket
        replace noBracket : ¬ c = '[' := fun same => noBracket (congrArg some same)
        simp only [if_neg noBracket] at read
        split at read
        · exact notWord _ _ _ read
        split at read
        · exact notWord _ _ _ read
        split at read
        · exact notWord _ _ _ read
        split at read
        · exact notString _ read
        split at read
        · exact notNumber _ read
        split at read <;> cases read

theorem root_ofText_ne_array {text : String}
    (noBracket : (text.toList.dropWhile isGap).head? ≠ some '[') (start : Place)
    (elements : Elements) : (Document.ofText text).root ≠ .array start elements := by
  intro isArray
  have read : (readNode (3 * (Cursor.ofText text).skipGap.rest.length + 1)
      (Cursor.ofText text).skipGap).1 = .array start elements := isArray
  have starts := head?_of_readNode_array read
  rw [Cursor.skipGap, skipGapFrom_rest] at starts
  exact noBracket starts

/-- What is written as an object is not written as an array. -/
theorem root_ne_array_of_object {document : Document} {pairs : List (String × Value)}
    (written : document.asWritten? = some (.object pairs)) (start : Place) (elements : Elements) :
    document.root ≠ .array start elements := by
  obtain ⟨opening, members, isObject, -⟩ :=
    Node.asWritten?_eq_object_iff.mp (Document.asWritten?_eq_some_iff.mp written).1
  rw [isObject]
  exact Node.noConfusion

end RpcSchema.Json
