import RpcSchema.Proofs.Json.Agreement
import RpcSchema.Proofs.Text.Numerals

/-!
# Printed values

What is printed for a value is read back as this value, with the members of its objects in the order
of their keys, as long as it does not nest too deep. A printed value stands in a text in front of
something, so that the readers are followed from any position on and with anything behind the value
that does not go on with it.
-/

namespace RpcSchema.Json

open Text

/-! ## Strings -/

/-- A control is written as four digits that are read as it. -/
theorem hexUnit_of_lt {code : Nat} (control : code < 0x20) :
    hexUnit '0' '0' (hexDigit (code / 16)) (hexDigit (code % 16)) = some code := by
  have zero : hexValue '0' = some 0 := rfl
  rw [hexUnit, zero, hexValue_hexDigit (by omega), hexValue_hexDigit (by omega)]
  simp only [Option.bind_eq_bind, Option.bind_some, Option.pure_def, Option.some.injEq]
  omega

theorem visible_of_all {chars : List Char} (visible : chars.all fun c => 0x20 ≤ c.val) :
    ∀ c ∈ chars, 0x20 ≤ c.val := fun c member =>
  of_decide_eq_true (List.all_eq_true.mp visible c member)

/-- What is written for a character has no controls. -/
theorem visible_of_mem_escapedChar {c written : Char} (member : written ∈ escapedChar c) :
    0x20 ≤ written.val := by
  unfold escapedChar at member
  split at member
  -- A character without a letter of its own has its digits written, or stands as it is.
  case h_8 =>
    split at member
    · next control =>
      have below : c.toNat < 0x20 := control
      have marks : ∀ mark ∈ ['\\', 'u', '0', '0'], 0x20 ≤ mark.val := visible_of_all (by decide)
      have digits : ∀ digit < 16, 0x20 ≤ (hexDigit digit).val := by decide
      have parted : written ∈ ['\\', 'u', '0', '0'] ++
          [hexDigit (c.toNat / 16), hexDigit (c.toNat % 16)] := member
      rcases List.mem_append.mp parted with mark | digit
      · exact marks written mark
      · simp only [List.mem_cons, List.not_mem_nil, or_false] at digit
        rcases digit with rfl | rfl <;> exact digits _ (by omega)
    · next visible =>
      obtain rfl := List.mem_singleton.mp member
      exact UInt32.not_lt.mp visible
  all_goals exact visible_of_all (by decide) written member

/-- What is written for a character is taken as this character. -/
theorem exists_takeString_escapedChar (c : Char) (rest read : List Char) (position : Position) :
    ∃ stop, takeString (escapedChar c ++ rest) position read = takeString rest stop (c :: read) := by
  unfold escapedChar
  split <;> try exact ⟨position.right 2, rfl⟩
  · next noQuote noBackslash _ _ _ _ _ =>
    split
    · next control =>
      have below : c.toNat < 0x20 := control
      refine ⟨position.right 6, ?_⟩
      change takeString ('\\' :: 'u' :: '0' :: '0' :: _ :: _ :: rest) position read = _
      rw [takeString]
      simp only [hexUnit_of_lt below]
      have noTrailing : isTrailingSurrogate c.toNat = false := by
        rw [isTrailingSurrogate, Bool.and_eq_false_iff]
        exact .inl (decide_eq_false (by omega))
      have noLeading : isLeadingSurrogate c.toNat = false := by
        rw [isLeadingSurrogate, Bool.and_eq_false_iff]
        exact .inl (decide_eq_false (by omega))
      rw [noTrailing, noLeading, Char.ofNat_toNat]
      rfl
    · next visible =>
      refine ⟨position.next c, ?_⟩
      rw [List.singleton_append, takeString, if_neg visible]
      · exact noQuote
      · exact fun _ _ _ _ _ isBackslash => absurd isBackslash noBackslash
      · exact noBackslash

/-- What is written for a text is taken as this text. -/
theorem exists_takeString (text rest read : List Char) (position : Position) :
    ∃ stop, takeString (text.flatMap escapedChar ++ '"' :: rest) position read =
      .ok (String.ofList (read.reverse ++ text), ⟨rest, stop⟩) := by
  induction text generalizing read position with
  | nil => exact ⟨position.right 1, by rw [List.flatMap_nil, List.nil_append, takeString, List.append_nil]⟩
  | cons c text ih =>
      obtain ⟨between, taken⟩ :=
        exists_takeString_escapedChar c (text.flatMap escapedChar ++ '"' :: rest) read position
      obtain ⟨stop, takes⟩ := ih (c :: read) between
      refine ⟨stop, ?_⟩
      rw [List.flatMap_cons, List.append_assoc, taken, takes, List.reverse_cons, List.append_assoc,
        List.singleton_append]

theorem exists_readString (text : String) (rest : List Char) (position : Position) :
    ∃ stop, readString ⟨text.toList.flatMap escapedChar ++ '"' :: rest, position⟩ =
      .closed (.ok text) ⟨rest, stop⟩ := by
  obtain ⟨stop, taken⟩ := exists_takeString text.toList rest [] position
  rw [List.reverse_nil, List.nil_append, String.ofList_toList] at taken
  exact ⟨stop, by rw [readString, taken]⟩

/-! ## Numbers -/

/-- What follows a number does not go on with it. -/
def EndsNumber (rest : List Char) : Prop :=
  ∀ c ∈ rest.head?, digitValue c = none ∧ c ≠ '.' ∧ c ≠ 'e' ∧ c ≠ 'E'

/-- An integer that is kept as one when it is read. -/
def IsWord (value : Int) : Prop := -0x8000000000000000 ≤ value ∧ value ≤ 0xffffffffffffffff

theorem exists_readUnsigned {value : Int} (word : IsWord value) {rest : List Char}
    (ends : EndsNumber rest) (position : Position) :
    ∃ stop, readUnsigned (decide (value < 0)) position (Nat.toDigits 10 value.natAbs ++ rest) =
      .closed (.ok (.integer value)) ⟨rest, stop⟩ := by
  obtain ⟨low, high⟩ := word
  have fits : value.natAbs ≤ wordMax := by
    rw [wordMax]
    omega
  have taken := takeDigits_append (all_isDigit_toDigits value.natAbs) fun c next => (ends c next).1
  have isValue : Numeral.value ⟨decide (value < 0), (Nat.toDigits 10 value.natAbs).map digitOf, none,
      none⟩ false = .ok (.integer value) := by
    simp only [Numeral.value, growSignificand_toDigits fits]
    by_cases negative : value < 0
    · have inRange : ¬(value.natAbs = 0 || decide (0x8000000000000000 < value.natAbs)) = true := by
        simp only [Bool.or_eq_true, decide_eq_true_eq]
        omega
      have back : -(value.natAbs : Int) = value := by omega
      rw [decide_eq_true negative, if_neg (by decide), if_neg inRange, back]
    · have back : (value.natAbs : Int) = value := by omega
      rw [decide_eq_false negative, if_pos (by decide), back]
  rw [readUnsigned, taken]
  refine ⟨position.right ((if decide (value < 0) then 1 else 0) +
    ((Nat.toDigits 10 value.natAbs).map digitOf).length), ?_⟩
  -- The first three branches are for no digits and for a zero in front of others.
  split
  · next none => simp [Nat.toDigits_ne_nil] at none
  · next none => simp [Nat.toDigits_ne_nil] at none
  · next zero => exact absurd (congrArg Prod.fst zero) (map_digitOf_ne_zero_cons _ _ _)
  · next digits after _ _ _ spelled =>
    obtain ⟨rfl, rfl⟩ := Prod.mk.inj spelled
    rw [readFraction, readTail, NumberReading.whole, isValue]
    · exact fun _ exponent => (ends 'e' (by rw [exponent]; rfl)).2.2.1 rfl
    · exact fun _ exponent => (ends 'E' (by rw [exponent]; rfl)).2.2.2 rfl
    · exact fun _ point => (ends '.' (by rw [point]; rfl)).2.1 rfl

theorem exists_readNumber {value : Int} (word : IsWord value) {rest : List Char}
    (ends : EndsNumber rest) (position : Position) :
    ∃ stop, readNumber ⟨integerChars value ++ rest, position⟩ =
      .closed (.ok (.integer value)) ⟨rest, stop⟩ := by
  have unsigned := exists_readUnsigned word ends position
  rw [integerChars]
  split_ifs with negative
  · rw [decide_eq_true negative] at unsigned
    exact unsigned
  · rw [decide_eq_false negative] at unsigned
    obtain ⟨c, digits, spelled, digit⟩ := exists_toDigits value.natAbs
    rw [spelled, List.cons_append] at unsigned ⊢
    unfold readNumber
    split
    · next sign =>
      obtain ⟨rfl, -⟩ := List.cons.inj sign
      cases digit
    · exact unsigned

/-! ## How deep values nest, and their order -/

namespace Value

mutual
/-- How deep the arrays and objects of a value nest. -/
def height : Value → Nat
  | .array items => heightItems items + 1
  | .object members => heightMembers members + 1
  | _ => 0

def heightItems : List Value → Nat
  | [] => 0
  | item :: rest => max item.height (heightItems rest)

def heightMembers : List (String × Value) → Nat
  | [] => 0
  | (_, value) :: rest => max value.height (heightMembers rest)
end

mutual
/-- The value with the members of its objects in the order of their keys. -/
def ordered : Value → Value
  | .array items => .array (orderedItems items)
  | .object members => .ofMembers (orderedMembers members)
  | value => value

def orderedItems : List Value → List Value
  | [] => []
  | item :: rest => item.ordered :: orderedItems rest

def orderedMembers : List (String × Value) → List (String × Value)
  | [] => []
  | (key, value) :: rest => (key, value.ordered) :: orderedMembers rest
end

theorem orderedItems_eq_map (items : List Value) : orderedItems items = items.map ordered := by
  induction items with
  | nil => rfl
  | cons item rest ih => rw [orderedItems, ih, List.map_cons]

theorem orderedMembers_eq_map (members : List (String × Value)) :
    orderedMembers members = members.map fun member => (member.1, member.2.ordered) := by
  induction members with
  | nil => rfl
  | cons member rest ih =>
      obtain ⟨key, value⟩ := member
      rw [orderedMembers, ih, List.map_cons]

theorem heightItems_lt_iff {items : List Value} {bound : Nat} (positive : 0 < bound) :
    heightItems items < bound ↔ ∀ item ∈ items, item.height < bound := by
  induction items with
  | nil => simpa [heightItems] using positive
  | cons item rest ih => rw [heightItems, Nat.max_lt, ih, List.forall_mem_cons]

theorem heightMembers_lt_iff {members : List (String × Value)} {bound : Nat}
    (positive : 0 < bound) :
    heightMembers members < bound ↔ ∀ member ∈ members, member.2.height < bound := by
  induction members with
  | nil => simpa [heightMembers] using positive
  | cons member rest ih =>
      obtain ⟨key, value⟩ := member
      rw [heightMembers, Nat.max_lt, ih, List.forall_mem_cons]

/-- The numbers of a value are integers that are kept as such. -/
inductive HasWords : Value → Prop
  | null : HasWords .null
  | bool (flag : Bool) : HasWords (.bool flag)
  | integer {value : Int} (word : IsWord value) : HasWords (.number (.integer value))
  | string (text : String) : HasWords (.string text)
  | array {items : List Value} (each : ∀ item ∈ items, HasWords item) : HasWords (.array items)
  | object {members : List (String × Value)} (each : ∀ member ∈ members, HasWords member.2) :
      HasWords (.object members)

/-- The members of the objects of a value are in the order of their keys, each key once. -/
inductive IsOrdered : Value → Prop
  | null : IsOrdered .null
  | bool (flag : Bool) : IsOrdered (.bool flag)
  | number (number : Number) : IsOrdered (.number number)
  | string (text : String) : IsOrdered (.string text)
  | array {items : List Value} (each : ∀ item ∈ items, IsOrdered item) : IsOrdered (.array items)
  | object {members : List (String × Value)} (ascending : members.Pairwise (·.1 < ·.1))
      (each : ∀ member ∈ members, IsOrdered member.2) : IsOrdered (.object members)

end Value

/-- A member goes behind those with smaller keys. -/
theorem putMember_of_lt {α : Type} {members : List (String × α)} {key : String}
    (last : ∀ member ∈ members, member.1 < key) (value : α) :
    putMember key value members = members ++ [(key, value)] := by
  induction members with
  | nil => rfl
  | cons member rest ih =>
      obtain ⟨other, old⟩ := member
      obtain ⟨smaller, last⟩ := List.forall_mem_cons.mp last
      have notBefore : ¬ key < other := String.lt_asymm smaller
      have notSame : key ≠ other := fun same => String.lt_irrefl other (same ▸ smaller)
      rw [putMember, if_neg notBefore, if_neg notSame, ih last, List.cons_append]

theorem orderMembers_of_ascending {α : Type} {members : List (String × α)}
    (ascending : members.Pairwise (·.1 < ·.1)) : orderMembers members = members := by
  have behind : ∀ front : List (String × α), (front ++ members).Pairwise (·.1 < ·.1) →
      members.foldl (fun ordered member => putMember member.1 member.2 ordered) front =
        front ++ members := by
    induction members with
    | nil => exact fun front _ => (List.append_nil front).symm
    | cons member rest ih =>
        intro front sorted
        have last : ∀ other ∈ front, other.1 < member.1 := fun other before =>
          (List.pairwise_append.mp sorted).2.2 other before member List.mem_cons_self
        rw [List.append_cons] at sorted
        rw [List.foldl_cons, putMember_of_lt last, ih ascending.of_cons _ sorted, ← List.append_cons]
  exact behind [] ascending

/-- A value that is in order stays as it is. -/
theorem Value.IsOrdered.ordered_eq {value : Value} (inOrder : value.IsOrdered) :
    value.ordered = value := by
  induction inOrder with
  | null | bool | number | string => rfl
  | @array items _ ih =>
      rw [ordered, orderedItems_eq_map, List.map_congr_left ih, List.map_id']
  | @object members ascending _ ih =>
      have same : members.map (fun member => (member.1, member.2.ordered)) = members.map id :=
        List.map_congr_left fun member inside => Prod.ext rfl (ih member inside)
      rw [ordered, orderedMembers_eq_map, same, List.map_id, ofMembers,
        orderMembers_of_ascending ascending]

mutual
/-- A value in order has ascending keys in all objects. -/
theorem Value.isOrdered_ordered : (value : Value) → value.ordered.IsOrdered
  | .null => .null
  | .bool flag => .bool flag
  | .number written => .number written
  | .string text => .string text
  | .array items => .array (isOrdered_orderedItems items)
  | .object members =>
    have ⟨ascending, known⟩ := orderMembers_spec (orderedMembers members)
    .object ascending fun member inside => isOrdered_orderedMembers members member (known member inside)

theorem Value.isOrdered_orderedItems : (items : List Value) → ∀ item ∈ orderedItems items, item.IsOrdered
  | [] => List.forall_mem_nil _
  | item :: rest => List.forall_mem_cons.mpr ⟨isOrdered_ordered item, isOrdered_orderedItems rest⟩

theorem Value.isOrdered_orderedMembers : (members : List (String × Value)) →
    ∀ member ∈ orderedMembers members, member.2.IsOrdered
  | [] => List.forall_mem_nil _
  | (_, value) :: rest =>
    List.forall_mem_cons.mpr ⟨isOrdered_ordered value, isOrdered_orderedMembers rest⟩
end

/-! ## Trees of printed values -/

/-- Taken as a value at some depth, a tree is the given value in order, if that does not nest too
deep. -/
def Node.Holds (node : Node) (value : Value) : Prop :=
  ∀ depth result, 0 < depth →
    (node.value depth = .ok result ↔ value.height < depth ∧ result = value.ordered)

def Elements.Holds (elements : Elements) (values : List Value) : Prop :=
  ∀ depth results, 0 < depth → (elements.values depth = .ok results ↔
    (∀ value ∈ values, value.height < depth) ∧ results = values.map Value.ordered)

def Members.Holds (members : Members) (pairs : List (String × Value)) : Prop :=
  ∀ depth results, 0 < depth → (members.values depth = .ok results ↔
    (∀ pair ∈ pairs, pair.2.height < depth) ∧
      results = pairs.map fun pair => (pair.1, pair.2.ordered))

/-- A tree whose value does not depend on the depth. -/
theorem Node.holds_of_value {node : Node} {value : Value}
    (valued : ∀ depth, node.value depth = .ok value) (flat : value.height = 0)
    (simple : value.ordered = value) : node.Holds value := by
  intro depth result positive
  rw [valued depth, flat, simple, Except.ok.injEq, eq_comm]
  exact (and_iff_right positive).symm

theorem Elements.holds_close (place : Place) : (Elements.close place).Holds [] := by
  intro depth results _
  rw [Elements.values, Except.ok.injEq, List.map_nil, eq_comm]
  exact (and_iff_right fun _ member => absurd member List.not_mem_nil).symm

theorem Elements.Holds.next {start : Place} (isElement : start.next ≠ some ']') {head : Node}
    {tail : Elements} {value : Value} {values : List Value} (holds : head.Holds value)
    (holdsTail : tail.Holds values) : (Elements.next start head tail).Holds (value :: values) := by
  intro depth results positive
  rw [List.forall_mem_cons, List.map_cons]
  constructor
  · intro valued
    obtain ⟨-, first, rest, isFirst, isRest, rfl⟩ := Elements.values_next valued
    obtain ⟨shallow, rfl⟩ := (holds depth first positive).mp isFirst
    obtain ⟨shallowRest, rfl⟩ := (holdsTail depth rest positive).mp isRest
    exact ⟨⟨shallow, shallowRest⟩, rfl⟩
  · rintro ⟨⟨shallow, shallowRest⟩, rfl⟩
    rw [Elements.values, if_neg isElement, (holds depth _ positive).mpr ⟨shallow, rfl⟩]
    change (tail.values depth >>= fun rest => .ok (value.ordered :: rest)) = _
    rw [(holdsTail depth _ positive).mpr ⟨shallowRest, rfl⟩]
    rfl

theorem Members.holds_close (place : Place) : (Members.close place).Holds [] := by
  intro depth results _
  rw [Members.values, Except.ok.injEq, List.map_nil, eq_comm]
  exact (and_iff_right fun _ member => absurd member List.not_mem_nil).symm

theorem Members.Holds.next {key : String} {colon follow : Place} {node : Node} {tail : Members}
    {value : Value} {pairs : List (String × Value)} (holds : node.Holds value)
    (holdsTail : tail.Holds pairs) :
    (Members.next (.ok key) colon node follow tail).Holds ((key, value) :: pairs) := by
  intro depth results positive
  rw [List.forall_mem_cons, List.map_cons]
  constructor
  · intro valued
    obtain ⟨name, first, rest, isKey, isFirst, isRest, rfl⟩ := Members.values_next valued
    obtain rfl := Except.ok.inj isKey
    obtain ⟨shallow, rfl⟩ := (holds depth first positive).mp isFirst
    obtain ⟨shallowRest, rfl⟩ := (holdsTail depth rest positive).mp isRest
    exact ⟨⟨shallow, shallowRest⟩, rfl⟩
  · rintro ⟨⟨shallow, shallowRest⟩, rfl⟩
    rw [Members.values]
    change (node.value depth >>= fun first => tail.values depth >>= fun rest =>
      .ok ((key, first) :: rest)) = _
    rw [(holds depth _ positive).mpr ⟨shallow, rfl⟩]
    change (tail.values depth >>= fun rest => .ok ((key, value.ordered) :: rest)) = _
    rw [(holdsTail depth _ positive).mpr ⟨shallowRest, rfl⟩]
    rfl

/-- The depth inside an array or object is one less, if something is left. -/
theorem enter_eq_ok_iff {depth inner : Nat} {start : Place} :
    enter depth start = .ok inner ↔ 0 < inner ∧ depth = inner + 1 := by
  unfold enter
  split
  · simp only [reduceCtorEq, false_iff]
    omega
  · rw [Except.ok.injEq]
    omega

theorem Node.holds_array {elements : Elements} {values : List Value}
    (holds : elements.Holds values) (start : Place) :
    (Node.array start elements).Holds (.array values) := by
  intro depth result _
  rw [Value.height, Value.ordered, Value.orderedItems_eq_map]
  constructor
  · intro valued
    cases Node.reads valued with
    | array entered read =>
        obtain ⟨positive, rfl⟩ := enter_eq_ok_iff.mp entered
        obtain ⟨shallow, rfl⟩ := (holds _ _ positive).mp read
        exact ⟨Nat.succ_lt_succ ((Value.heightItems_lt_iff positive).mpr shallow), rfl⟩
  · rintro ⟨shallow, rfl⟩
    obtain ⟨inner, rfl⟩ : ∃ inner, depth = inner + 1 := ⟨depth - 1, by omega⟩
    have positive : 0 < inner := by omega
    have within := (Value.heightItems_lt_iff positive).mp (Nat.lt_of_succ_lt_succ shallow)
    rw [Node.value, enter_eq_ok_iff.mpr ⟨positive, rfl⟩]
    change (elements.values inner >>= fun items => .ok (Value.array items)) = _
    rw [(holds _ _ positive).mpr ⟨within, rfl⟩]
    rfl

theorem Node.holds_object {members : Members} {pairs : List (String × Value)}
    (holds : members.Holds pairs) (start : Place) :
    (Node.object start members).Holds (.object pairs) := by
  intro depth result _
  rw [Value.height, Value.ordered, Value.orderedMembers_eq_map]
  constructor
  · intro valued
    cases Node.reads valued with
    | object entered read =>
        obtain ⟨positive, rfl⟩ := enter_eq_ok_iff.mp entered
        obtain ⟨shallow, rfl⟩ := (holds _ _ positive).mp read
        exact ⟨Nat.succ_lt_succ ((Value.heightMembers_lt_iff positive).mpr shallow), rfl⟩
  · rintro ⟨shallow, rfl⟩
    obtain ⟨inner, rfl⟩ : ∃ inner, depth = inner + 1 := ⟨depth - 1, by omega⟩
    have positive : 0 < inner := by omega
    have within := (Value.heightMembers_lt_iff positive).mp (Nat.lt_of_succ_lt_succ shallow)
    rw [Node.value, enter_eq_ok_iff.mpr ⟨positive, rfl⟩]
    change (members.values inner >>= fun pairs => .ok (Value.ofMembers pairs)) = _
    rw [(holds _ _ positive).mpr ⟨within, rfl⟩]
    rfl

end RpcSchema.Json
