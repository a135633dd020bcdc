import Mathlib.Data.List.Forall2
import RpcSchema.Proofs.Json.AsWritten

/-!
# Reading what was printed

An array is read from pieces that are read as its elements, with commas and white space between
them, and an object from pieces that are read as its members. So a value is read from its printed
text, whatever stands behind that, by induction on the value.
-/

namespace RpcSchema.Json

open Text

/-! ## White space -/

/-- White space is passed over up to the first other character. -/
theorem exists_skipGapFrom {gap : List Char} (gaps : gap.all isGap) {c : Char}
    (solid : isGap c = false) (rest : List Char) (position : Position) :
    ∃ stop, skipGapFrom (gap ++ c :: rest) position = ⟨c :: rest, stop⟩ := by
  induction gap generalizing position with
  | nil => exact ⟨position, by rw [List.nil_append, skipGapFrom, solid]; rfl⟩
  | cons space gap ih =>
      rw [List.all_cons, Bool.and_eq_true] at gaps
      obtain ⟨stop, skips⟩ := ih gaps.2 (position.next space)
      exact ⟨stop, by rw [List.cons_append, skipGapFrom, if_pos gaps.1, skips]⟩

theorem endsNumber_mark {c : Char} (mark : c ∈ [',', ']', '\x7d']) (rest : List Char) :
    EndsNumber (c :: rest) := by
  intro first isFirst
  obtain rfl : c = first := by simpa using isFirst
  revert mark
  simp only [List.mem_cons, List.not_mem_nil, or_false]
  rintro (rfl | rfl | rfl) <;> decide

theorem endsNumber_space {c : Char} (space : isGap c) (rest : List Char) :
    EndsNumber (c :: rest) := by
  intro first isFirst
  obtain rfl : c = first := by simpa using isFirst
  simp only [isGap, Bool.or_eq_true, beq_iff_eq] at space
  rcases space with ((rfl | rfl) | rfl) | rfl <;> decide

/-- White space is passed over up to the end of a text. -/
theorem exists_skipGapFrom_all {gap : List Char} (gaps : gap.all isGap) (position : Position) :
    ∃ stop, skipGapFrom gap position = ⟨[], stop⟩ := by
  induction gap generalizing position with
  | nil => exact ⟨position, rfl⟩
  | cons space gap ih =>
      rw [List.all_cons, Bool.and_eq_true] at gaps
      obtain ⟨stop, skips⟩ := ih gaps.2 (position.next space)
      exact ⟨stop, by rw [skipGapFrom, if_pos gaps.1, skips]⟩

/-- Neither white space nor a mark of JSON goes on with a number. -/
theorem endsNumber_gap {gap : List Char} (gaps : gap.all isGap) {c : Char}
    (mark : c ∈ [',', ']', '\x7d']) (rest : List Char) : EndsNumber (gap ++ c :: rest) := by
  cases gap with
  | nil => exact endsNumber_mark mark rest
  | cons space gap =>
      rw [List.all_cons, Bool.and_eq_true] at gaps
      exact endsNumber_space gaps.1 _

/-! ## Pieces of a text -/

/-- A piece of a text is read as a value, whatever stands behind it. A character takes at most three
steps. -/
def ReadsAs (piece : List Char) (value : Value) : Prop :=
  ∀ fuel position rest, EndsNumber rest → 3 * piece.length < fuel →
    ∃ node stop, readNode fuel ⟨piece ++ rest, position⟩ = (node, some ⟨rest, stop⟩) ∧
      node.asWritten? = some value

/-- What is read as a value starts with a character of its own. -/
theorem ReadsAs.exists_cons {piece : List Char} {value : Value} (reads : ReadsAs piece value) :
    ∃ c tail, piece = c :: tail ∧ isGap c = false ∧ c ≠ ']' := by
  obtain ⟨node, stop, done, -⟩ :=
    reads (3 * piece.length + 1) .start [] (fun _ isFirst => by cases isFirst) (Nat.lt_succ_self _)
  cases piece with
  | nil => cases done
  | cons c tail =>
      refine ⟨c, tail, rfl, ?_, ?_⟩
      · rw [Bool.eq_false_iff]
        intro isSpace
        simp only [isGap, Bool.or_eq_true, beq_iff_eq] at isSpace
        rcases isSpace with ((rfl | rfl) | rfl) | rfl <;> cases done
      · rintro rfl
        cases done

/-! ## Arrays -/

theorem readNode_bracket {fuel : Nat} {rest : List Char} {position : Position} {elements : Elements}
    {after : Option Cursor}
    (read : readFirstElement fuel (skipGapFrom rest (position.right 1)) = (elements, after)) :
    readNode (fuel + 1) ⟨'[' :: rest, position⟩ =
      (.array ⟨position, some '['⟩ elements, after) := by
  have reads : readNode (fuel + 1) ⟨'[' :: rest, position⟩ =
      (.array ⟨position, some '['⟩ (readFirstElement fuel (skipGapFrom rest (position.right 1))).1,
        (readFirstElement fuel (skipGapFrom rest (position.right 1))).2) := rfl
  rw [reads, read]

theorem readFirstElement_of_ne {c : Char} (isElement : c ≠ ']') (fuel : Nat) (rest : List Char)
    (position : Position) :
    readFirstElement (fuel + 1) ⟨c :: rest, position⟩ =
      readElements fuel ⟨c :: rest, position⟩ := by
  rw [readFirstElement]
  split
  · next empty => cases empty
  · next closes => exact absurd (List.cons.inj closes).1 isElement
  · rfl

section Steps

variable {fuel : Nat} {cursor after final : Cursor} {head : Node} {rest : List Char}
  {stop : Position} (read : readNode fuel cursor = (head, some after))
include read

theorem readElements_close (closes : after.skipGap = ⟨']' :: rest, stop⟩) :
    readElements (fuel + 1) cursor =
      (.next cursor.place head (.close ⟨stop, some ']'⟩), some ⟨rest, stop.right 1⟩) := by
  simp only [readElements, read, closes]
  rfl

theorem readElements_next (goesOn : after.skipGap = ⟨',' :: rest, stop⟩) {tail : Elements}
    (readTail : readElements fuel (Cursor.skipGap ⟨rest, stop.right 1⟩) = (tail, some final)) :
    readElements (fuel + 1) cursor = (.next cursor.place head tail, some final) := by
  simp only [readElements, read, goesOn, readTail]

end Steps

theorem separated_cons_cons (separator part other : List Char) (parts : List (List Char)) :
    separated separator (part :: other :: parts) =
      part ++ separator ++ separated separator (other :: parts) := rfl

/-- Parts start as the first of them does. -/
theorem exists_separated_cons (separator : List Char) (c : Char) (tail : List Char)
    (parts : List (List Char)) :
    ∃ more, separated separator ((c :: tail) :: parts) = c :: more := by
  cases parts with
  | nil => exact ⟨tail, rfl⟩
  | cons other parts => exact ⟨_, rfl⟩

/-- Elements start as the first of them does. -/
theorem ReadsAs.exists_separated {piece : List Char} {value : Value} (reads : ReadsAs piece value)
    (separator : List Char) (pieces : List (List Char)) :
    ∃ c more, separated separator (piece :: pieces) = c :: more ∧ isGap c = false ∧ c ≠ ']' := by
  obtain ⟨c, tail, rfl, solid, isElement⟩ := reads.exists_cons
  obtain ⟨more, starting⟩ := exists_separated_cons separator c tail pieces
  exact ⟨c, more, starting, solid, isElement⟩

/-- An element does not stand where an array is closed. -/
theorem ReadsAs.next_ne {piece : List Char} {value : Value} (reads : ReadsAs piece value)
    (rest : List Char) (position : Position) :
    (Cursor.place ⟨piece ++ rest, position⟩).next ≠ some ']' := by
  obtain ⟨c, tail, rfl, -, isElement⟩ := reads.exists_cons
  exact fun same => isElement (Option.some.inj same)

section Array

variable {gap between last : List Char} (gaps : gap.all isGap) (betweenGaps : between.all isGap)
  (lastGaps : last.all isGap)

include betweenGaps lastGaps in
/-- Elements and the closing bracket behind them. -/
theorem exists_readElements {parts : List (List Char)} {values : List Value}
    (each : List.Forall₂ ReadsAs parts values) {part : List Char} {value : Value}
    (first : ReadsAs part value) (rest : List Char) {fuel : Nat}
    (enough : 3 * ((separated (',' :: between) (part :: parts)).length + last.length + 1) ≤ fuel)
    (position : Position) :
    ∃ elements stop,
      readElements fuel
          ⟨separated (',' :: between) (part :: parts) ++ (last ++ ']' :: rest), position⟩ =
        (elements, some ⟨rest, stop⟩) ∧ elements.asWritten? = some (value :: values) := by
  obtain ⟨fuel, rfl⟩ : ∃ fewer, fuel = fewer + 1 := ⟨fuel - 1, by omega⟩
  induction each generalizing part value fuel position with
  | nil =>
      rw [separated] at enough ⊢
      obtain ⟨node, stop, reads, written⟩ := first fuel position (last ++ ']' :: rest)
        (endsNumber_gap lastGaps (by decide) rest) (by omega)
      obtain ⟨close, skips⟩ := exists_skipGapFrom lastGaps (by decide : isGap ']' = false) rest stop
      exact ⟨_, _, readElements_close reads skips, Elements.asWritten?_next_iff.mpr
        ⟨first.next_ne _ position, value, [], written, rfl, rfl⟩⟩
  | @cons other otherValue parts values readsOther others ih =>
      obtain ⟨c, more, starting, solid, -⟩ := readsOther.exists_separated (',' :: between) parts
      rw [separated_cons_cons] at enough ⊢
      simp only [List.length_append, List.length_cons] at enough
      obtain ⟨fuel, rfl⟩ : ∃ fewer, fuel = fewer + 1 := ⟨fuel - 1, by omega⟩
      obtain ⟨node, stop, reads, written⟩ := first (fuel + 1) position
        (',' :: (between ++ (separated (',' :: between) (other :: parts) ++ (last ++ ']' :: rest))))
        (endsNumber_mark (by decide) _) (by omega)
      obtain ⟨behind, skips⟩ := exists_skipGapFrom betweenGaps solid
        (more ++ (last ++ ']' :: rest)) (stop.right 1)
      rw [← List.cons_append, ← starting] at skips
      obtain ⟨tail, final, readsTail, writtenTail⟩ := ih readsOther behind fuel (by omega)
      rw [← skips] at readsTail
      rw [List.append_assoc, List.append_assoc, List.cons_append]
      exact ⟨_, final, readElements_next reads rfl readsTail, Elements.asWritten?_next_iff.mpr
        ⟨first.next_ne _ position, value, _, written, writtenTail, rfl⟩⟩

include gaps betweenGaps lastGaps in
/-- An array is read from pieces that are read as its elements. -/
theorem readsAs_array {parts : List (List Char)} {values : List Value}
    (each : List.Forall₂ ReadsAs parts values) :
    ReadsAs ('[' :: (gap ++ (separated (',' :: between) parts ++ (last ++ [']']))))
      (.array values) := by
  intro fuel position rest _ enough
  simp only [List.length_cons, List.length_append, List.length_nil] at enough
  obtain ⟨fuel, rfl⟩ : ∃ fewer, fuel = fewer + 2 := ⟨fuel - 2, by omega⟩
  simp only [List.cons_append, List.append_assoc, List.nil_append]
  cases each with
  | nil =>
      have allGaps : (gap ++ last).all isGap := by rw [List.all_append, gaps, lastGaps]; rfl
      obtain ⟨stop, skips⟩ :=
        exists_skipGapFrom allGaps (by decide : isGap ']' = false) rest (position.right 1)
      rw [List.append_assoc] at skips
      have read := readNode_bracket (congrArg (readFirstElement (fuel + 1)) skips)
      exact ⟨_, _, read, rfl⟩
  | @cons part value parts values first others =>
      obtain ⟨c, more, starting, solid, isElement⟩ := first.exists_separated (',' :: between) parts
      obtain ⟨inside, skips⟩ :=
        exists_skipGapFrom gaps solid (more ++ (last ++ ']' :: rest)) (position.right 1)
      obtain ⟨elements, stop, reads, written⟩ :=
        exists_readElements betweenGaps lastGaps others first rest
          (show 3 * (_ + last.length + 1) ≤ fuel by omega) inside
      rw [starting] at reads ⊢
      rw [List.cons_append, ← readFirstElement_of_ne isElement, ← skips] at reads
      exact ⟨_, stop, readNode_bracket reads, by rw [Node.asWritten?, written, Option.map_some]⟩

end Array

/-! ## Objects -/

/-- A piece of a text is read as a member of an object: a key, a colon and a value. -/
def ReadsAsMember (piece : List Char) (member : String × Value) : Prop :=
  ∃ gap text, gap.all isGap ∧ ReadsAs text member.2 ∧
    piece = stringChars member.1 ++ ':' :: (gap ++ text)

/-- Members start with the opening quote of the first key. -/
theorem ReadsAsMember.exists_separated {piece : List Char} {member : String × Value}
    (reads : ReadsAsMember piece member) (separator : List Char) (pieces : List (List Char)) :
    ∃ more, separated separator (piece :: pieces) = '"' :: more := by
  obtain ⟨gap, text, -, -, rfl⟩ := reads
  exact exists_separated_cons separator '"' _ pieces

/-- What the readers of a member find in a piece, from its opening quote on. -/
theorem ReadsAsMember.exists_read {piece : List Char} {member : String × Value}
    (reads : ReadsAsMember piece member) {rest : List Char} (ends : EndsNumber rest) {fuel : Nat}
    (enough : 3 * piece.length < fuel) (position : Position) :
    ∃ body more colon node stop, piece ++ rest = '"' :: body ∧
      readString ⟨body, position.right 1⟩ = .closed (.ok member.1) ⟨':' :: more, colon⟩ ∧
      readNode fuel (skipGapFrom more (colon.right 1)) = (node, some ⟨rest, stop⟩) ∧
      node.asWritten? = some member.2 := by
  obtain ⟨gap, text, gaps, reads, rfl⟩ := reads
  obtain ⟨colon, readsKey⟩ :=
    exists_readString member.1 (':' :: (gap ++ text) ++ rest) (position.right 1)
  obtain ⟨c, tail, starts, solid, -⟩ := reads.exists_cons
  obtain ⟨start, skips⟩ := exists_skipGapFrom gaps solid (tail ++ rest) (colon.right 1)
  simp only [List.length_append, List.length_cons] at enough
  obtain ⟨node, stop, readsValue, written⟩ := reads fuel start rest ends (by omega)
  refine ⟨_, gap ++ text ++ rest, colon, node, stop, ?_, readsKey, ?_, written⟩
  · simp [stringChars]
  · rw [← readsValue, List.append_assoc, starts, List.cons_append, skips]

section Steps

variable {fuel : Nat} {first : Bool} {body more rest : List Char} {position colon stop : Position}
  {key : String} {node : Node} {after final : Cursor}
  (readKey : readString ⟨body, position.right 1⟩ = .closed (.ok key) ⟨':' :: more, colon⟩)
  (readValue : readNode fuel (skipGapFrom more (colon.right 1)) = (node, some after))
include readKey readValue

theorem readMembers_close (closes : after.skipGap = ⟨'\x7d' :: rest, stop⟩) :
    readMembers (fuel + 1) first ⟨'"' :: body, position⟩ =
      (.next (.ok key) ⟨colon, some ':'⟩ node ⟨stop, some '\x7d'⟩ (.close ⟨stop, some '\x7d'⟩),
        some ⟨rest, stop.right 1⟩) := by
  have skipsNothing : Cursor.skipGap ⟨':' :: more, colon⟩ = ⟨':' :: more, colon⟩ := rfl
  have skips : Cursor.skipGap ⟨more, colon.right 1⟩ = skipGapFrom more (colon.right 1) := rfl
  simp only [readMembers, readKey, skipsNothing, skips, readValue, closes]
  rfl

theorem readMembers_next (goesOn : after.skipGap = ⟨',' :: rest, stop⟩) {tail : Members}
    (readTail : readMembers fuel false (Cursor.skipGap ⟨rest, stop.right 1⟩) = (tail, some final)) :
    readMembers (fuel + 1) first ⟨'"' :: body, position⟩ =
      (.next (.ok key) ⟨colon, some ':'⟩ node ⟨stop, some ','⟩ tail, some final) := by
  have skipsNothing : Cursor.skipGap ⟨':' :: more, colon⟩ = ⟨':' :: more, colon⟩ := rfl
  have skips : Cursor.skipGap ⟨more, colon.right 1⟩ = skipGapFrom more (colon.right 1) := rfl
  simp only [readMembers, readKey, skipsNothing, skips, readValue, goesOn, readTail]
  rfl

end Steps

theorem readNode_brace {fuel : Nat} {rest : List Char} {position : Position} {members : Members}
    {after : Option Cursor}
    (read : readFirstMember fuel (skipGapFrom rest (position.right 1)) = (members, after)) :
    readNode (fuel + 1) ⟨'\x7b' :: rest, position⟩ =
      (.object ⟨position, some '\x7b'⟩ members, after) := by
  have reads : readNode (fuel + 1) ⟨'\x7b' :: rest, position⟩ =
      (.object ⟨position, some '\x7b'⟩
          (readFirstMember fuel (skipGapFrom rest (position.right 1))).1,
        (readFirstMember fuel (skipGapFrom rest (position.right 1))).2) := rfl
  rw [reads, read]

section Object

variable {gap between last : List Char} (gaps : gap.all isGap) (betweenGaps : between.all isGap)
  (lastGaps : last.all isGap)

include betweenGaps lastGaps in
/-- Members and the closing brace behind them. -/
theorem exists_readMembers {parts : List (List Char)} {pairs : List (String × Value)}
    (each : List.Forall₂ ReadsAsMember parts pairs) {part : List Char} {pair : String × Value}
    (first : ReadsAsMember part pair) (rest : List Char) {fuel : Nat}
    (enough : 3 * ((separated (',' :: between) (part :: parts)).length + last.length + 1) ≤ fuel)
    (isFirst : Bool) (position : Position) :
    ∃ members stop,
      readMembers fuel isFirst
          ⟨separated (',' :: between) (part :: parts) ++ (last ++ '\x7d' :: rest), position⟩ =
        (members, some ⟨rest, stop⟩) ∧ members.asWritten? = some (pair :: pairs) := by
  obtain ⟨fuel, rfl⟩ : ∃ fewer, fuel = fewer + 1 := ⟨fuel - 1, by omega⟩
  induction each generalizing part pair fuel position isFirst with
  | nil =>
      rw [separated] at enough ⊢
      obtain ⟨body, more, colon, node, stop, starts, readsKey, readsValue, written⟩ :=
        first.exists_read (endsNumber_gap lastGaps (by decide : '\x7d' ∈ [',', ']', '\x7d']) rest)
          (show 3 * part.length < fuel by omega) position
      obtain ⟨close, skips⟩ :=
        exists_skipGapFrom lastGaps (by decide : isGap '\x7d' = false) rest stop
      rw [starts]
      exact ⟨_, _, readMembers_close readsKey readsValue skips,
        Members.asWritten?_next_iff.mpr ⟨pair.1, pair.2, [], rfl, written, rfl, rfl⟩⟩
  | @cons other otherPair parts pairs readsOther others ih =>
      obtain ⟨more, starting⟩ := readsOther.exists_separated (',' :: between) parts
      rw [separated_cons_cons] at enough ⊢
      simp only [List.length_append, List.length_cons] at enough
      obtain ⟨fuel, rfl⟩ : ∃ fewer, fuel = fewer + 1 := ⟨fuel - 1, by omega⟩
      obtain ⟨body, behindColon, colon, node, stop, starts, readsKey, readsValue, written⟩ :=
        first.exists_read (endsNumber_mark (by decide : ',' ∈ [',', ']', '\x7d']) (between ++
          (separated (',' :: between) (other :: parts) ++ (last ++ '\x7d' :: rest))))
          (show 3 * part.length < fuel + 1 by omega) position
      obtain ⟨behind, skips⟩ := exists_skipGapFrom betweenGaps (by decide : isGap '"' = false)
        (more ++ (last ++ '\x7d' :: rest)) (stop.right 1)
      rw [← List.cons_append, ← starting] at skips
      obtain ⟨tail, final, readsTail, writtenTail⟩ := ih readsOther false behind fuel (by omega)
      rw [← skips] at readsTail
      rw [List.append_assoc, List.append_assoc, List.cons_append, starts]
      exact ⟨_, final, readMembers_next readsKey readsValue rfl readsTail,
        Members.asWritten?_next_iff.mpr ⟨pair.1, pair.2, _, rfl, written, writtenTail, rfl⟩⟩

include gaps betweenGaps lastGaps in
/-- An object is read from pieces that are read as its members. -/
theorem readsAs_object {parts : List (List Char)} {pairs : List (String × Value)}
    (each : List.Forall₂ ReadsAsMember parts pairs) :
    ReadsAs ('\x7b' :: (gap ++ (separated (',' :: between) parts ++ (last ++ ['\x7d']))))
      (.object pairs) := by
  intro fuel position rest _ enough
  simp only [List.length_cons, List.length_append, List.length_nil] at enough
  obtain ⟨fuel, rfl⟩ : ∃ fewer, fuel = fewer + 2 := ⟨fuel - 2, by omega⟩
  simp only [List.cons_append, List.append_assoc, List.nil_append]
  cases each with
  | nil =>
      have allGaps : (gap ++ last).all isGap := by rw [List.all_append, gaps, lastGaps]; rfl
      obtain ⟨stop, skips⟩ :=
        exists_skipGapFrom allGaps (by decide : isGap '\x7d' = false) rest (position.right 1)
      rw [List.append_assoc] at skips
      have read := readNode_brace (congrArg (readFirstMember (fuel + 1)) skips)
      exact ⟨_, _, read, rfl⟩
  | @cons part pair parts pairs first others =>
      obtain ⟨more, starting⟩ := first.exists_separated (',' :: between) parts
      obtain ⟨inside, skips⟩ := exists_skipGapFrom gaps (by decide : isGap '"' = false)
        (more ++ (last ++ '\x7d' :: rest)) (position.right 1)
      obtain ⟨members, stop, reads, written⟩ :=
        exists_readMembers betweenGaps lastGaps others first rest
          (show 3 * (_ + last.length + 1) ≤ fuel by omega) true inside
      have opens : readFirstMember (fuel + 1) ⟨'"' :: (more ++ (last ++ '\x7d' :: rest)), inside⟩ =
          readMembers fuel true ⟨'"' :: (more ++ (last ++ '\x7d' :: rest)), inside⟩ := rfl
      rw [starting] at reads ⊢
      rw [List.cons_append, ← opens, ← skips] at reads
      exact ⟨_, stop, readNode_brace reads, by rw [Node.asWritten?, written, Option.map_some]⟩

end Object

/-! ## Whole values -/

theorem spreadItems_eq_map (depth : Nat) (items : List Value) :
    spreadItems depth items = items.map (Value.spreadChars depth) := by
  induction items with
  | nil => rfl
  | cons item rest ih => rw [spreadItems, ih, List.map_cons]

theorem spreadMembers_eq_map (depth : Nat) (members : List (String × Value)) :
    spreadMembers depth members = members.map fun member =>
      stringChars member.1 ++ ':' :: ' ' :: member.2.spreadChars depth := by
  induction members with
  | nil => rfl
  | cons member rest ih =>
      obtain ⟨key, value⟩ := member
      rw [spreadMembers, ih, List.map_cons]

theorem readsAs_null : ReadsAs ['n', 'u', 'l', 'l'] .null := by
  intro fuel position rest _ enough
  obtain ⟨fuel, rfl⟩ : ∃ fewer, fuel = fewer + 1 := ⟨fuel - 1, by omega⟩
  exact ⟨.word none _, _, rfl, rfl⟩

theorem readsAs_bool (depth : Nat) (flag : Bool) :
    ReadsAs (Value.spreadChars depth (.bool flag)) (.bool flag) := by
  intro fuel position rest _ enough
  obtain ⟨fuel, rfl⟩ : ∃ fewer, fuel = fewer + 1 := ⟨fuel - 1, by omega⟩
  cases flag <;> exact ⟨.word (some _) _, _, rfl, rfl⟩

theorem readsAs_string (text : String) : ReadsAs (stringChars text) (.string text) := by
  intro fuel position rest _ enough
  obtain ⟨fuel, rfl⟩ : ∃ fewer, fuel = fewer + 1 := ⟨fuel - 1, by omega⟩
  obtain ⟨stop, reads⟩ := exists_readString text rest (position.right 1)
  have opens : readNode (fuel + 1) ⟨stringChars text ++ rest, position⟩ =
      readStringNode ⟨text.toList.flatMap escapedChar ++ ['"'] ++ rest, position.right 1⟩ := rfl
  refine ⟨.string (.ok text) stop, stop, ?_, rfl⟩
  rw [opens, List.append_assoc, List.singleton_append, readStringNode, reads]

/-- A number starts with its sign or a digit. -/
theorem readNode_number {c : Char} (starts : c = '-' ∨ c.isDigit) (fuel : Nat) (rest : List Char)
    (position : Position) :
    readNode (fuel + 1) ⟨c :: rest, position⟩ = readNumberNode ⟨c :: rest, position⟩ := by
  have isNumber : (c = '-' || (digitValue c).isSome) = true := by
    rcases starts with rfl | digit
    · rfl
    · rw [digitValue_of_isDigit digit, Option.isSome_some, Bool.or_true]
  have other : ∀ letter ∈ ['n', 't', 'f', '"'], c ≠ letter := by
    rintro letter listed rfl
    revert listed starts
    simp only [List.mem_cons, List.not_mem_nil, or_false]
    rintro starts (rfl | rfl | rfl | rfl) <;> revert starts <;> decide
  simp only [List.forall_mem_cons] at other
  obtain ⟨notNull, notTrue, notFalse, noQuote, -⟩ := other
  simp only [readNode, if_neg notNull, if_neg notTrue, if_neg notFalse, if_neg noQuote,
    if_pos isNumber]

theorem readsAs_integer {value : Int} (word : IsWord value) :
    ReadsAs (integerChars value) (.number (.integer value)) := by
  intro fuel position rest ends enough
  obtain ⟨fuel, rfl⟩ : ∃ fewer, fuel = fewer + 1 := ⟨fuel - 1, by omega⟩
  obtain ⟨stop, reads⟩ := exists_readNumber word ends position
  have starts : ∃ c more, integerChars value = c :: more ∧ (c = '-' ∨ c.isDigit) := by
    rw [integerChars]
    split
    · exact ⟨'-', _, rfl, .inl rfl⟩
    · obtain ⟨c, more, spelled, digit⟩ := exists_toDigits value.natAbs
      exact ⟨c, more, spelled, .inr digit⟩
  obtain ⟨c, more, spelled, starts⟩ := starts
  refine ⟨.number (.ok (.integer value)) stop, stop, ?_, rfl⟩
  rw [spelled, List.cons_append] at reads ⊢
  rw [readNode_number starts, readNumberNode, reads]

theorem all_isGap_breakAt (depth : Nat) : (breakAt depth).all isGap := by
  rw [breakAt, List.all_cons, List.all_replicate]
  cases depth <;> rfl

/-- A value is read from its text over several lines. -/
theorem readsAs_spreadChars {value : Value} (words : value.HasWords) (depth : Nat) :
    ReadsAs (value.spreadChars depth) value := by
  have none : ([] : List Char).all isGap := rfl
  have breaks := all_isGap_breakAt
  induction words generalizing depth with
  | null => exact readsAs_null
  | bool flag => exact readsAs_bool depth flag
  | integer word => exact readsAs_integer word
  | string text => exact readsAs_string text
  | @array items _ ih =>
      have each : List.Forall₂ ReadsAs (spreadItems (depth + 1) items) items := by
        rw [spreadItems_eq_map, List.forall₂_map_left_iff, List.forall₂_same]
        exact fun item inside => ih item inside (depth + 1)
      rw [Value.spreadChars, spread]
      split
      · next empty =>
        rw [List.isEmpty_iff.mp empty] at each
        exact readsAs_array none none none each
      · simpa only [List.append_assoc, List.cons_append] using
          readsAs_array (breaks (depth + 1)) (breaks (depth + 1)) (breaks depth) each
  | @object members _ ih =>
      have each : List.Forall₂ ReadsAsMember (spreadMembers (depth + 1) members) members := by
        rw [spreadMembers_eq_map, List.forall₂_map_left_iff, List.forall₂_same]
        exact fun member inside => ⟨[' '], _, rfl, ih member inside (depth + 1), rfl⟩
      rw [Value.spreadChars, spread]
      split
      · next empty =>
        rw [List.isEmpty_iff.mp empty] at each
        exact readsAs_object none none none each
      · simpa only [List.append_assoc, List.cons_append] using
          readsAs_object (breaks (depth + 1)) (breaks (depth + 1)) (breaks depth) each

theorem memberChars_eq_map (members : List (String × Value)) :
    memberChars members = members.map fun member =>
      stringChars member.1 ++ ':' :: member.2.chars := by
  induction members with
  | nil => rfl
  | cons member rest ih =>
      obtain ⟨key, value⟩ := member
      rw [memberChars, ih, List.map_cons]

/-- An object is read from its text on one line, as long as its members are. -/
theorem readsAs_chars_object {members : List (String × Value)}
    (each : ∀ member ∈ members, ReadsAs member.2.chars member.2) :
    ReadsAs (Value.object members).chars (.object members) := by
  have none : ([] : List Char).all isGap := rfl
  have parts : List.Forall₂ ReadsAsMember (memberChars members) members := by
    rw [memberChars_eq_map, List.forall₂_map_left_iff, List.forall₂_same]
    exact fun member inside => ⟨[], _, rfl, each member inside, rfl⟩
  exact readsAs_object none none none parts

/-! ## Whole texts -/

/-- Of a piece with white space behind it, the whole text has the value written that is read. -/
theorem ReadsAs.asWritten?_ofText {piece : List Char} {value : Value} (reads : ReadsAs piece value)
    {gap : List Char} (gaps : gap.all isGap) :
    (Document.ofText (String.ofList (piece ++ gap))).asWritten? = some value := by
  have ends : EndsNumber gap := by
    cases gap with
    | nil => exact fun c isFirst => by cases isFirst
    | cons space gap =>
        rw [List.all_cons, Bool.and_eq_true] at gaps
        exact endsNumber_space gaps.1 gap
  obtain ⟨c, tail, starts, solid, -⟩ := reads.exists_cons
  have atStart :
      (Cursor.ofText (String.ofList (piece ++ gap))).skipGap = ⟨piece ++ gap, .start⟩ := by
    rw [Cursor.ofText, String.toList_ofList, Cursor.skipGap, starts, List.cons_append, skipGapFrom,
      solid]
    rfl
  obtain ⟨node, stop, done, written⟩ := reads (3 * (piece ++ gap).length + 1) .start gap ends (by
    rw [List.length_append]
    omega)
  obtain ⟨final, skips⟩ := exists_skipGapFrom_all gaps stop
  have tree : Document.ofText (String.ofList (piece ++ gap)) = ⟨node, some ⟨final, none⟩⟩ := by
    simp only [Document.ofText, atStart, done, Option.map_some]
    rw [Cursor.skipGap, skips]
    rfl
  rw [tree]
  exact Document.asWritten?_eq_some_iff.mpr ⟨written, by rintro place ⟨⟩; rfl⟩

theorem asWritten?_compact {value : Value} (reads : ReadsAs value.chars value) :
    (Document.ofText value.compact).asWritten? = some value := by
  have none : ([] : List Char).all isGap := rfl
  have written := reads.asWritten?_ofText none
  rwa [List.append_nil] at written

/-- The text of a value, with white space behind it, is read as the value in order, if that does not
nest too deep. -/
theorem ReadsAs.ofText_eq_ok_iff {piece : List Char} {value : Value} (reads : ReadsAs piece value)
    {gap : List Char} (gaps : gap.all isGap) {result : Value} :
    Value.ofText (String.ofList (piece ++ gap)) = .ok result ↔
      value.height < maxDepth ∧ result = value.ordered := by
  rw [ofText_eq_ok_iff_asWritten, reads.asWritten?_ofText gaps]
  simp

/-- A printed value is read back as this value in order, if it does not nest too deep. -/
theorem ofText_pretty_eq_ok_iff {value : Value} (words : value.HasWords) {result : Value} :
    Value.ofText (value.pretty ++ "\n") = .ok result ↔
      value.height < maxDepth ∧ result = value.ordered := by
  have spelled : value.pretty ++ "\n" = String.ofList (value.spreadChars 0 ++ ['\n']) := by
    rw [Value.pretty, String.ofList_append]
  rw [spelled]
  exact (readsAs_spreadChars words 0).ofText_eq_ok_iff rfl

end RpcSchema.Json
