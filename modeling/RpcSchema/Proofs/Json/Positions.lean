import Mathlib.Data.List.Basic
import RpcSchema.Json.Fault
import RpcSchema.Proofs.Text.Bytes

/-!
# Positions in a text

A position is told by the bytes in front of it: how many line feeds are among them, and how many
bytes there are behind the last one. What is read of a text is characters, and the position behind
them is counted along; it stands in the text whenever it is behind some of its bytes, even within a
character.
-/

namespace RpcSchema.Json

open Text

/-! ## Bytes in front of a position -/

/-- The byte that ends a line. -/
def lineFeed : UInt8 := 10

theorem encodeChar_lineFeed : String.utf8EncodeChar '\n' = [lineFeed] := by decide

/-- No other character has a line feed in its encoding. -/
theorem lineFeed_not_mem {c : Char} (other : c ≠ '\n') : lineFeed ∉ String.utf8EncodeChar c := by
  intro member
  rcases Nat.lt_or_ge c.toNat 128 with ascii | beyond
  · rw [encodeChar_of_ascii ascii, List.mem_singleton] at member
    have code := congrArg UInt8.toNat member
    rw [UInt8.toNat_ofNat', Nat.mod_eq_of_lt (by omega)] at code
    exact other (Char.toNat_inj.mp code.symm)
  · exact absurd (le_of_mem_encodeChar beyond member) (by decide)

namespace Position

/-- The position behind some bytes. -/
def behind (front : List UInt8) : Position :=
  ⟨front.count lineFeed + 1, (front.reverse.takeWhile (· != lineFeed)).length⟩

/-- A position that is behind some of the first bytes of a text. -/
def Stands (bytes : List UInt8) (position : Position) : Prop :=
  ∃ front, front <+: bytes ∧ position = behind front

/-- Bytes without a line feed are that many columns. -/
theorem behind_append {front block : List UInt8} (unbroken : lineFeed ∉ block) :
    behind (front ++ block) = (behind front).right block.length := by
  have all : ∀ byte ∈ block.reverse, (byte != lineFeed) = true := by
    intro byte member
    simpa using fun same : byte = lineFeed => unbroken (same ▸ List.mem_reverse.mp member)
  rw [behind, behind, right, List.count_append, List.count_eq_zero.mpr unbroken,
    List.reverse_append, List.takeWhile_append_of_pos all, List.length_append,
    List.length_reverse, Nat.add_zero, Nat.add_comm block.length]

theorem behind_concat_lineFeed (front : List UInt8) :
    behind (front ++ [lineFeed]) = ⟨(behind front).line + 1, 0⟩ := by
  simp [behind]

/-- The position behind a character is that behind its bytes. -/
theorem behind_append_encodeChar (front : List UInt8) (c : Char) :
    behind (front ++ String.utf8EncodeChar c) = (behind front).next c := by
  rw [next]
  split
  · next isFeed => rw [isFeed, encodeChar_lineFeed, behind_concat_lineFeed]
  · next other =>
    rw [behind_append (lineFeed_not_mem other), String.length_utf8EncodeChar, right]

/-- A position behind the first byte of a character is behind that byte. -/
theorem behind_append_first {front rest : List UInt8} {byte : UInt8} {c : Char}
    (starts : String.utf8EncodeChar c = byte :: rest) :
    behind (front ++ [byte]) = (behind front).nextByte c := by
  rw [nextByte]
  split
  · next isFeed =>
    rw [isFeed, encodeChar_lineFeed, List.cons.injEq] at starts
    rw [← starts.1, behind_concat_lineFeed]
  · next other =>
    have absent := lineFeed_not_mem other
    rw [starts, List.mem_cons, not_or] at absent
    rw [behind_append (by simpa using absent.1)]
    rfl

end Position

/-! ## Cursors -/

/-- What is left at a cursor are the bytes of a text behind its position. -/
def Cursor.Within (bytes : List UInt8) (cursor : Cursor) : Prop :=
  ∃ front, bytes = front ++ encoded cursor.rest ∧ cursor.position = .behind front

/-- A character of a line that is a single byte. -/
def isInline (c : Char) : Bool := c.toNat < 128 && c != '\n'

theorem encoded_inline {block : List Char} (inline : block.all isInline) :
    lineFeed ∉ encoded block ∧ (encoded block).length = block.length := by
  induction block with
  | nil => exact ⟨List.not_mem_nil, rfl⟩
  | cons c block ih =>
      rw [List.all_cons, Bool.and_eq_true, isInline, Bool.and_eq_true, decide_eq_true_eq,
        bne_iff_ne] at inline
      obtain ⟨absent, length⟩ := ih inline.2
      rw [encoded_cons, List.mem_append, not_or, List.length_append, length, List.length_cons,
        encodeChar_of_ascii inline.1.1]
      exact ⟨⟨encodeChar_of_ascii inline.1.1 ▸ lineFeed_not_mem inline.1.2, absent⟩,
        Nat.add_comm _ _⟩

theorem Cursor.within_ofText (text : String) : (Cursor.ofText text).Within (bytes text) :=
  ⟨[], bytes_eq text, rfl⟩

namespace Cursor.Within

variable {bytes : List UInt8} {rest : List Char} {position : Position} {c : Char}

theorem stands {cursor : Cursor} (within : cursor.Within bytes) :
    cursor.position.Stands bytes := by
  obtain ⟨front, whole, stand⟩ := within
  exact ⟨front, whole ▸ List.prefix_append _ _, stand⟩

theorem next (within : Cursor.Within bytes ⟨c :: rest, position⟩) :
    Cursor.Within bytes ⟨rest, position.next c⟩ := by
  obtain ⟨front, whole, stand⟩ := within
  refine ⟨front ++ String.utf8EncodeChar c, ?_, ?_⟩
  · rw [whole, encoded_cons, List.append_assoc]
  · rw [Position.behind_append_encodeChar, ← stand]

theorem right {block : List Char} (inline : block.all isInline)
    (within : Cursor.Within bytes ⟨block ++ rest, position⟩) :
    Cursor.Within bytes ⟨rest, position.right block.length⟩ := by
  obtain ⟨front, whole, stand⟩ := within
  obtain ⟨absent, length⟩ := encoded_inline inline
  refine ⟨front ++ encoded block, ?_, ?_⟩
  · rw [whole, encoded_append, List.append_assoc]
  · rw [Position.behind_append absent, length, ← stand]

theorem after (within : Cursor.Within bytes ⟨rest, position⟩) :
    (position.after rest).Stands bytes := by
  induction rest generalizing position with
  | nil => exact within.stands
  | cons c rest ih => exact ih within.next

theorem nextByte (within : Cursor.Within bytes ⟨c :: rest, position⟩) :
    (position.nextByte c).Stands bytes := by
  obtain ⟨front, whole, stand⟩ := within
  obtain ⟨byte, tail, starts⟩ := List.exists_cons_of_ne_nil
    (show String.utf8EncodeChar c ≠ [] by rw [encodeChar_eq]; exact List.cons_ne_nil _ _)
  refine ⟨front ++ [byte], ?_, ?_⟩
  · rw [whole, encoded_cons, starts]
    exact ⟨tail ++ encoded rest, by simp⟩
  · rw [Position.behind_append_first starts, ← stand]

/-- Some of the columns of single bytes on one line. -/
theorem stands_right {block : List Char} (inline : block.all isInline)
    (within : Cursor.Within bytes ⟨block ++ rest, position⟩) {columns : Nat}
    (few : columns ≤ block.length) : (position.right columns).Stands bytes := by
  rw [← List.take_append_drop columns block, List.append_assoc] at within
  have taken : (block.take columns).all isInline := List.all_eq_true.mpr fun c member =>
    List.all_eq_true.mp inline c (List.mem_of_mem_take member)
  have stands := (within.right taken).stands
  rwa [List.length_take, Nat.min_eq_left few] at stands

theorem right_one (inline : isInline c) (within : Cursor.Within bytes ⟨c :: rest, position⟩) :
    Cursor.Within bytes ⟨rest, position.right 1⟩ :=
  right (show [c].all isInline by rw [List.all_cons, inline]; rfl) within

theorem past {cursor : Cursor} (within : cursor.Within bytes) (spelled : cursor.rest = c :: rest)
    (inline : isInline c) : Cursor.Within bytes ⟨rest, cursor.position.right 1⟩ := by
  obtain ⟨_, position⟩ := cursor
  obtain rfl := spelled
  exact within.right_one inline

/-- Some of the bytes of a character. -/
theorem stands_bytes (other : c ≠ '\n') (within : Cursor.Within bytes ⟨c :: rest, position⟩)
    {count : Nat} (few : count ≤ c.utf8Size) : (position.right count).Stands bytes := by
  obtain ⟨front, whole, stand⟩ := within
  have unbroken : lineFeed ∉ (String.utf8EncodeChar c).take count := fun member =>
    lineFeed_not_mem other (List.mem_of_mem_take member)
  refine ⟨front ++ (String.utf8EncodeChar c).take count, ?_, ?_⟩
  · rw [whole, encoded_cons, ← List.append_assoc]
    exact (List.prefix_append_right_inj front |>.mpr (List.take_prefix _ _)).trans
      (List.prefix_append _ _)
  · rw [Position.behind_append unbroken, List.length_take, String.length_utf8EncodeChar,
      Nat.min_eq_left few, ← stand]

theorem skipGapFrom (within : Cursor.Within bytes ⟨rest, position⟩) :
    (skipGapFrom rest position).Within bytes := by
  induction rest generalizing position with
  | nil => exact within
  | cons c rest ih =>
      rw [Json.skipGapFrom]
      split
      · exact ih within.next
      · exact within

theorem skipGap {cursor : Cursor} (within : cursor.Within bytes) : cursor.skipGap.Within bytes :=
  skipGapFrom within

theorem skipComma {cursor : Cursor} (within : cursor.Within bytes) :
    cursor.skipComma.Within bytes := by
  obtain ⟨rest, position⟩ := cursor
  rw [Cursor.skipComma]
  split
  · next tail spelled =>
    obtain rfl : rest = ',' :: tail := spelled
    exact skipGapFrom (within.right_one (by decide))
  · exact within

end Cursor.Within

/-! ## Places and faults -/

/-- A place of a text: reading may stop there, or behind the byte there. -/
def Place.Stands (bytes : List UInt8) (place : Place) : Prop :=
  place.position.Stands bytes ∧ place.beyond.Stands bytes

theorem Cursor.Within.place {bytes : List UInt8} {cursor : Cursor} (within : cursor.Within bytes) :
    cursor.place.Stands bytes := by
  refine ⟨within.stands, ?_⟩
  obtain ⟨rest, position⟩ := cursor
  cases rest with
  | nil => exact within.stands
  | cons c rest => exact within.nextByte

theorem Place.Stands.past {bytes : List UInt8} {place : Place} (stands : place.Stands bytes)
    (c : Char) : (place.past c).Stands bytes := by
  rw [Place.past]
  split
  · exact stands.2
  · exact stands.1

namespace Fault

/-- A fault that is somewhere in a text, if it is anywhere. -/
def Within (bytes : List UInt8) (fault : Fault) : Prop :=
  ∀ position, fault.position = some position → position.Stands bytes

/-- A fault that is somewhere in a text. -/
def Stops (bytes : List UInt8) (fault : Fault) : Prop :=
  ∃ position, fault.position = some position ∧ position.Stands bytes

variable {bytes : List UInt8}

theorem stops_stop {position : Position} (stands : position.Stands bytes) (cause : Cause) :
    (stop cause position).Stops bytes := ⟨position, rfl, stands⟩

theorem Stops.within {fault : Fault} (stops : fault.Stops bytes) : fault.Within bytes := by
  obtain ⟨position, found, stands⟩ := stops
  intro other isOther
  rw [found] at isOther
  exact Option.some.inj isOther ▸ stands

/-- A fault without a position stops at the one it is given. -/
theorem Within.settle {fault : Fault} (within : fault.Within bytes) {position : Position}
    (stands : position.Stands bytes) : (fault.settle position).Stops bytes := by
  refine ⟨_, rfl, ?_⟩
  cases found : fault.position with
  | none => exact stands
  | some own => exact within own found

end Fault

/-- What holds of a value that is read, or of the fault that is there instead. -/
def Lands {α : Type} (allowed : Fault → Prop) (holds : α → Prop) : Except Fault α → Prop
  | .ok value => holds value
  | .error fault => allowed fault

/-- A result whose fault, if it is one, stands in the text. -/
abbrev StopsWithin (bytes : List UInt8) {α : Type} (result : Except Fault α) : Prop :=
  Lands (Fault.Stops bytes) (fun _ => True) result

namespace Lands

variable {α β : Type} {allowed : Fault → Prop} {holds : α → Prop}

theorem bind {result : Except Fault α} {next : α → Except Fault β} {behind : β → Prop}
    (lands : Lands allowed holds result)
    (later : ∀ value, holds value → Lands allowed behind (next value)) :
    Lands allowed behind (result >>= next) := by
  cases result with
  | ok value => exact later value lands
  | error fault => exact lands

theorem map {result : Except Fault α} {behind : β → Prop} {change : α → β}
    (lands : Lands allowed (fun value => behind (change value)) result) :
    Lands allowed behind (result.map change) := by
  cases result with
  | ok value => exact lands
  | error fault => exact lands

end Lands

end RpcSchema.Json
