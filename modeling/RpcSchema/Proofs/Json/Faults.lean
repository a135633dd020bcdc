import RpcSchema.Json.Decoding
import RpcSchema.Proofs.Json.Leaves

/-!
# Where reading fails

Every place that the tree of a text keeps stands in that text, and so does every fault that is met
when the tree is taken as a value, passed over or decoded. Only a fault of a whole record may have
no position, and then the record around it gives it one.
-/

namespace RpcSchema.Json

variable {bytes : List UInt8}

/-! ## Trees -/

mutual
/-- A tree whose places are those of a text. -/
def Node.Within (bytes : List UInt8) : Node → Prop
  | .word _ stop => stop.Stands bytes
  | .number value stop => StopsWithin bytes value ∧ stop.Stands bytes
  | .string text stop => StopsWithin bytes text ∧ stop.Stands bytes
  | .array start elements => start.Stands bytes ∧ elements.Within bytes
  | .object start members => start.Stands bytes ∧ members.Within bytes
  | .absent place => place.Stands bytes
  | .broken taken passed => taken.Stops bytes ∧ passed.Stops bytes

def Elements.Within (bytes : List UInt8) : Elements → Prop
  | .close place => place.Stands bytes
  | .cut place => place.Stands bytes
  | .next start head tail => start.Stands bytes ∧ head.Within bytes ∧ tail.Within bytes

def Members.Within (bytes : List UInt8) : Members → Prop
  | .close place => place.Stands bytes
  | .cut place => place.Stands bytes
  | .keyless _ place => place.Stands bytes
  | .broken taken passed => taken.Stops bytes ∧ passed.Stops bytes
  | .bare key place => StopsWithin bytes key ∧ place.Stands bytes
  | .next key colon value follow tail =>
    StopsWithin bytes key ∧ colon.Stands bytes ∧ value.Within bytes ∧
      follow.Stands bytes ∧ tail.Within bytes
end

theorem Elements.Within.stands_rest {elements : Elements} (places : elements.Within bytes) :
    elements.rest.Stands bytes := by
  cases elements with
  | close place => exact places.2
  | cut place => exact places.1
  | next start head tail => exact places.1.1

theorem Elements.Within.stands_leave {elements : Elements} (places : elements.Within bytes) :
    elements.leave.Stands bytes := by
  unfold Elements.leave
  split
  · split
    · exact places.2.2.1
    · exact places.1.1
  · exact places.stands_rest

/-- A reading that is left at a cursor of the text, unless the text breaks off inside. -/
structure Reading.Within {α : Type} (holds : α → Prop) (bytes : List UInt8) (reading : Reading α) :
    Prop where
  tree : holds reading.1
  after : ∀ cursor, reading.2 = some cursor → cursor.Within bytes

section Reader

theorem Reading.Within.stopped {α : Type} {holds : α → Prop} {tree : α} (held : holds tree) :
    Reading.Within holds bytes (tree, none) :=
  ⟨held, fun _ found => by cases found⟩

theorem Reading.Within.goesOn {α : Type} {holds : α → Prop} {tree : α} {cursor : Cursor}
    (held : holds tree) (within : cursor.Within bytes) :
    Reading.Within holds bytes (tree, some cursor) :=
  ⟨held, fun _ found => Option.some.inj found ▸ within⟩

variable {cursor : Cursor} (within : cursor.Within bytes)
include within

theorem within_readWordNode (value : Option Bool) (letters : List Char) :
    Reading.Within (Node.Within bytes) bytes (readWordNode value letters cursor) := by
  have lands := lands_readWord letters within
  rw [readWordNode]
  cases found : readWord letters cursor with
  | ok after =>
      rw [found] at lands
      exact .goesOn lands.stands lands
  | error fault =>
      rw [found] at lands
      exact .stopped ⟨lands, lands⟩

theorem within_readNumberNode :
    Reading.Within (Node.Within bytes) bytes (readNumberNode cursor) := by
  have reading := within_readNumber within
  rw [readNumberNode]
  cases found : readNumber cursor with
  | closed value after =>
      rw [found] at reading
      exact .goesOn ⟨reading.1, reading.2.stands⟩ reading.2
  | «open» taken passed =>
      rw [found] at reading
      exact .stopped reading

theorem within_readStringNode :
    Reading.Within (Node.Within bytes) bytes (readStringNode cursor) := by
  have reading := within_readString within
  rw [readStringNode]
  cases found : readString cursor with
  | closed text after =>
      rw [found] at reading
      exact .goesOn ⟨reading.1, reading.2.stands⟩ reading.2
  | «open» taken passed =>
      rw [found] at reading
      exact .stopped reading

end Reader

/-- What a number of steps reads of a text. -/
structure ReadsWithin (bytes : List UInt8) (fuel : Nat) : Prop where
  node : ∀ {cursor}, cursor.Within bytes →
    Reading.Within (Node.Within bytes) bytes (readNode fuel cursor)
  firstElement : ∀ {cursor}, cursor.Within bytes →
    Reading.Within (Elements.Within bytes) bytes (readFirstElement fuel cursor)
  elements : ∀ {cursor}, cursor.Within bytes →
    Reading.Within (Elements.Within bytes) bytes (readElements fuel cursor)
  firstMember : ∀ {cursor}, cursor.Within bytes →
    Reading.Within (Members.Within bytes) bytes (readFirstMember fuel cursor)
  members : ∀ {cursor} first, cursor.Within bytes →
    Reading.Within (Members.Within bytes) bytes (readMembers fuel first cursor)

section Step

variable {fuel : Nat} (reads : ReadsWithin bytes fuel) {cursor : Cursor}
  (within : cursor.Within bytes)
include reads within

theorem within_readNode_succ :
    Reading.Within (Node.Within bytes) bytes (readNode (fuel + 1) cursor) := by
  obtain ⟨rest, position⟩ := cursor
  cases rest with
  | nil => exact .stopped within.place
  | cons c rest =>
      rw [readNode]
      dsimp only
      split
      · next letter => exact within_readWordNode ((letter ▸ within).right_one (by decide)) _ _
      split
      · next letter => exact within_readWordNode ((letter ▸ within).right_one (by decide)) _ _
      split
      · next letter => exact within_readWordNode ((letter ▸ within).right_one (by decide)) _ _
      split
      · next quote => exact within_readStringNode ((quote ▸ within).right_one (by decide))
      split
      · exact within_readNumberNode within
      split
      · next bracket =>
        have inner := reads.firstElement ((bracket ▸ within).right_one (by decide)).skipGap
        exact ⟨⟨within.place, inner.tree⟩, inner.after⟩
      split
      · next brace =>
        have inner := reads.firstMember ((brace ▸ within).right_one (by decide)).skipGap
        exact ⟨⟨within.place, inner.tree⟩, inner.after⟩
      · exact .stopped within.place

theorem within_readFirstElement_succ :
    Reading.Within (Elements.Within bytes) bytes (readFirstElement (fuel + 1) cursor) := by
  rw [readFirstElement]
  split
  · exact .stopped within.place
  · next bracket => exact .goesOn within.place (within.past bracket (by decide))
  · exact reads.elements within

theorem within_readElements_succ :
    Reading.Within (Elements.Within bytes) bytes (readElements (fuel + 1) cursor) := by
  have headReading := reads.node within
  rw [readElements]
  split
  · next head found =>
    rw [found] at headReading
    exact .stopped ⟨within.place, headReading.tree, within.skipComma.place⟩
  · next head after found =>
    rw [found] at headReading
    have follow := (headReading.after after rfl).skipGap
    dsimp only
    split
    · next bracket =>
      exact .goesOn ⟨within.place, headReading.tree, follow.place⟩
        (follow.past bracket (by decide))
    · next comma =>
      have tailReading := reads.elements (follow.past comma (by decide)).skipGap
      exact ⟨⟨within.place, headReading.tree, tailReading.tree⟩, tailReading.after⟩
    · exact .stopped ⟨within.place, headReading.tree, follow.place⟩

theorem within_readFirstMember_succ :
    Reading.Within (Members.Within bytes) bytes (readFirstMember (fuel + 1) cursor) := by
  rw [readFirstMember]
  split
  · next brace => exact .goesOn within.place (within.past brace (by decide))
  · exact reads.members true within

theorem within_readMembers_succ (first : Bool) :
    Reading.Within (Members.Within bytes) bytes (readMembers (fuel + 1) first cursor) := by
  rw [readMembers]
  split
  · next quote =>
    have keyReading := within_readString (within.past quote (by decide))
    split
    · next found =>
      rw [found] at keyReading
      exact .stopped keyReading
    · next key after found =>
      rw [found] at keyReading
      have colon := keyReading.2.skipGap
      dsimp only
      split
      · next isColon =>
        have valueReading := reads.node (colon.past isColon (by decide)).skipGap
        split
        · next broken =>
          rw [broken] at valueReading
          exact .stopped ⟨keyReading.1, colon.place, valueReading.tree, colon.place, colon.place⟩
        · next value behind found =>
          rw [found] at valueReading
          have follow := (valueReading.after behind rfl).skipGap
          split
          · next brace =>
            exact .goesOn ⟨keyReading.1, colon.place, valueReading.tree, follow.place, follow.place⟩
              (follow.past brace (by decide))
          · next comma =>
            have tailReading := reads.members false (follow.past comma (by decide)).skipGap
            exact ⟨⟨keyReading.1, colon.place, valueReading.tree, follow.place, tailReading.tree⟩,
              tailReading.after⟩
          · exact .stopped
              ⟨keyReading.1, colon.place, valueReading.tree, follow.place, follow.place⟩
      · exact .stopped ⟨keyReading.1, colon.place⟩
  · exact .stopped within.place

end Step

theorem readsWithin (bytes : List UInt8) (fuel : Nat) : ReadsWithin bytes fuel := by
  induction fuel with
  | zero =>
      exact ⟨fun within => .stopped within.place, fun within => .stopped within.place,
        fun within => .stopped within.place, fun within => .stopped within.place,
        fun _ within => .stopped within.place⟩
  | succ fuel ih =>
      exact ⟨within_readNode_succ ih, within_readFirstElement_succ ih, within_readElements_succ ih,
        within_readFirstMember_succ ih, fun first within => within_readMembers_succ ih within first⟩

/-- The tree of a text keeps places of that text. -/
structure Document.Within (bytes : List UInt8) (document : Document) : Prop where
  root : document.root.Within bytes
  follow : ∀ place, document.follow = some place → place.Stands bytes

theorem within_ofText (text : String) : (Document.ofText text).Within (Text.bytes text) := by
  have start := (Cursor.within_ofText text).skipGap
  have reading := (readsWithin (Text.bytes text)
    (3 * (Cursor.ofText text).skipGap.rest.length + 1)).node start
  refine ⟨reading.tree, fun place found => ?_⟩
  obtain ⟨cursor, behind, rfl⟩ := Option.map_eq_some_iff.mp found
  exact (reading.after cursor behind).skipGap.place

/-! ## Values -/

theorem stopsWithin_enter (depth : Nat) {start : Place} (stands : start.Stands bytes) :
    StopsWithin bytes (enter depth start) := by
  rw [enter]
  split
  · exact Fault.stops_stop stands.2 _
  · trivial

mutual
theorem Node.stopsWithin_value (depth : Nat) :
    ∀ {node : Node}, node.Within bytes → StopsWithin bytes (node.value depth)
  | .word none _, _ => trivial
  | .word (some _) _, _ => trivial
  | .number _ _, within => .map within.1
  | .string _ _, within => .map within.1
  | .array _ _, within =>
    (stopsWithin_enter depth within.1).bind fun depth _ =>
      (Elements.stopsWithin_values depth within.2).bind fun _ _ => trivial
  | .object _ _, within =>
    (stopsWithin_enter depth within.1).bind fun depth _ =>
      (Members.stopsWithin_values depth within.2).bind fun _ _ => trivial
  | .absent _, within => Fault.stops_stop within.2 _
  | .broken _ _, within => within.1

theorem Elements.stopsWithin_values (depth : Nat) :
    ∀ {elements : Elements}, elements.Within bytes → StopsWithin bytes (elements.values depth)
  | .close _, _ => trivial
  | .cut _, within => Fault.stops_stop within.2 _
  | .next start _ _, within => by
    rw [Elements.values]
    split
    · exact Fault.stops_stop within.1.2 _
    · exact (Node.stopsWithin_value depth within.2.1).bind fun _ _ =>
        (Elements.stopsWithin_values depth within.2.2).bind fun _ _ => trivial

theorem Members.stopsWithin_values (depth : Nat) :
    ∀ {members : Members}, members.Within bytes → StopsWithin bytes (members.values depth)
  | .close _, _ => trivial
  | .cut _, within => Fault.stops_stop within.2 _
  | .keyless _ _, within => Fault.stops_stop within.2 _
  | .broken _ _, within => within.1
  | .bare (.ok _) _, within => Fault.stops_stop within.2.2 _
  | .bare (.error _) _, within => within.1
  | .next _ _ _ _ _, within =>
    within.1.bind fun _ _ => (Node.stopsWithin_value depth within.2.2.1).bind fun _ _ =>
      (Members.stopsWithin_values depth within.2.2.2.2).bind fun _ _ => trivial
end

mutual
theorem Node.stopsWithin_pass : ∀ {node : Node}, node.Within bytes → StopsWithin bytes node.pass
  | .word _ _, _ => trivial
  | .number _ _, _ => trivial
  | .string _ _, _ => trivial
  | .array _ _, within => Elements.stopsWithin_pass within.2
  | .object _ _, within => Members.stopsWithin_pass within.2
  | .absent _, within => Fault.stops_stop within.2 _
  | .broken _ _, within => within.2

theorem Elements.stopsWithin_pass :
    ∀ {elements : Elements}, elements.Within bytes → StopsWithin bytes elements.pass
  | .close _, _ => trivial
  | .cut _, within => Fault.stops_stop within.2 _
  | .next _ _ _, within =>
    (Node.stopsWithin_pass within.2.1).bind fun _ _ => Elements.stopsWithin_pass within.2.2

theorem Members.stopsWithin_pass :
    ∀ {members : Members}, members.Within bytes → StopsWithin bytes members.pass
  | .close _, _ => trivial
  | .cut _, within => Fault.stops_stop within.2 _
  | .keyless _ _, within => Fault.stops_stop within.2 _
  | .broken _ _, within => within.2
  | .bare _ _, within => Fault.stops_stop within.2.2 _
  | .next _ _ _ _ _, within =>
    (Node.stopsWithin_pass within.2.2.1).bind fun _ _ => Members.stopsWithin_pass within.2.2.2.2
end

theorem Node.stops_refuse {node : Node} (within : node.Within bytes) (expected : String) :
    (node.refuse expected).Stops bytes := by
  cases node with
  | word value stop => cases value <;> exact Fault.stops_stop within _
  | number value stop =>
      cases value with
      | ok value => exact Fault.stops_stop within.2 _
      | error fault => exact within.1
  | string text stop =>
      cases text with
      | ok text => exact Fault.stops_stop within.2 _
      | error fault => exact within.1
  | array start elements => exact Fault.stops_stop within.1.1 _
  | object start members => exact Fault.stops_stop within.1.1 _
  | absent place => exact Fault.stops_stop within.2 _
  | broken taken passed => exact within.1

/-! ## Decoders -/

/-- The faults that a decoder meets in trees of a text are of a kind. -/
def Decoder.Allows {α : Type} (bytes : List UInt8) (allowed : Fault → Prop) (decode : Decoder α) :
    Prop :=
  ∀ depth {node}, node.Within bytes → Lands allowed (fun _ => True) (decode depth node)

/-- The faults that a decoder meets in trees of a text stand in that text. -/
abbrev Decoder.Stops {α : Type} (bytes : List UInt8) (decode : Decoder α) : Prop :=
  decode.Allows bytes (Fault.Stops bytes)

namespace Decoder

variable {α : Type} {decode : Decoder α} {allowed : Fault → Prop}

theorem Stops.within (stops : decode.Stops bytes) : decode.Allows bytes (Fault.Within bytes) := by
  intro depth node within
  have lands := stops depth within
  cases result : decode depth node with
  | ok value => trivial
  | error fault =>
      rw [result] at lands
      exact lands.within

theorem stops_value : Decoder.value.Stops bytes := fun depth _ within =>
  Node.stopsWithin_value depth within

theorem stops_string : Decoder.string.Stops bytes := by
  intro depth node within
  cases node with
  | string text stop => exact within.1
  | _ => exact Node.stops_refuse within _

theorem stops_bool : Decoder.bool.Stops bytes := by
  intro depth node within
  cases node with
  | word value stop =>
      cases value with
      | none => exact Node.stops_refuse within _
      | some value => trivial
  | _ => exact Node.stops_refuse within _

theorem Allows.optional (allows : decode.Allows bytes allowed) :
    (Decoder.optional decode).Allows bytes allowed := by
  intro depth node within
  have lands := allows depth within
  unfold Decoder.optional
  split
  · trivial
  · exact .map lands

theorem Stops.elements (stops : decode.Stops bytes) (depth : Nat) :
    ∀ {items : Elements}, items.Within bytes → StopsWithin bytes (elements decode depth items)
  | .close _, _ => trivial
  | .cut _, within => Fault.stops_stop within.2 _
  | .next _ _ _, within => by
    rw [Decoder.elements]
    split
    · exact Fault.stops_stop within.1.2 _
    · exact (stops depth within.2.1).bind fun _ _ =>
        (stops.elements depth within.2.2).bind fun _ _ => trivial

theorem Stops.list (stops : decode.Stops bytes) : (Decoder.list decode).Stops bytes := by
  intro depth node within
  cases node with
  | array start items =>
      exact (stopsWithin_enter depth within.1).bind fun depth _ => stops.elements depth within.2
  | _ => exact Node.stops_refuse within _

theorem Stops.members (stops : decode.Stops bytes) (depth : Nat) :
    ∀ {items : Members}, items.Within bytes → StopsWithin bytes (members decode depth items)
  | .close _, _ => trivial
  | .cut _, within => Fault.stops_stop within.2 _
  | .keyless _ _, within => Fault.stops_stop within.2 _
  | .broken _ _, within => within.1
  | .bare (.ok _) _, within => Fault.stops_stop within.2.2 _
  | .bare (.error _) _, within => within.1
  | .next _ _ _ _ _, within =>
    within.1.bind fun _ _ => (stops depth within.2.2.1).bind fun _ _ =>
      (stops.members depth within.2.2.2.2).bind fun _ _ => trivial

theorem Stops.map (stops : decode.Stops bytes) : (Decoder.map decode).Stops bytes := by
  intro depth node within
  cases node with
  | object start items =>
      exact (stopsWithin_enter depth within.1).bind fun depth _ =>
        (stops.members depth within.2).bind fun _ _ => trivial
  | _ => exact Node.stops_refuse within _

end Decoder

/-! ## Records -/

/-- A fault of a field may have no position; one that has stands in the text. -/
def Slot.Within {σ : Type} (bytes : List UInt8) (slot : Slot σ) : Prop :=
  ∀ depth {node} draft, node.Within bytes →
    Lands (Fault.Within bytes) (fun _ => True) (slot.read depth node draft)

namespace Record

variable {σ : Type} {record : Record σ}

theorem mem_of_judge {key : String} {draft : σ} {slot : Slot σ}
    (judged : record.judge key draft = .ok (some slot)) : slot ∈ record.slots := by
  rw [judge] at judged
  split at judged
  · next found =>
    split at judged
    · cases judged
    · cases judged
      exact List.mem_of_find?_eq_some found
  · split at judged <;> cases judged

section Slots

variable (within : ∀ slot ∈ record.slots, slot.Within bytes)
include within

theorem stopsWithin_takeMembers (depth : Nat) : ∀ {members : Members} (draft : σ),
    members.Within bytes → StopsWithin bytes (record.takeMembers depth members draft)
  | .close place, draft, places => by
    rw [takeMembers]
    split
    · exact Fault.stops_stop places.2 _
    · trivial
  | .cut _, _, places => Fault.stops_stop places.2 _
  | .keyless _ _, _, places => Fault.stops_stop places.2 _
  | .broken _ _, _, places => places.1
  | .bare key place, draft, places => by
    rw [takeMembers]
    refine places.1.bind fun key _ => ?_
    split
    · exact Fault.stops_stop (places.2.past _) _
    · exact Fault.stops_stop places.2.2 _
  | .next key colon value follow tail, draft, places => by
    obtain ⟨ofKey, ofColon, ofValue, ofFollow, ofTail⟩ := places
    rw [takeMembers]
    refine ofKey.bind fun key _ => ?_
    split
    · exact Fault.stops_stop (ofColon.past _) _
    · exact (Node.stopsWithin_pass ofValue).bind fun _ _ =>
        stopsWithin_takeMembers depth draft ofTail
    · next slot judged =>
      have reading := within slot (mem_of_judge judged) depth draft ofValue
      split
      · next failed =>
        rw [failed] at reading
        exact reading.settle (ofFollow.past _)
      · next draft _ => exact stopsWithin_takeMembers depth draft ofTail

theorem stopsWithin_takeElements (depth : Nat) :
    ∀ {slots : List (Slot σ)} {elements : Elements} (draft : σ),
      (∀ slot ∈ slots, slot ∈ record.slots) → elements.Within bytes →
        StopsWithin bytes (record.takeElements depth slots elements draft)
  | [], .close _, _, _, _ => trivial
  | [], .cut _, _, _, places => Fault.stops_stop places.2 _
  | [], .next _ _ _, _, _, places => Fault.stops_stop places.1.2 _
  | slot :: slots, .close place, draft, listed, places => by
    rw [takeElements]
    split
    · exact stopsWithin_takeElements depth draft
        (fun other member => listed other (List.mem_cons_of_mem _ member)) places
    · exact Fault.stops_stop places.2 _
  | _ :: _, .cut _, _, _, places => Fault.stops_stop places.2 _
  | slot :: slots, .next start head tail, draft, listed, places => by
    obtain ⟨ofStart, ofHead, ofTail⟩ := places
    have reading := within slot (listed slot List.mem_cons_self) depth draft ofHead
    rw [takeElements]
    split
    · exact Fault.stops_stop ofStart.2 _
    · split
      · next failed =>
        rw [failed] at reading
        exact reading.settle ofTail.stands_rest
      · next draft _ =>
        exact stopsWithin_takeElements depth draft
          (fun other member => listed other (List.mem_cons_of_mem _ member)) ofTail

/-- A record gives its faults a position. -/
theorem stops_decode : Decoder.Stops bytes record.decode := by
  intro depth node places
  cases node with
  | object start members =>
      exact (stopsWithin_enter depth places.1).bind fun depth _ =>
        stopsWithin_takeMembers within depth _ places.2
  | array start elements =>
      exact (stopsWithin_enter depth places.1).bind fun depth _ =>
        stopsWithin_takeElements within depth _ (fun _ listed => listed) places.2
  | _ => exact Node.stops_refuse places _

end Slots

end Record

theorem Document.stopsWithin_decode {α : Type} {decode : Decoder α} (stops : decode.Stops bytes)
    {document : Document} (within : document.Within bytes) :
    StopsWithin bytes (document.decode decode) := by
  refine (stops maxDepth within.root).bind fun _ _ => ?_
  split
  · next place found =>
    split
    · exact Fault.stops_stop (within.follow place found).2 _
    · trivial
  · trivial

end RpcSchema.Json
