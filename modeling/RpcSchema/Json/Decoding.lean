import RpcSchema.Json.Reader

/-!
Taking a tree as a value, passing over it, and the rules for records that are read from one.

A reader meets faults in the order of the text. The depth is the number of arrays and objects that
may still be entered.
-/

namespace RpcSchema.Json

/-- Arrays and objects nest at most one less deep than this. -/
def maxDepth : Nat := 128

/-- The depth inside an array or object. -/
def enter (depth : Nat) (start : Place) : Except Fault Nat :=
  if depth ≤ 1 then .error (.stop .tooDeep start.beyond) else .ok (depth - 1)

mutual
/-- The value of a tree. -/
def Node.value (depth : Nat) : Node → Except Fault Value
  | .word none _ => .ok .null
  | .word (some value) _ => .ok (.bool value)
  | .number value _ => value.map .number
  | .string text _ => text.map .string
  | .array start elements => do
    let depth ← enter depth start
    return .array (← elements.values depth)
  | .object start members => do
    let depth ← enter depth start
    return .ofMembers (← members.values depth)
  | .absent place => .error (absentFault place)
  | .broken taken _ => .error taken

def Elements.values (depth : Nat) : Elements → Except Fault (List Value)
  | .close _ => .ok []
  | .cut place => .error (Elements.cutFault place)
  | .next start head tail =>
    if start.next = some ']' then .error (.stop .trailingComma start.beyond)
    else do
      let value ← head.value depth
      return value :: (← tail.values depth)

/-- The members of an object in the order of the text. -/
def Members.values (depth : Nat) : Members → Except Fault (List (String × Value))
  | .close _ => .ok []
  | .cut place => .error (Members.cutFault place)
  | .keyless first place => .error (Members.keylessFault first place)
  | .broken taken _ => .error taken
  | .bare key place => do
    discard key
    .error (Members.bareFault place)
  | .next key _ value _ tail => do
    let key ← key
    let value ← value.value depth
    return (key, value) :: (← tail.values depth)
end

mutual
/-- Passes over a tree: only its form matters. -/
def Node.pass : Node → Except Fault Unit
  | .word _ _ => .ok ()
  | .number _ _ => .ok ()
  | .string _ _ => .ok ()
  | .array _ elements => elements.pass
  | .object _ members => members.pass
  | .absent place => .error (absentFault place)
  | .broken _ passed => .error passed

def Elements.pass : Elements → Except Fault Unit
  | .close _ => .ok ()
  | .cut place => .error (Elements.cutFault place)
  | .next _ head tail => do
    head.pass
    tail.pass

def Members.pass : Members → Except Fault Unit
  | .close _ => .ok ()
  | .cut place => .error (Members.cutFault place)
  | .keyless _ place => .error (Members.keylessFaultPassed place)
  | .broken _ passed => .error passed
  | .bare _ place => .error (Members.bareFault place)
  | .next _ _ value _ tail => do
    value.pass
    tail.pass
end

/-- A reader of trees at a depth. -/
abbrev Decoder (α : Type) := Nat → Node → Except Fault α

/-- The fault of a tree that is no value of the expected kind. A scalar is read before it is
refused, an array or object is not. -/
def Node.refuse (expected : String) : Node → Fault
  | .word none stop => .stop (.wrongKind .null expected) stop
  | .word (some value) stop => .stop (.wrongKind (.bool value) expected) stop
  | .number (.ok value) stop => .stop (.wrongKind (.number value) expected) stop
  | .number (.error fault) _ => fault
  | .string (.ok text) stop => .stop (.wrongKind (.string text) expected) stop
  | .string (.error fault) _ => fault
  | .array start _ => .stop (.wrongKind .sequence expected) start.position
  | .object start _ => .stop (.wrongKind .map expected) start.position
  | .absent place => absentFault place
  | .broken taken _ => taken

namespace Decoder

def value : Decoder Value := fun depth node => node.value depth

def string : Decoder String := fun _ node =>
  match node with
  | .string text _ => text
  | node => .error (node.refuse "a string")

def bool : Decoder Bool := fun _ node =>
  match node with
  | .word (some value) _ => .ok value
  | node => .error (node.refuse "a boolean")

/-- A null is the absence of a value. -/
def optional {α : Type} (decode : Decoder α) : Decoder (Option α) := fun depth node =>
  match node with
  | .word none _ => .ok none
  | node => (decode depth node).map some

/-- Reads every element of an array. -/
def elements {α : Type} (decode : Decoder α) (depth : Nat) : Elements → Except Fault (List α)
  | .close _ => .ok []
  | .cut place => .error (Elements.cutFault place)
  | .next start head tail =>
    if start.next = some ']' then .error (.stop .trailingComma start.beyond)
    else do
      let item ← decode depth head
      return item :: (← elements decode depth tail)

def list {α : Type} (decode : Decoder α) : Decoder (List α) := fun depth node =>
  match node with
  | .array start items => do
    let depth ← enter depth start
    elements decode depth items
  | node => .error (node.refuse "a sequence")

/-- Reads every member of an object. -/
def members {α : Type} (decode : Decoder α) (depth : Nat) :
    Members → Except Fault (List (String × α))
  | .close _ => .ok []
  | .cut place => .error (Members.cutFault place)
  | .keyless first place => .error (Members.keylessFault first place)
  | .broken taken _ => .error taken
  | .bare key place => do
    discard key
    .error (Members.bareFault place)
  | .next key _ value _ tail => do
    let key ← key
    let value ← decode depth value
    return (key, value) :: (← members decode depth tail)

/-- Reads an object under any keys; of several members with one key the last stays. -/
def map {α : Type} (decode : Decoder α) : Decoder (List (String × α)) := fun depth node =>
  match node with
  | .object start items => do
    let depth ← enter depth start
    return orderMembers (← members decode depth items)
  | node => .error (node.refuse "a map")

end Decoder

/-! ## Records -/

/-- When a field of a record may be left out. -/
inductive Presence
  /-- Never. -/
  | required
  /-- Always. -/
  | defaulted
  /-- In an object, but not in an array. -/
  | nullable
deriving DecidableEq

/-- A field of a record that is collected in a draft `σ`. -/
structure Slot (σ : Type) where
  name : String
  presence : Presence
  filled : σ → Bool
  read : Nat → Node → σ → Except Fault σ

/-- A kind of record: its name, its fields in order, and whether other members are refused. -/
structure Record (σ : Type) where
  title : String
  slots : List (Slot σ)
  closed : Bool
  empty : σ

namespace Record

variable {σ : Type}

def expected (record : Record σ) : String := "struct " ++ record.title

/-- What an array in place of the record's object has to hold. -/
def expectedLength (record : Record σ) : String :=
  record.expected ++ " with " ++ toString record.slots.length ++
    if record.slots.length = 1 then " element" else " elements"

def slot? (record : Record σ) (name : String) : Option (Slot σ) :=
  record.slots.find? fun slot => slot.name == name

/-- The first field that must be there and is not. -/
def missing? (record : Record σ) (draft : σ) : Option String :=
  (record.slots.find? fun slot => slot.presence == .required && !slot.filled draft).map (·.name)

/-- Whether a key may stand in the record: a field that is not filled yet, or a member of no
meaning where such are allowed. -/
def judge (record : Record σ) (key : String) (draft : σ) : Except Cause (Option (Slot σ)) :=
  match record.slot? key with
  | some slot =>
    if slot.filled draft then .error (.duplicateField key) else .ok (some slot)
  | none =>
    if record.closed then .error (.unknownField key (record.slots.map (·.name)))
    else .ok none

/-- Reads the members of an object into a draft. A key is judged before its colon is looked for,
and a fault without a position gets the place where the object is left. -/
def takeMembers (record : Record σ) (depth : Nat) : Members → σ → Except Fault σ
  | .close place, draft =>
    match record.missing? draft with
    | some name => .error (.stop (.missingField name) place.beyond)
    | none => .ok draft
  | .cut place, _ => .error (Members.cutFault place)
  | .keyless first place, _ => .error (Members.keylessFault first place)
  | .broken taken _, _ => .error taken
  | .bare key place, draft => do
    let key ← key
    match record.judge key draft with
    | .error cause => .error (.stop cause (place.past '\x7d'))
    | .ok _ => .error (Members.bareFault place)
  | .next key colon value follow tail, draft => do
    let key ← key
    match record.judge key draft with
    | .error cause => .error (.stop cause (colon.past '\x7d'))
    | .ok none => do
      value.pass
      record.takeMembers depth tail draft
    | .ok (some slot) =>
      match slot.read depth value draft with
      | .error fault => .error (fault.settle (follow.past '\x7d'))
      | .ok draft => record.takeMembers depth tail draft

/-- Reads the elements of an array into a draft, field by field. -/
def takeElements (record : Record σ) (depth : Nat) :
    List (Slot σ) → Elements → σ → Except Fault σ
  | [], .close _, draft => .ok draft
  | [], .cut place, _ =>
    .error (.stop (if place.next.isNone then .endInArray else .trailingText) place.beyond)
  | [], .next start _ _, _ =>
    .error (.stop (if start.next = some ']' then .trailingComma else .trailingText) start.beyond)
  | slot :: slots, .close place, draft =>
    if slot.presence == .defaulted then record.takeElements depth slots (.close place) draft
    else
      let read := record.slots.length - (slots.length + 1)
      .error (.stop (.wrongLength read record.expectedLength) place.beyond)
  | _ :: _, .cut place, _ => .error (Elements.cutFault place)
  | slot :: slots, .next start head tail, draft =>
    if start.next = some ']' then .error (.stop .trailingComma start.beyond)
    else
      match slot.read depth head draft with
      | .error fault => .error (fault.settle tail.rest)
      | .ok draft => record.takeElements depth slots tail draft

/-- Reads a record from an object, or from an array of its fields in order. -/
def decode (record : Record σ) : Decoder σ := fun depth node =>
  match node with
  | .object start members => do
    let depth ← enter depth start
    record.takeMembers depth members record.empty
  | .array start elements => do
    let depth ← enter depth start
    record.takeElements depth record.slots elements record.empty
  | node => .error (node.refuse record.expected)

end Record

namespace Document

/-- Reads a whole text: its value, and nothing behind that. -/
def decode {α : Type} (document : Document) (decode : Decoder α) : Except Fault α := do
  let result ← decode maxDepth document.root
  match document.follow with
  | some place =>
    if place.next.isSome then .error (.stop .trailingText place.beyond) else .ok result
  | none => .ok result

end Document

/-- The value a text stands for. -/
def Value.ofText (text : String) : Except Fault Value := (Document.ofText text).decode .value

end RpcSchema.Json
