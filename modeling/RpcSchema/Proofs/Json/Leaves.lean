import RpcSchema.Json.Literal
import RpcSchema.Proofs.Json.Positions

/-!
# Where the leaves of a text end and fail

Words, strings and numbers are read from a cursor of a text to another one, and every fault that is
met on the way stands in the text.
-/

namespace RpcSchema.Json

variable {bytes : List UInt8}

theorem Position.right_right (position : Position) (columns more : Nat) :
    (position.right columns).right more = position.right (columns + more) := by
  simp [Position.right, Nat.add_assoc]

/-! ## Words -/

theorem lands_readWord (word : List Char) {cursor : Cursor} (within : cursor.Within bytes) :
    Lands (Fault.Stops bytes) (Cursor.Within bytes) (readWord word cursor) := by
  induction word generalizing cursor with
  | nil => exact within
  | cons letter word ih =>
      obtain ⟨rest, position⟩ := cursor
      cases rest with
      | nil => exact Fault.stops_stop within.stands _
      | cons c rest =>
          rw [readWord]
          split
          · exact ih within.next
          · exact Fault.stops_stop within.nextByte _

/-! ## Strings -/

/-- Letters and digits are single bytes. -/
theorem isInline_of_between {low high c : Char} (start : '\n' < low) (ends : high.toNat < 128)
    (inRange : (low ≤ c && c ≤ high) = true) : isInline c = true := by
  rw [Bool.and_eq_true, decide_eq_true_eq, decide_eq_true_eq] at inRange
  rw [isInline, Bool.and_eq_true, decide_eq_true_eq, bne_iff_ne]
  refine ⟨Nat.lt_of_le_of_lt (Char.le_def.mp inRange.2) ends, ?_⟩
  rintro rfl
  exact absurd inRange.1 (Char.not_le.mpr start)

theorem isInline_of_hexValue {c : Char} {value : Nat} (digit : hexValue c = some value) :
    isInline c = true := by
  rw [hexValue] at digit
  split at digit
  · next decimal => exact isInline_of_between (by decide) (by decide) decimal
  · split at digit
    · next small => exact isInline_of_between (by decide) (by decide) small
    · split at digit
      · next capital => exact isInline_of_between (by decide) (by decide) capital
      · cases digit

theorem isInline_of_letterEscape {c meant : Char} (known : letterEscape c = some meant) :
    isInline c = true := by
  unfold letterEscape at known
  split at known <;> first | decide | cases known

namespace Cursor.Within

variable {a b c d : Char} {rest : List Char} {position : Position}

/-- Behind an escape of four digits. -/
theorem unit {unit : Nat} (known : hexUnit a b c d = some unit)
    (within : Cursor.Within bytes ⟨'\\' :: 'u' :: a :: b :: c :: d :: rest, position⟩) :
    Cursor.Within bytes ⟨rest, position.right 6⟩ := by
  simp only [hexUnit, Option.bind_eq_bind, Option.bind_eq_some_iff] at known
  obtain ⟨_, first, _, second, _, third, _, fourth, _⟩ := known
  have inline : ['\\', 'u', a, b, c, d].all isInline := by
    simp only [List.all_cons, isInline_of_hexValue first, isInline_of_hexValue second,
      isInline_of_hexValue third, isInline_of_hexValue fourth]
    decide
  exact right inline within

theorem opened (within : Cursor.Within bytes ⟨'\\' :: 'u' :: rest, position⟩) :
    Cursor.Within bytes ⟨rest, position.right 2⟩ :=
  right (show ['\\', 'u'].all isInline by decide) within

/-- Behind an escape of one letter. -/
theorem letter {meant : Char} (known : letterEscape c = some meant)
    (within : Cursor.Within bytes ⟨'\\' :: c :: rest, position⟩) :
    Cursor.Within bytes ⟨rest, position.right 2⟩ := by
  have inline : ['\\', c].all isInline := by
    simp only [List.all_cons, isInline_of_letterEscape known]
    decide
  exact right inline within

end Cursor.Within

theorem stands_of_bytesOn {count : Nat} {rest : List Char} {position stop : Position}
    (within : Cursor.Within bytes ⟨rest, position⟩)
    (found : bytesOn count rest position = some stop) : stop.Stands bytes := by
  fun_induction bytesOn count rest position with
  | case1 rest position =>
      cases found
      exact within.stands
  | case2 => cases found
  | case3 count c rest position fits ih => exact ih within.next found
  | case4 count c rest position splits =>
      -- The bytes end within a character, which is no line feed, as that is a single byte.
      have other : c ≠ '\n' := by
        rintro rfl
        exact splits (Nat.le_add_left 1 count)
      cases found
      exact within.stands_bytes other (by omega)

theorem stops_unitFault {rest : List Char} {position : Position}
    (within : Cursor.Within bytes ⟨rest, position⟩) : (unitFault rest position).Stops bytes := by
  rw [unitFault]
  split
  · next stop found => exact Fault.stops_stop (stands_of_bytesOn within found) _
  · exact Fault.stops_stop within.after _

theorem stops_unpairedFault {rest : List Char} {position : Position}
    (within : Cursor.Within bytes ⟨rest, position⟩) :
    (unpairedFault rest position).Stops bytes := by
  unfold unpairedFault
  split
  · exact Fault.stops_stop within.stands _
  · exact stops_unitFault within.opened
  · exact Fault.stops_stop (within.right_one (by decide)).nextByte _
  · exact Fault.stops_stop (within.right_one (by decide)).stands _
  · exact Fault.stops_stop within.nextByte _

theorem lands_takeString {rest : List Char} {position : Position} (read : List Char)
    (within : Cursor.Within bytes ⟨rest, position⟩) :
    Lands (Fault.Stops bytes) (fun taken => taken.2.Within bytes)
      (takeString rest position read) := by
  fun_induction takeString rest position read with
  | case1 => exact Fault.stops_stop within.stands _
  | case2 => exact within.right_one (by decide)
  | case3 => exact stops_unitFault within.opened
  | case4 _ _ _ _ _ _ _ _ known => exact Fault.stops_stop (within.unit known).stands _
  | case5 _ _ _ _ _ _ _ known =>
      have behind := (within.unit known).opened
      rw [Position.right_right] at behind
      exact stops_unitFault behind
  | case6 _ _ _ _ _ _ _ known _ _ _ _ _ _ _ _ second _ ih =>
      have behind := (within.unit known).unit second
      rw [Position.right_right] at behind
      exact ih behind
  | case7 _ _ _ _ _ _ _ known _ _ _ _ _ _ _ _ second =>
      have behind := (within.unit known).unit second
      rw [Position.right_right] at behind
      exact Fault.stops_stop behind.stands _
  | case8 _ _ _ _ _ _ _ known => exact stops_unpairedFault (within.unit known)
  | case9 _ _ _ _ _ _ _ _ known _ _ ih => exact ih (within.unit known)
  | case10 => exact Fault.stops_stop (within.right_one (by decide)).stands _
  | case11 => exact stops_unitFault within.opened
  | case12 _ _ _ _ _ _ known _ ih => exact ih (within.letter known)
  | case13 => exact Fault.stops_stop (within.right_one (by decide)).nextByte _
  | case14 => exact Fault.stops_stop within.nextByte _
  | case15 _ _ _ _ _ _ _ _ ih => exact ih within.next

theorem lands_passString {rest : List Char} {position : Position}
    (within : Cursor.Within bytes ⟨rest, position⟩) :
    Lands (Fault.Stops bytes) (Cursor.Within bytes) (passString rest position) := by
  fun_induction passString rest position with
  | case1 => exact Fault.stops_stop within.stands _
  | case2 => exact within.right_one (by decide)
  | case3 => exact stops_unitFault within.opened
  | case4 _ _ _ _ _ _ _ known ih => exact ih (within.unit known)
  | case5 => exact Fault.stops_stop (within.right_one (by decide)).stands _
  | case6 => exact stops_unitFault within.opened
  | case7 _ _ _ _ _ known _ ih => exact ih (within.letter known)
  | case8 => exact Fault.stops_stop (within.right_one (by decide)).nextByte _
  | case9 => exact Fault.stops_stop within.stands _
  | case10 _ _ _ _ _ _ _ ih => exact ih within.next

/-- A string that is closed is left at a cursor of the text; what is at fault in it, or breaks it
off, stands there. -/
def StringReading.Within (bytes : List UInt8) : StringReading → Prop
  | .closed text after => StopsWithin bytes text ∧ after.Within bytes
  | .open taken passed => taken.Stops bytes ∧ passed.Stops bytes

theorem within_readString {cursor : Cursor} (within : cursor.Within bytes) :
    (readString cursor).Within bytes := by
  have taking := lands_takeString [] within
  have passing := lands_passString within
  rw [readString]
  cases taken : takeString cursor.rest cursor.position [] with
  | ok found =>
      rw [taken] at taking
      exact ⟨trivial, taking⟩
  | error fault =>
      rw [taken] at taking
      cases passed : passString cursor.rest cursor.position with
      | ok after =>
          rw [passed] at passing
          exact ⟨taking, passing⟩
      | error other =>
          rw [passed] at passing
          exact ⟨taking, passing⟩

/-! ## Numbers -/

/-- A number of characters that are single bytes of one line have been passed since a position. -/
def Passed (bytes : List UInt8) (start : Position) (rest : List Char) (length : Nat) : Prop :=
  ∃ block, block.all isInline = true ∧ block.length = length ∧
    Cursor.Within bytes ⟨block ++ rest, start⟩

namespace Passed

variable {start : Position} {rest : List Char} {length : Nat}

theorem cursor (passed : Passed bytes start rest length) :
    Cursor.Within bytes ⟨rest, start.right length⟩ := by
  obtain ⟨block, inline, rfl, within⟩ := passed
  exact within.right inline

theorem stands (passed : Passed bytes start rest length) {columns : Nat} (few : columns ≤ length) :
    (start.right columns).Stands bytes := by
  obtain ⟨block, inline, rfl, within⟩ := passed
  exact within.stands_right inline few

theorem append {block : List Char} (inline : block.all isInline = true)
    (passed : Passed bytes start (block ++ rest) length) :
    Passed bytes start rest (length + block.length) := by
  obtain ⟨front, frontInline, rfl, within⟩ := passed
  refine ⟨front ++ block, ?_, List.length_append, ?_⟩
  · rw [List.all_append, frontInline, inline]
    rfl
  · rwa [List.append_assoc]

theorem next {c : Char} (inline : isInline c = true)
    (passed : Passed bytes start (c :: rest) length) :
    Passed bytes start rest (length + 1) :=
  append (show [c].all isInline = true by rw [List.all_cons, inline]; rfl) passed

end Passed

theorem takeDigits_spec (chars : List Char) :
    ∃ block, block.all isInline = true ∧ block.length = (takeDigits chars).1.length ∧
      chars = block ++ (takeDigits chars).2 := by
  induction chars with
  | nil => exact ⟨[], rfl, rfl, rfl⟩
  | cons c rest ih =>
      rw [takeDigits]
      split
      · next digit known =>
        obtain ⟨block, inline, length, spelled⟩ := ih
        have digitInline : isInline c = true := by
          rw [digitValue] at known
          split at known
          · next decimal => exact isInline_of_between (by decide) (by decide) decimal
          · cases known
        refine ⟨c :: block, ?_, ?_, ?_⟩
        · rw [List.all_cons, digitInline, inline]
          rfl
        · rw [List.length_cons, length, List.length_cons]
        · rw [List.cons_append, ← spelled]
      · exact ⟨[], rfl, rfl, rfl⟩

theorem Passed.digits {start : Position} {chars rest : List Char} {length : Nat} {digits : List Nat}
    (passed : Passed bytes start chars length) (taken : takeDigits chars = (digits, rest)) :
    Passed bytes start rest (length + digits.length) := by
  obtain ⟨block, inline, count, spelled⟩ := takeDigits_spec chars
  rw [taken] at count spelled
  rw [← count]
  exact Passed.append inline (spelled ▸ passed)

namespace Numeral

/-- The number of characters of a numeral in front of its exponent. -/
def mantissaLength (numeral : Numeral) : Nat :=
  (if numeral.negative then 1 else 0) + numeral.whole.length +
    match numeral.fraction with
    | some digits => digits.length + 1
    | none => 0

/-- The number of characters of a numeral. -/
def length (numeral : Numeral) (signedPower : Bool) : Nat :=
  match numeral.power with
  | some (_, digits) => numeral.lengthBeforePower signedPower + digits.length
  | none => numeral.mantissaLength

theorem lengthBeforePower_eq (numeral : Numeral) (signedPower : Bool) :
    numeral.lengthBeforePower signedPower =
      numeral.mantissaLength + if signedPower then 2 else 1 := rfl

theorem le_of_readPower_eq_error {value count read : Nat} {digits : List Nat}
    (refused : readPower value count digits = .error read) : read ≤ count + digits.length := by
  induction digits generalizing value count with
  | nil => cases refused
  | cons digit rest ih =>
      rw [readPower] at refused
      split at refused
      · have bound := ih refused
        rw [List.length_cons]
        omega
      · cases refused
        rw [List.length_cons]
        omega

/-- A number that is out of range is so after some of its characters. -/
theorem le_of_value_eq_error {numeral : Numeral} {signedPower : Bool} {read : Nat}
    (refused : numeral.value signedPower = .error read) : read ≤ numeral.length signedPower := by
  have total := numeral.lengthBeforePower_eq signedPower
  unfold value at refused
  unfold length
  split at refused
  split at refused
  · -- Integers are never out of range.
    split at refused
    · cases refused
    · split at refused <;> cases refused
  · split at refused
    split at refused
    · next noPower =>
      rw [noPower]
      dsimp only at refused
      generalize scaleFloat _ _ = scaled at refused
      cases scaled with
      | some magnitude => cases refused
      | none =>
          cases refused
          simp only
          omega
    · next digits isPower =>
      rw [isPower]
      split at refused
      · next count tooLarge =>
        have bound := le_of_readPower_eq_error tooLarge
        split at refused
        · cases refused
          simp only
          omega
        · cases refused
      · dsimp only at refused
        generalize scaleFloat _ _ = scaled at refused
        cases scaled with
        | some magnitude => cases refused
        | none =>
            cases refused
            exact Nat.le_refl _

end Numeral

/-- A number that is closed is left at a cursor of the text; what is at fault in it, or breaks it
off, stands there. -/
def NumberReading.Within (bytes : List UInt8) : NumberReading → Prop
  | .closed value after => StopsWithin bytes value ∧ after.Within bytes
  | .open taken passed => taken.Stops bytes ∧ passed.Stops bytes

section Number

variable {numeral : Numeral} {start : Position} {chars : List Char} {length : Nat}

theorem within_ended {position : Position} (stands : position.Stands bytes) :
    (NumberReading.ended position).Within bytes :=
  ⟨Fault.stops_stop stands _, Fault.stops_stop stands _⟩

theorem within_fault {position : Position} (stands : position.Stands bytes) (cause : Cause) :
    (NumberReading.fault cause position).Within bytes :=
  ⟨Fault.stops_stop stands _, Fault.stops_stop stands _⟩

theorem within_whole {signedPower : Bool} (passed : Passed bytes start chars length)
    (counted : length = numeral.length signedPower) :
    (NumberReading.whole numeral signedPower start chars length).Within bytes := by
  refine ⟨?_, passed.cursor⟩
  split
  · trivial
  · next refused =>
    have few := Numeral.le_of_value_eq_error refused
    exact Fault.stops_stop (passed.stands (counted ▸ few)) _

theorem within_readExponent (passed : Passed bytes start chars length)
    (counted : length = numeral.mantissaLength + 1) :
    (readExponent numeral start chars length).Within bytes := by
  unfold readExponent
  split
  next negative signed rest sign =>
  have signPassed : Passed bytes start rest (if signed then length + 1 else length) := by
    split at sign
    · cases sign
      exact passed.next (by decide)
    · cases sign
      exact passed.next (by decide)
    · cases sign
      exact passed
  dsimp only
  generalize columns : (if signed then length + 1 else length) = behindSign at signPassed ⊢
  split
  · exact within_ended signPassed.cursor.stands
  · next taken =>
    have digits := signPassed.digits taken
    exact within_fault digits.cursor.nextByte _
  · next digits rest _ _ taken =>
    refine within_whole (signPassed.digits taken) ?_
    rw [Numeral.length, Numeral.lengthBeforePower_eq, ← columns, counted]
    cases signed <;> rfl

theorem within_readTail (noPower : numeral.power = none) (passed : Passed bytes start chars length)
    (counted : length = numeral.mantissaLength) :
    (readTail numeral start chars length).Within bytes := by
  unfold readTail
  split
  · exact within_readExponent (passed.next (by decide)) (by rw [counted])
  · exact within_readExponent (passed.next (by decide)) (by rw [counted])
  · exact within_whole passed (by rw [counted, Numeral.length, noPower])

theorem within_readFraction (noPower : numeral.power = none) (noFraction : numeral.fraction = none)
    (passed : Passed bytes start chars length) (counted : length = numeral.mantissaLength) :
    (readFraction numeral start chars length).Within bytes := by
  unfold readFraction
  split
  · have point := passed.next (by decide)
    split
    · exact within_ended point.cursor.stands
    · next taken => exact within_fault (point.digits taken).cursor.nextByte _
    · next digits rest _ _ taken =>
      refine within_readTail noPower (point.digits taken) ?_
      rw [counted, Numeral.mantissaLength, Numeral.mantissaLength, noFraction]
      simp only
      omega
  · exact within_readTail noPower passed counted

theorem within_readUnsigned {negative : Bool}
    (passed : Passed bytes start chars (if negative then 1 else 0)) :
    (readUnsigned negative start chars).Within bytes := by
  unfold readUnsigned
  dsimp only
  generalize columns : (if negative then 1 else 0) = sign at passed ⊢
  split
  · exact within_ended passed.cursor.stands
  · next taken => exact within_fault (passed.digits taken).cursor.nextByte _
  · next taken =>
    have digits := passed.digits taken
    exact within_fault (digits.stands (by simp)) _
  · next digits rest _ _ _ taken =>
    refine within_readFraction rfl rfl (passed.digits taken) ?_
    rw [← columns]
    rfl

end Number

theorem within_readNumber {cursor : Cursor} (within : cursor.Within bytes) :
    (readNumber cursor).Within bytes := by
  have start : Passed bytes cursor.position cursor.rest 0 := ⟨[], rfl, rfl, within⟩
  unfold readNumber
  split
  · next rest spelled =>
    rw [spelled] at start
    exact within_readUnsigned (start.next (by decide))
  · exact within_readUnsigned start

end RpcSchema.Json
