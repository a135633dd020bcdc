import Mathlib.Data.List.Induction
import RpcSchema.Proofs.Json.Faults
import RpcSchema.Schema.Load

/-!
# What the labels of load errors point at

A schema that cannot be read is at fault somewhere in its text, and the error has a label there.
The reader counts bytes in its columns, and the walk that finds the label counts characters. So the
label is on the byte at fault when all characters in front of it on its line are in ASCII, and
behind it otherwise.
-/

namespace RpcSchema

open Json Text

/-! ## Faults of schemas -/

section Decoders

variable {bytes : List UInt8}

theorem within_keeping {σ α : Type} {decode : Decoder α}
    (allows : decode.Allows bytes (Fault.Within bytes)) {name : String} {presence : Presence}
    {get : σ → Option α} {put : σ → α → σ} :
    (Slot.keeping name presence decode get put).Within bytes := fun depth _ _ within =>
  (allows depth within).bind fun _ _ => trivial

theorem within_stopping {σ α : Type} {decode : Decoder α} (stops : decode.Stops bytes)
    {name : String} {presence : Presence} {get : σ → Option α} {put : σ → α → σ} :
    (Slot.keeping name presence decode get put).Within bytes :=
  within_keeping (Decoder.Stops.within stops)

theorem stops_finish {σ α : Type} {record : Record σ} {finish : σ → α}
    (within : ∀ slot ∈ record.slots, slot.Within bytes) :
    Decoder.Stops bytes fun depth node => do return finish (← record.decode depth node) :=
  fun depth _ places => (Record.stops_decode within depth places).bind fun _ _ => trivial

theorem within_string {σ : Type} {name : String} {presence : Presence} {get : σ → Option String}
    {put : σ → String → σ} : (Slot.keeping name presence .string get put).Within bytes :=
  within_stopping Decoder.stops_string

theorem within_bool {σ : Type} {name : String} {presence : Presence} {get : σ → Option Bool}
    {put : σ → Bool → σ} : (Slot.keeping name presence .bool get put).Within bytes :=
  within_stopping Decoder.stops_bool

theorem stops_fieldType : FieldType.decode.Stops bytes := by
  intro depth node within
  unfold FieldType.decode
  split
  · split
    · trivial
    · exact Fault.stops_stop within.2 _
  · have slots : ∀ slot ∈ referenceRecord.slots, slot.Within bytes :=
      List.forall_mem_singleton.mpr within_string
    exact (stopsWithin_enter depth within.1).bind fun depth _ =>
      (Record.stopsWithin_takeMembers slots depth _ within.2).bind fun _ _ => trivial
  · next start elements =>
    have entering := stopsWithin_enter depth within.1
    cases entered : enter depth start with
    | ok inner => exact Fault.stops_stop within.2.stands_leave _
    | error fault =>
        rw [entered] at entering
        exact entering
  · exact Node.stops_refuse within _

/-- Items that declare no type, or two, are at fault as a whole. -/
theorem within_decodeItems : decodeItems.Allows bytes (Fault.Within bytes) := by
  have slots : ∀ slot ∈ itemsRecord.slots, slot.Within bytes := by
    simp only [itemsRecord, List.forall_mem_cons]
    exact ⟨within_stopping (Decoder.Allows.optional stops_fieldType),
      within_stopping (Decoder.Allows.optional Decoder.stops_string), List.forall_mem_nil _⟩
  intro depth node within
  refine (Decoder.Stops.within (Record.stops_decode slots) depth within).bind fun draft _ => ?_
  have nowhere : ∀ cause, Fault.Within bytes ⟨cause, none⟩ := fun _ _ found => by cases found
  unfold ItemsDraft.finish
  split
  · trivial
  · trivial
  · exact nowhere _
  · exact nowhere _

theorem stops_field : Field.decode.Stops bytes := by
  refine stops_finish ?_
  simp only [fieldRecord, List.forall_mem_cons]
  exact ⟨within_string, within_string, within_bool, within_bool,
    within_stopping (Decoder.Allows.optional Decoder.stops_value), within_stopping stops_fieldType,
    within_keeping (Decoder.Allows.optional within_decodeItems),
    within_stopping (Decoder.Stops.list Decoder.stops_string), List.forall_mem_nil _⟩

theorem stops_methodExample : MethodExample.decode.Stops bytes := by
  refine stops_finish ?_
  simp only [methodExampleRecord, List.forall_mem_cons]
  exact ⟨within_string, within_string,
    within_stopping (Decoder.Allows.optional Decoder.stops_value),
    within_stopping (Decoder.Allows.optional Decoder.stops_value), List.forall_mem_nil _⟩

theorem stops_method : Method.decode.Stops bytes := by
  refine stops_finish ?_
  simp only [methodRecord, List.forall_mem_cons]
  exact ⟨within_string, within_string, within_bool, within_string,
    within_stopping (Decoder.Stops.list stops_field),
    within_stopping (Decoder.Stops.list stops_field),
    within_stopping (Decoder.Stops.list stops_methodExample), List.forall_mem_nil _⟩

theorem stops_typeExample : TypeExample.decode.Stops bytes := by
  refine stops_finish ?_
  simp only [typeExampleRecord, List.forall_mem_cons]
  exact ⟨within_string, within_stopping Decoder.stops_value, List.forall_mem_nil _⟩

theorem stops_type : TypeDecl.decode.Stops bytes := by
  refine stops_finish ?_
  simp only [typeRecord, List.forall_mem_cons]
  exact ⟨within_string, within_string, within_bool,
    within_stopping (Decoder.Stops.list stops_field),
    within_stopping (Decoder.Stops.list stops_typeExample), List.forall_mem_nil _⟩

theorem stops_group : Group.decode.Stops bytes := by
  refine stops_finish ?_
  simp only [groupRecord, List.forall_mem_cons]
  exact ⟨within_string, within_string, within_string, List.forall_mem_nil _⟩

theorem stops_goTags : decodeGoTags.Stops bytes := by
  have slots : ∀ slot ∈ goRecord.slots, slot.Within bytes :=
    List.forall_mem_singleton.mpr (within_stopping (Decoder.Stops.list Decoder.stops_string))
  exact stops_finish slots

theorem stops_schema : Schema.decode.Stops bytes := by
  refine stops_finish ?_
  simp only [schemaRecord, List.forall_mem_cons]
  exact ⟨within_string, within_string, within_string, within_stopping stops_goTags,
    within_stopping (Decoder.Stops.list stops_group),
    within_stopping (Decoder.Stops.list stops_method),
    within_stopping (Decoder.Stops.map stops_type), List.forall_mem_nil _⟩

end Decoders

/-- A schema is not loaded for one of three reasons. -/
theorem cases_of_loadWith {check : Value → List String} {text : String} {error : LoadError}
    (failed : loadWith check text = .error error) :
    (∃ fault, (Document.ofText text).decode .value = .error fault ∧ error = .malformed fault) ∨
      (∃ violations, error = .structural violations) ∨
      ∃ fault, (Document.ofText text).decode Schema.decode = .error fault ∧
        error = .undecodable fault := by
  simp only [loadWith] at failed
  cases value : (Document.ofText text).decode .value with
  | error fault =>
      rw [value] at failed
      cases failed
      exact .inl ⟨fault, rfl, rfl⟩
  | ok document =>
      rw [value] at failed
      simp only [Except.mapError, bind, Except.bind] at failed
      split at failed
      · cases failed
        exact .inr (.inl ⟨_, rfl⟩)
      · cases schema : (Document.ofText text).decode Schema.decode with
        | error fault =>
            rw [schema] at failed
            cases failed
            exact .inr (.inr ⟨fault, rfl, rfl⟩)
        | ok decoded =>
            rw [schema] at failed
            cases failed

/-- The fault of a schema that is not loaded stands in its text. -/
theorem stops_of_loadWith {check : Value → List String} {text : String} {error : LoadError}
    {fault : Fault} (failed : loadWith check text = .error error)
    (found : error.fault? = some fault) : fault.Stops (bytes text) := by
  have within := within_ofText text
  have asValue := Document.stopsWithin_decode Decoder.stops_value within
  have asSchema := Document.stopsWithin_decode stops_schema within
  rcases cases_of_loadWith failed with ⟨malformed, value, rfl⟩ | ⟨_, rfl⟩ | ⟨other, decoded, rfl⟩
  · rw [value] at asValue
    cases found
    exact asValue
  · cases found
  · rw [decoded] at asSchema
    cases found
    exact asSchema

/-! ## Lines -/

/-- The first byte of the line behind a number of line feeds. -/
def lineStart : Nat → List UInt8 → Nat
  | 0, _ => 0
  | _ + 1, [] => 0
  | count + 1, byte :: rest =>
    lineStart (if byte = lineFeed then count else count + 1) rest + 1

/-- The byte that a position points at: the last of its columns, or where its line starts when there
is none. -/
def pointedAt (bytes : List UInt8) (position : Position) : Nat :=
  min (lineStart (position.line - 1) bytes + (position.column - 1)) bytes.length

/-- Some whole lines: nothing, or bytes with a line feed at their end. -/
def AreLines (bytes : List UInt8) : Prop := bytes = [] ∨ bytes.getLast? = some lineFeed

theorem AreLines.tail {byte : UInt8} {rest : List UInt8} (lines : AreLines (byte :: rest)) :
    AreLines rest ∧ (byte ≠ lineFeed → lineFeed ∈ rest) := by
  have last := lines.resolve_left (List.cons_ne_nil _ _)
  cases rest with
  | nil =>
      refine ⟨.inl rfl, fun other => absurd ?_ other⟩
      simpa using last
  | cons second rest =>
      rw [List.getLast?_cons_cons] at last
      exact ⟨.inr last, fun _ => List.mem_of_getLast? last⟩

theorem lineStart_append {before : List UInt8} (lines : AreLines before) (more : List UInt8) :
    lineStart (before.count lineFeed) (before ++ more) = before.length := by
  induction before with
  | nil => rw [List.count_nil, lineStart, List.length_nil]
  | cons byte rest ih =>
      obtain ⟨restLines, later⟩ := lines.tail
      by_cases isFeed : byte = lineFeed
      · rw [isFeed, List.count_cons_self, List.cons_append, lineStart, if_pos rfl, ih restLines,
          List.length_cons]
      · obtain ⟨count, counted⟩ := Nat.exists_eq_succ_of_ne_zero
          (Nat.pos_iff_ne_zero.mp (List.count_pos_iff.mpr (later isFeed)))
        rw [List.count_cons_of_ne isFeed, counted, List.cons_append, lineStart, if_neg isFeed,
          show count + 1 = rest.count lineFeed from counted.symm, ih restLines, List.length_cons]

/-- A position is behind whole lines and some bytes of the next one. -/
theorem exists_lines (front : List UInt8) :
    ∃ before block, front = before ++ block ∧ AreLines before ∧ lineFeed ∉ block ∧
      Position.behind front = ⟨before.count lineFeed + 1, block.length⟩ := by
  induction front using List.reverseRecOn with
  | nil => exact ⟨[], [], rfl, .inl rfl, List.not_mem_nil, rfl⟩
  | append_singleton front byte ih =>
      obtain ⟨before, block, spelled, lines, unbroken, stand⟩ := ih
      by_cases isFeed : byte = lineFeed
      · refine ⟨front ++ [lineFeed], [], by rw [isFeed, List.append_nil], .inr ?_,
          List.not_mem_nil, ?_⟩
        · exact List.getLast?_concat
        · rw [isFeed, Position.behind_concat_lineFeed, List.count_append]
          rfl
      · refine ⟨before, block ++ [byte], by rw [spelled, List.append_assoc], lines, ?_, ?_⟩
        · simpa [unbroken] using Ne.symm isFeed
        · rw [Position.behind_append (by simpa using Ne.symm isFeed), stand, List.length_append]
          rfl

/-! ## The walk to a label -/

section Walk

variable {target : Position}

theorem offsetFrom_le (target : Position) (chars : List Char) (line column : Nat) :
    offsetFrom target chars line column ≤ (encoded chars).length := by
  induction chars generalizing line column with
  | nil => exact Nat.le_refl 0
  | cons c rest ih =>
      rw [offsetFrom, length_encoded_cons]
      split
      · exact Nat.zero_le _
      · split
        · exact Nat.add_le_add_left (ih _ _) _
        · exact Nat.add_le_add_left (ih _ _) _

/-- The walk stops at once where it is far enough. -/
theorem offsetFrom_eq_zero {line column : Nat} (reached : target.line ≤ line + 1)
    (far : target.column ≤ column + 1) (chars : List Char) :
    offsetFrom target chars line column = 0 := by
  cases chars with
  | nil => rfl
  | cons c rest =>
      rw [offsetFrom, if_pos]
      rw [Bool.and_eq_true, decide_eq_true_eq, decide_eq_true_eq]
      exact ⟨reached, far⟩

/-- A character that the walk goes on behind. -/
theorem offsetFrom_cons {c : Char} {line column : Nat} (other : c ≠ '\n')
    (near : ¬ (target.line ≤ line + 1 ∧ target.column ≤ column + 1)) (rest : List Char) :
    offsetFrom target (c :: rest) line column =
      c.utf8Size + offsetFrom target rest line (column + 1) := by
  rw [offsetFrom, if_neg, if_neg other]
  rwa [Bool.and_eq_true, decide_eq_true_eq, decide_eq_true_eq]

theorem offsetFrom_lineFeed {line column : Nat}
    (near : ¬ (target.line ≤ line + 1 ∧ target.column ≤ column + 1)) (rest : List Char) :
    offsetFrom target ('\n' :: rest) line column = offsetFrom target rest (line + 1) 0 + 1 := by
  rw [offsetFrom, if_neg, if_pos rfl, Nat.add_comm]
  · rfl
  · rwa [Bool.and_eq_true, decide_eq_true_eq, decide_eq_true_eq]

/-- On the line of its target, the walk takes a byte at least for each column that is left. -/
theorem le_offsetFrom {chars : List Char} {line column : Nat} (reached : target.line ≤ line + 1) :
    min (target.column - 1 - column) (encoded chars).length ≤
      offsetFrom target chars line column := by
  induction chars generalizing line column with
  | nil => exact Nat.min_le_right _ _
  | cons c rest ih =>
      have size := length_encoded_cons c rest
      have positive := Char.utf8Size_pos c
      by_cases far : target.column ≤ column + 1
      · omega
      · have near : ¬ (target.line ≤ line + 1 ∧ target.column ≤ column + 1) :=
          fun both => far both.2
        by_cases isFeed : c = '\n'
        · have bound : min (target.column - 1 - 0) (encoded rest).length ≤
              offsetFrom target rest (line + 1) 0 := ih (by omega)
          rw [isFeed, offsetFrom_lineFeed near]
          rw [isFeed] at size
          have single : '\n'.utf8Size = 1 := by decide
          omega
        · have bound : min (target.column - 1 - (column + 1)) (encoded rest).length ≤
              offsetFrom target rest line (column + 1) := ih reached
          rw [offsetFrom_cons isFeed near]
          omega

/-- On the line of its target, the walk ends at the byte in its column when all before it are in
ASCII, and behind it otherwise. -/
theorem offsetFrom_eq_iff {columns : Nat} {chars : List Char} {line column : Nat}
    {block more : List UInt8} (reached : target.line ≤ line + 1)
    (left : target.column = column + columns + 1) (spelled : encoded chars = block ++ more)
    (length : block.length = columns + 1) (unbroken : lineFeed ∉ block) :
    offsetFrom target chars line column = columns ↔
      ∀ byte ∈ block.take columns, byte.toNat < 128 := by
  induction columns generalizing chars column block with
  | zero =>
      rw [offsetFrom_eq_zero reached (by omega), List.take_zero]
      exact ⟨fun _ => List.forall_mem_nil _, fun _ => rfl⟩
  | succ columns ih =>
      obtain ⟨first, block, rfl⟩ := List.exists_cons_of_length_eq_add_one length
      rw [List.length_cons, Nat.add_right_cancel_iff] at length
      rw [List.mem_cons, not_or] at unbroken
      rw [List.cons_append] at spelled
      cases chars with
      | nil => cases spelled
      | cons c rest =>
          have sizes := congrArg List.length spelled
          rw [length_encoded_cons, List.length_cons, List.length_append] at sizes
          rw [encoded_cons] at spelled
          have other : c ≠ '\n' := by
            rintro rfl
            rw [encodeChar_lineFeed, List.singleton_append, List.cons.injEq] at spelled
            exact unbroken.1 spelled.1
          rw [offsetFrom_cons other (by omega), List.take_succ_cons, List.forall_mem_cons]
          rcases Nat.lt_or_ge c.toNat 128 with ascii | beyond
          · rw [encodeChar_of_ascii ascii, List.singleton_append, List.cons.injEq] at spelled
            have size := utf8Size_of_ascii ascii
            have inAscii : first.toNat < 128 := by
              rw [← spelled.1, UInt8.toNat_ofNat', Nat.mod_eq_of_lt (by omega)]
              exact ascii
            have later := ih (show target.column = column + 1 + columns + 1 by omega) spelled.2
              length unbroken.2
            rw [← later, size]
            omega
          · -- A character of several bytes takes the walk too far.
            have size := two_le_utf8Size beyond
            have bound : min (target.column - 1 - (column + 1)) (encoded rest).length ≤
                offsetFrom target rest line (column + 1) := le_offsetFrom reached
            constructor
            · intro same
              omega
            · rintro ⟨ascii, -⟩
              have large := le_of_encodeChar_append beyond spelled
              omega

/-- The walk goes over whole lines in front of that of its target. -/
theorem offsetFrom_lines {chars : List Char} {line column : Nat} {before more : List UInt8}
    (spelled : encoded chars = before ++ more) (lines : AreLines before)
    (start : before = [] → column = 0) (counted : line + before.count lineFeed + 1 = target.line) :
    ∃ rest, encoded rest = more ∧
      offsetFrom target chars line column =
        before.length + offsetFrom target rest (target.line - 1) 0 := by
  induction chars generalizing line column before with
  | nil =>
      obtain ⟨rfl, rfl⟩ := List.append_eq_nil_iff.mp spelled.symm
      exact ⟨[], rfl, rfl⟩
  | cons c rest ih =>
      rcases lines with rfl | last
      · refine ⟨c :: rest, spelled, ?_⟩
        rw [start rfl, ← counted, List.count_nil, List.length_nil, Nat.zero_add]
        rfl
      · have feeds := List.count_pos_iff.mpr (List.mem_of_getLast? last)
        have near : ¬ (target.line ≤ line + 1 ∧ target.column ≤ column + 1) := by omega
        rw [encoded_cons] at spelled
        by_cases isFeed : c = '\n'
        · obtain ⟨byte, before, rfl⟩ := List.exists_cons_of_ne_nil (List.ne_nil_of_mem
            (List.mem_of_getLast? last))
          rw [isFeed, encodeChar_lineFeed, List.singleton_append, List.cons_append,
            List.cons.injEq] at spelled
          obtain ⟨rfl, spelled⟩ := spelled
          rw [List.count_cons_self] at counted
          obtain ⟨others, left, walked⟩ := ih spelled (AreLines.tail (.inr last)).1
            (fun _ => rfl) (show line + 1 + before.count lineFeed + 1 = target.line by omega)
          refine ⟨others, left, ?_⟩
          rw [isFeed, offsetFrom_lineFeed near, walked, List.length_cons]
          omega
        · have absent := lineFeed_not_mem isFeed
          have member := List.mem_of_getLast? last
          rcases List.append_eq_append_iff.mp spelled with ⟨behind, rfl, goesOn⟩ | ⟨_, whole, _⟩
          · have later := (List.mem_append.mp member).resolve_left absent
            rw [List.getLast?_append, List.getLast?_eq_some_getLast (List.ne_nil_of_mem later),
              Option.some_or, ← List.getLast?_eq_some_getLast] at last
            rw [List.count_append, List.count_eq_zero.mpr absent, Nat.zero_add] at counted
            obtain ⟨others, left, walked⟩ := @ih line (column + 1) behind goesOn (.inr last)
              (fun none => absurd (none ▸ later) List.not_mem_nil) counted
            refine ⟨others, left, ?_⟩
            rw [offsetFrom_cons isFeed near, walked, List.length_append,
              String.length_utf8EncodeChar, Nat.add_assoc]
          · -- The lines do not end within the character.
            exact absurd (whole ▸ List.mem_append_left _ member) absent

end Walk

/-! ## Labels -/

/-- The label of a position in a text is not in front of the byte that the position points at, and
on that byte exactly when the bytes in front of it on its line are all in ASCII. -/
theorem labelOffset_iff {text : String} {position : Position}
    (stands : position.Stands (bytes text)) :
    pointedAt (bytes text) position ≤ labelOffset text position ∧
      labelOffset text position ≤ (bytes text).length ∧
      (labelOffset text position = pointedAt (bytes text) position ↔
        ∀ byte ∈ ((bytes text).drop (lineStart (position.line - 1) (bytes text))).take
          (position.column - 1), byte.toNat < 128) := by
  obtain ⟨front, ⟨behind, whole⟩, rfl⟩ := stands
  obtain ⟨before, block, rfl, lines, unbroken, stand⟩ := exists_lines front
  have spelled : bytes text = before ++ (block ++ behind) := by
    rw [← whole, List.append_assoc]
  obtain ⟨rest, left, walked⟩ := @offsetFrom_lines ⟨before.count lineFeed + 1, block.length⟩
    text.toList 0 0 before (block ++ behind) ((bytes_eq text).symm.trans spelled) lines
    (fun _ => rfl) (by rw [Nat.zero_add])
  rw [Nat.add_sub_cancel] at walked
  rw [stand, labelOffset, walked, pointedAt, spelled, Nat.add_sub_cancel, lineStart_append lines,
    List.drop_left, List.length_append, ← left]
  have lower := @le_offsetFrom ⟨before.count lineFeed + 1, block.length⟩ rest
    (before.count lineFeed) 0 (Nat.le_refl _)
  have upper := offsetFrom_le ⟨before.count lineFeed + 1, block.length⟩ rest
    (before.count lineFeed) 0
  refine ⟨by omega, by omega, ?_⟩
  have fits : block.length ≤ (encoded rest).length := by
    rw [left, List.length_append]
    exact Nat.le_add_right _ _
  cases columns : block.length with
  | zero =>
      rw [offsetFrom_eq_zero (Nat.le_refl _) (Nat.zero_le _)]
      simp
  | succ count =>
      rw [columns] at fits
      have onLine := @offsetFrom_eq_iff ⟨before.count lineFeed + 1, count + 1⟩ count rest
        (before.count lineFeed) 0 block behind (Nat.le_refl _) (by rw [Nat.zero_add]) left columns
        unbroken
      rw [left, Nat.add_sub_cancel, List.take_append_of_le_length (by omega), ← onLine, ← left]
      omega

/-- An error with a fault of the text has its label at the fault. -/
theorem exists_label {text : String} {error : LoadError} {fault : Fault} {position : Position}
    (found : error.fault? = some fault) (isPosition : fault.position = some position) :
    ∃ label, error.label? text = some label ∧ label.offset = labelOffset text position := by
  have labelled : ∃ message, error.labelText? = some message := by
    cases error with
    | malformed => exact ⟨_, rfl⟩
    | undecodable => exact ⟨_, rfl⟩
    | unreadable => cases found
    | structural => cases found
  obtain ⟨message, isMessage⟩ := labelled
  refine ⟨⟨message, labelOffset text position, 1⟩, ?_, rfl⟩
  rw [LoadError.label?, isMessage, found]
  simp [isPosition]

/-- Every schema that cannot be read has a label in its text, for any check of its form. The fault
stands behind some of the bytes of the text, and the label is not in front of the byte that its
position points at. It is on that byte exactly when the bytes in front of it on its line are all in
ASCII. -/
theorem label_offset_iff {check : Value → List String} {text : String} {error : LoadError}
    {fault : Fault} (failed : loadWith check text = .error error)
    (found : error.fault? = some fault) :
    ∃ position label, fault.position = some position ∧ position.Stands (bytes text) ∧
      error.label? text = some label ∧
      pointedAt (bytes text) position ≤ label.offset ∧ label.offset ≤ (bytes text).length ∧
      (label.offset = pointedAt (bytes text) position ↔
        ∀ byte ∈ ((bytes text).drop (lineStart (position.line - 1) (bytes text))).take
          (position.column - 1), byte.toNat < 128) := by
  obtain ⟨position, isPosition, stands⟩ := stops_of_loadWith failed found
  obtain ⟨label, isLabel, offset⟩ := @exists_label text _ _ _ found isPosition
  refine ⟨position, label, isPosition, stands, isLabel, ?_⟩
  rw [offset]
  exact labelOffset_iff stands

/-- Where a load fails in its text, if it does. -/
def stopOf? (result : Except LoadError Schema) : Option Position :=
  match result with
  | .error error => error.fault?.bind Fault.position
  | .ok _ => none

theorem exists_of_stopOf? {result : Except LoadError Schema} {position : Position}
    (stopped : stopOf? result = some position) :
    ∃ error fault, result = .error error ∧ error.fault? = some fault ∧
      fault.position = some position := by
  cases result with
  | ok => cases stopped
  | error error =>
      obtain ⟨fault, isFault, isPosition⟩ := Option.bind_eq_some_iff.mp stopped
      exact ⟨error, fault, rfl, isFault, isPosition⟩

/-- A key without a colon, on the second line. -/
def bareKeyText : String := "\x7b\n  \"e\" 1\x7d"

/-- The label is on the byte that stands where the colon is missing. -/
theorem label_of_bareKey :
    ∃ error fault label, load bareKeyText = .error error ∧ error.fault? = some fault ∧
      fault.position = some ⟨2, 7⟩ ∧ error.label? bareKeyText = some label ∧
      label.offset = pointedAt (bytes bareKeyText) ⟨2, 7⟩ := by
  have stopped : stopOf? (load bareKeyText) = some ⟨2, 7⟩ := by decide +kernel
  obtain ⟨error, fault, failed, isFault, isPosition⟩ := exists_of_stopOf? stopped
  obtain ⟨position, label, samePosition, _, isLabel, _, _, onByte⟩ :=
    label_offset_iff failed isFault
  obtain rfl : ⟨2, 7⟩ = position := Option.some.inj (isPosition.symm.trans samePosition)
  exact ⟨error, fault, label, failed, isFault, isPosition, isLabel,
    onByte.mpr (by decide +kernel)⟩

/-- The same key in one line, with an accent. -/
def accentText : String := "\x7b\"\u00e9\" 1\x7d"

/-- Behind a character of two bytes, the label is one byte too far. -/
theorem label_astray_accent :
    ∃ error fault label, load accentText = .error error ∧ error.fault? = some fault ∧
      fault.position = some ⟨1, 7⟩ ∧ error.label? accentText = some label ∧
      pointedAt (bytes accentText) ⟨1, 7⟩ = 6 ∧ label.offset = 7 := by
  have stopped : stopOf? (load accentText) = some ⟨1, 7⟩ := by decide +kernel
  obtain ⟨error, fault, failed, isFault, isPosition⟩ := exists_of_stopOf? stopped
  obtain ⟨label, isLabel, offset⟩ := exists_label isFault isPosition
  exact ⟨error, fault, label, failed, isFault, isPosition, isLabel, by decide +kernel,
    offset.trans (by decide +kernel)⟩

end RpcSchema
