import RpcSchema.Proofs.Code.Written
import RpcSchema.Proofs.Json.RoundTrip

/-!
# Lines of printed values

A printed value breaks its lines in front of its parts and of closing brackets and nowhere else:
what a string says of lines is escaped. So behind its margin every line opens with a mark of JSON,
a digit or a letter. A text is scanned for this from left to right, and the scan of a value is put
together from those of its parts.
-/

namespace RpcSchema.Json

open Text

/-! ## Scanning lines -/

/-- One step of a scan, which is either in the margin of a line or behind it. There must be no
carriage return, and no backtick next to a margin. -/
def lineStep (inMargin : Bool) (c : Char) : Option Bool :=
  if c = '\n' then some true
  else if c = '\r' ∨ inMargin = true ∧ c = '\x60' then none
  else some (inMargin && c == ' ')

/-- A text that can follow any other, be it in the middle of a line or in a margin. -/
def Scannable (text : List Char) : Prop :=
  ∀ inMargin, ∃ behind, text.foldlM lineStep inMargin = some behind

/-- A text that can follow any other and leaves no margin open. -/
def Settled (text : List Char) : Prop := ∀ inMargin, text.foldlM lineStep inMargin = some false

section Scans

variable {front rest text : List Char}

theorem Settled.scannable (settled : Settled text) : Scannable text := fun inMargin =>
  ⟨false, settled inMargin⟩

theorem Scannable.append (first : Scannable front) (second : Scannable rest) :
    Scannable (front ++ rest) := by
  intro inMargin
  obtain ⟨between, toBetween⟩ := first inMargin
  obtain ⟨behind, toBehind⟩ := second between
  exact ⟨behind, by rw [List.foldlM_append, toBetween]; exact toBehind⟩

theorem Scannable.append_settled (first : Scannable front) (second : Settled rest) :
    Settled (front ++ rest) := by
  intro inMargin
  obtain ⟨between, toBetween⟩ := first inMargin
  rw [List.foldlM_append, toBetween]
  exact second between

/-- Behind its margin a line goes on with anything that does not end it. -/
theorem foldlM_lineStep_behind (noBreak : '\n' ∉ text) (noReturn : '\r' ∉ text) :
    text.foldlM lineStep false = some false := by
  induction text with
  | nil => rfl
  | cons c rest ih =>
      obtain ⟨breakHere, breakLater⟩ := List.ne_and_not_mem_of_not_mem_cons noBreak
      obtain ⟨returnHere, returnLater⟩ := List.ne_and_not_mem_of_not_mem_cons noReturn
      have step : lineStep false c = some false := by
        simp [lineStep, breakHere.symm, returnHere.symm]
      rw [List.foldlM_cons, step]
      exact ih breakLater returnLater

/-- What opens with a character of its own and stays in its line. -/
theorem settled_cons {c : Char} (opens : c ≠ ' ' ∧ c ≠ '\x60')
    (inLine : '\n' ∉ c :: rest ∧ '\r' ∉ c :: rest) : Settled (c :: rest) := by
  intro inMargin
  obtain ⟨breakHere, breakLater⟩ := List.ne_and_not_mem_of_not_mem_cons inLine.1
  obtain ⟨returnHere, returnLater⟩ := List.ne_and_not_mem_of_not_mem_cons inLine.2
  have step : lineStep inMargin c = some false := by
    simp [lineStep, breakHere.symm, returnHere.symm, opens]
  rw [List.foldlM_cons, step]
  exact foldlM_lineStep_behind breakLater returnLater

end Scans

/-! ## Scans of values -/

theorem settled_stringChars (text : String) : Settled (stringChars text) := by
  have visible : ∀ d ∈ stringChars text, 0x20 ≤ d.val := by
    intro d member
    rcases List.mem_cons.mp member with rfl | inside
    · decide
    · rcases List.mem_append.mp inside with inside | last
      · obtain ⟨c, -, written⟩ := List.mem_flatMap.mp inside
        exact visible_of_mem_escapedChar written
      · obtain rfl := List.mem_singleton.mp last
        decide
  exact settled_cons (by decide)
    ⟨fun member => absurd (visible _ member) (by decide),
      fun member => absurd (visible _ member) (by decide)⟩

theorem settled_integerChars (value : Int) : Settled (integerChars value) := by
  have not_mem {c : Char} (mark : c.isDigit = false) : c ∉ Nat.toDigits 10 value.natAbs := by
    intro member
    have digit := Nat.isDigit_of_mem_toDigits (by decide) (by decide) member
    rw [mark] at digit
    exact absurd digit Bool.false_ne_true
  have noBreak : '\n' ∉ Nat.toDigits 10 value.natAbs := not_mem (by decide)
  have noReturn : '\r' ∉ Nat.toDigits 10 value.natAbs := not_mem (by decide)
  obtain ⟨c, rest, spelled, digit⟩ := exists_toDigits value.natAbs
  rw [integerChars]
  split
  · exact settled_cons (by decide) ⟨List.not_mem_cons_of_ne_of_not_mem (by decide) noBreak,
      List.not_mem_cons_of_ne_of_not_mem (by decide) noReturn⟩
  · rw [spelled] at noBreak noReturn ⊢
    have opens : c ≠ ' ' ∧ c ≠ '\x60' := by
      constructor <;> (rintro rfl; revert digit; decide)
    exact settled_cons opens ⟨noBreak, noReturn⟩

theorem foldlM_lineStep_spaces (width : Nat) :
    (List.replicate width ' ').foldlM lineStep true = some true := by
  induction width with
  | zero => rfl
  | succ width ih => rw [List.replicate_succ, List.foldlM_cons]; exact ih

/-- A line break opens the margin of the next line. -/
theorem scannable_breakAt (depth : Nat) : Scannable (breakAt depth) := fun _ =>
  ⟨true, foldlM_lineStep_spaces (2 * depth)⟩

theorem settled_separated {separator part : List Char} {parts : List (List Char)}
    (between : Scannable separator) (each : ∀ other ∈ part :: parts, Settled other) :
    Settled (separated separator (part :: parts)) := by
  induction parts generalizing part with
  | nil => exact each part List.mem_cons_self
  | cons other parts ih =>
      obtain ⟨first, others⟩ := List.forall_mem_cons.mp each
      rw [separated_cons_cons]
      exact (first.scannable.append between).append_settled (ih others)

/-- Parts between brackets, on lines of their own. -/
theorem settled_spread {opening closing : Char} (opens : Settled [opening])
    (closes : Settled [closing]) (depth : Nat) {parts : List (List Char)}
    (each : ∀ part ∈ parts, Settled part) :
    Settled (spread opening closing depth parts) := by
  have comma : Settled [','] := settled_cons (by decide) (by decide)
  cases parts with
  | nil => exact opens.scannable.append_settled closes
  | cons part parts =>
      have inside := settled_separated (comma.scannable.append (scannable_breakAt (depth + 1))) each
      have front := opens.scannable.append (scannable_breakAt (depth + 1))
      exact ((front.append inside.scannable).append (scannable_breakAt depth)).append_settled closes

/-- A value is printed so that no line of it opens with a backtick, wherever the value stands. -/
theorem settled_spreadChars {value : Value} (words : value.HasWords) (depth : Nat) :
    Settled (value.spreadChars depth) := by
  induction words generalizing depth with
  | null => exact settled_cons (by decide) (by decide)
  | bool flag => cases flag <;> exact settled_cons (by decide) (by decide)
  | integer word => exact settled_integerChars _
  | string text => exact settled_stringChars text
  | @array items _ ih =>
      rw [Value.spreadChars, spreadItems_eq_map]
      refine settled_spread (settled_cons (by decide) (by decide))
        (settled_cons (by decide) (by decide)) depth (List.forall_mem_map.mpr fun item inside => ?_)
      exact ih item inside (depth + 1)
  | @object members _ ih =>
      rw [Value.spreadChars, spreadMembers_eq_map]
      refine settled_spread (settled_cons (by decide) (by decide))
        (settled_cons (by decide) (by decide)) depth
        (List.forall_mem_map.mpr fun member inside => ?_)
      have colon : Settled [':', ' '] := settled_cons (by decide) (by decide)
      exact (settled_stringChars member.1).scannable.append_settled
        (colon.scannable.append_settled (ih member inside (depth + 1)))

/-! ## Lines of what was scanned -/

/-- A text that is scanned to its end is scanned line by line, each from a margin on. -/
theorem exists_foldlM_of_mem_splitOn {text line : List Char} {behind : Bool}
    (scanned : text.foldlM lineStep true = some behind) (listed : line ∈ text.splitOn '\n') :
    ∃ state, line.foldlM lineStep true = some state := by
  have parts : ['\n'].intercalate (text.splitOn '\n') = text := List.intercalate_splitOn '\n'
  rw [← parts] at scanned
  generalize text.splitOn '\n' = lines at scanned listed
  induction lines with
  | nil => cases listed
  | cons first others ih =>
      cases others with
      | nil =>
          rw [List.mem_singleton.mp listed]
          exact ⟨behind, by simpa using scanned⟩
      | cons next others =>
          rw [List.intercalate_cons_cons, List.append_assoc, List.foldlM_append] at scanned
          obtain ⟨state, toState, later⟩ := Option.bind_eq_some_iff.mp scanned
          rcases List.mem_cons.mp listed with rfl | behindFirst
          · exact ⟨state, toState⟩
          · exact ih later behindFirst

/-- No line opens with a backtick. -/
theorem head?_ne_backtick {line : List Char} {behind : Bool}
    (scanned : line.foldlM lineStep true = some behind) :
    (line.dropWhile (· == ' ')).head? ≠ some '\x60' := by
  induction line with
  | nil => simp
  | cons c rest ih =>
      by_cases space : c = ' '
      · subst space
        exact ih scanned
      · rw [List.dropWhile_cons_of_neg (by simpa using space), List.head?_cons]
        intro opens
        obtain rfl := Option.some.inj opens
        cases scanned

/-- The lines of a text that was scanned are what line feeds separate; the line that is begun is
empty no longer than its margin. -/
theorem splitLines_eq_splitOn {text begun : List Char} {inMargin : Bool}
    (scanned : text.foldlM lineStep inMargin = some false)
    (started : inMargin = false → begun ≠ []) (inLine : ∀ c ∈ begun, c ≠ '\n' ∧ c ≠ '\r') :
    splitLines text begun = (begun.reverse ++ text).splitOn '\n' := by
  induction text generalizing begun inMargin with
  | nil =>
      obtain rfl : inMargin = false := Option.some.inj scanned
      have single : '\n' ∉ begun.reverse := fun member =>
        (inLine '\n' (List.mem_reverse.mp member)).1 rfl
      rw [List.append_nil, List.splitOn_eq_singleton single]
      cases begun with
      | nil => exact absurd rfl (started rfl)
      | cons c begun => rfl
  | cons c rest ih =>
      rw [List.foldlM_cons] at scanned
      obtain ⟨state, step, later⟩ := Option.bind_eq_some_iff.mp scanned
      rw [splitLines]
      split
      · next ends =>
        subst ends
        obtain rfl : true = state := Option.some.inj step
        have closed : closeLine begun = begun.reverse := by
          unfold closeLine
          split
          · exact absurd rfl (inLine '\r' List.mem_cons_self).2
          · rfl
        have single : '\n' ∉ begun.reverse := fun member =>
          (inLine '\n' (List.mem_reverse.mp member)).1 rfl
        rw [closed, ih later (fun margin => absurd margin (by decide)) (List.forall_mem_nil _),
          Code.splitOn_append_cons, List.splitOn_eq_singleton single]
        rfl
      · next noBreak =>
        have noReturn : c ≠ '\r' := by
          rintro rfl
          cases step
        rw [ih later (fun _ => List.cons_ne_nil _ _)
            (List.forall_mem_cons.mpr ⟨⟨noBreak, noReturn⟩, inLine⟩),
          List.reverse_cons, List.append_assoc, List.singleton_append]

/-- The lines of a printed value are what line feeds separate. -/
theorem splitLines_spreadChars {value : Value} (words : value.HasWords) :
    splitLines (value.spreadChars 0) [] = (value.spreadChars 0).splitOn '\n' :=
  splitLines_eq_splitOn (settled_spreadChars words 0 true) (fun margin => absurd margin (by decide))
    (List.forall_mem_nil _)

end RpcSchema.Json
