import Mathlib.Data.List.Basic
import RpcSchema.Code.Fragment

/-!
# Rows of written code

What fragments are written as is read back row by row. A row is a line without the white space at
its ends, so levels of nesting do not show, and fragments are written as the rows of their parts.
-/

namespace RpcSchema.Code

open Text

/-- Characters without the white space at their ends. -/
def trimmed (chars : List Char) : List Char := dropTrailingBlanks (dropBlanks chars)

/-- The rows of a text. -/
def textRows (text : List Char) : List (List Char) := (text.splitOn '\n').map trimmed

example : textRows "a (\n\tb \r\n\n)".toList = ["a (".toList, ['b'], [], [')']] := by decide

section Trimmed

variable {c : Char} {chars : List Char}

theorem dropBlanks_cons_of_isBlank (blank : isBlank c) :
    dropBlanks (c :: chars) = dropBlanks chars :=
  List.dropWhile_cons_of_pos blank

theorem dropBlanks_cons (shown : isBlank c = false) : dropBlanks (c :: chars) = c :: chars :=
  List.dropWhile_cons_of_neg (by rw [shown]; decide)

theorem dropTrailingBlanks_concat (blank : isBlank c) :
    dropTrailingBlanks (chars ++ [c]) = dropTrailingBlanks chars := by
  rw [dropTrailingBlanks, List.reverse_append, List.reverse_singleton, List.singleton_append,
    dropBlanks_cons_of_isBlank blank, dropTrailingBlanks]

theorem dropTrailingBlanks_cons (shown : isBlank c = false) :
    dropTrailingBlanks (c :: chars) = c :: dropTrailingBlanks chars := by
  have last : dropBlanks [c] = [c] := dropBlanks_cons shown
  rw [dropTrailingBlanks, List.reverse_cons, dropBlanks, List.dropWhile_append]
  split
  · next none =>
    rw [dropTrailingBlanks, dropBlanks, List.isEmpty_iff.mp none]
    exact congrArg List.reverse last
  · rw [List.reverse_append]
    rfl

theorem trimmed_cons_of_isBlank (blank : isBlank c) : trimmed (c :: chars) = trimmed chars := by
  rw [trimmed, dropBlanks_cons_of_isBlank blank, trimmed]

theorem trimmed_concat_of_isBlank (blank : isBlank c) : trimmed (chars ++ [c]) = trimmed chars := by
  have last : dropBlanks [c] = [] := dropBlanks_cons_of_isBlank blank
  rw [trimmed, dropBlanks, List.dropWhile_append]
  split
  · next none =>
    rw [trimmed, dropBlanks, List.isEmpty_iff.mp none]
    exact congrArg dropTrailingBlanks last
  · exact dropTrailingBlanks_concat blank

theorem prefix_dropTrailingBlanks (chars : List Char) : dropTrailingBlanks chars <+: chars := by
  rw [← List.reverse_suffix, dropTrailingBlanks, List.reverse_reverse]
  exact List.dropWhile_suffix isBlank

theorem infix_trimmed (chars : List Char) : trimmed chars <:+: chars :=
  (prefix_dropTrailingBlanks _).isInfix.trans (List.dropWhile_suffix isBlank).isInfix

end Trimmed

/-! ## Rows of texts -/

theorem splitOn_append_cons (front rest : List Char) :
    (front ++ '\n' :: rest).splitOn '\n' = front.splitOn '\n' ++ rest.splitOn '\n' :=
  List.splitOnP_append_cons front rest (by decide)

/-- What line feeds separate has none. -/
theorem not_mem_of_mem_splitOn {text line : List Char} (listed : line ∈ text.splitOn '\n') :
    '\n' ∉ line := by
  induction text generalizing line with
  | nil =>
      rw [List.mem_singleton.mp listed]
      exact List.not_mem_nil
  | cons c rest ih =>
      rw [List.splitOn, List.splitOnP_cons_eq_if_modifyHead, ← List.splitOn] at listed
      split at listed
      · rcases List.mem_cons.mp listed with rfl | later
        · exact List.not_mem_nil
        · exact ih later
      · next other =>
        have inLine : '\n' ≠ c := fun same => other (by rw [← same]; decide)
        cases lines : rest.splitOn '\n' with
        | nil =>
            rw [lines] at listed
            cases listed
        | cons first others =>
            rw [lines, List.modifyHead_cons] at listed
            rcases List.mem_cons.mp listed with rfl | later
            · exact List.not_mem_cons_of_ne_of_not_mem inLine (ih (lines ▸ List.mem_cons_self))
            · exact ih (lines ▸ List.mem_cons_of_mem _ later)

theorem textRows_append_cons (front rest : List Char) :
    textRows (front ++ '\n' :: rest) = textRows front ++ textRows rest := by
  rw [textRows, splitOn_append_cons, List.map_append, textRows, textRows]

theorem textRows_of_not_mem {text : List Char} (single : '\n' ∉ text) :
    textRows text = [trimmed text] := by
  rw [textRows, List.splitOn_eq_singleton single, List.map_singleton]

theorem infix_of_mem_intercalate {separator : Char} {pieces : List (List Char)} {piece : List Char}
    (member : piece ∈ pieces) : piece <:+: [separator].intercalate pieces := by
  induction pieces with
  | nil => cases member
  | cons first others ih =>
      cases others with
      | nil => simp [List.mem_singleton.mp member]
      | cons next others =>
          rw [List.intercalate_cons_cons]
          rcases List.mem_cons.mp member with rfl | later
          · rw [List.append_assoc]
            exact (List.prefix_append _ _).isInfix
          · exact (ih later).trans (List.suffix_append _ _).isInfix

theorem infix_of_mem_textRows {text row : List Char} (member : row ∈ textRows text) :
    row <:+: text := by
  rw [textRows, List.mem_map] at member
  obtain ⟨line, listed, rfl⟩ := member
  have whole : line <:+: ['\n'].intercalate (text.splitOn '\n') := infix_of_mem_intercalate listed
  rw [List.intercalate_splitOn] at whole
  exact (infix_trimmed line).trans whole

theorem textRows_cons_of_isBlank {c : Char} (blank : isBlank c) (inLine : c ≠ '\n')
    (rest : List Char) : textRows (c :: rest) = textRows rest := by
  rw [textRows, List.splitOn, List.splitOnP_cons_eq_if_modifyHead, if_neg (by simpa using inLine),
    textRows, List.splitOn]
  cases List.splitOnP (· == '\n') rest with
  | nil => rfl
  | cons first others =>
      rw [List.modifyHead_cons, List.map_cons, trimmed_cons_of_isBlank blank, List.map_cons]

theorem textRows_margin (indent : Indent) (level : Nat) (rest : List Char) :
    textRows (indent.margin level ++ rest) = textRows rest := by
  have inMargin : ∀ c ∈ indent.margin level, isBlank c ∧ c ≠ '\n' := by
    intro c member
    obtain ⟨unit, listed, inUnit⟩ := List.mem_flatten.mp member
    rw [List.eq_of_mem_replicate listed] at inUnit
    cases indent with
    | spaces width =>
        rw [List.eq_of_mem_replicate inUnit]
        decide
    | tab =>
        rw [List.mem_singleton.mp inUnit]
        decide
  generalize indent.margin level = margin at inMargin
  induction margin with
  | nil => rfl
  | cons c margin ih =>
      obtain ⟨⟨blank, inLine⟩, inMargin⟩ := List.forall_mem_cons.mp inMargin
      rw [List.cons_append, textRows_cons_of_isBlank blank inLine, ih inMargin]

theorem textRows_chars (indent : Indent) (line : Line) (rest : List Char) :
    textRows (line.chars indent ++ rest) = textRows line.text.toList ++ textRows rest := by
  rw [Line.chars]
  split
  · next none =>
    rw [String.isEmpty_iff.mp none]
    exact textRows_append_cons [] rest
  · rw [List.append_assoc, List.singleton_append, textRows_append_cons, textRows_margin]

/-- Lines are written as their rows, and the end of the text is an empty row. -/
theorem textRows_writeLines (indent : Indent) (lines : List Line) :
    textRows (writeLines indent lines).toList =
      (lines.flatMap fun line => textRows line.text.toList) ++ [[]] := by
  rw [writeLines, String.toList_ofList]
  induction lines with
  | nil => rfl
  | cons line lines ih =>
      rw [List.flatMap_cons, textRows_chars, ih, List.flatMap_cons, List.append_assoc]

/-- A carriage return before the end of a line is white space of its row. -/
theorem trimmed_closeLine (line : List Char) : trimmed (closeLine line) = trimmed line.reverse := by
  unfold closeLine
  split
  · rw [List.reverse_cons, trimmed_concat_of_isBlank (by decide)]
  · rfl

theorem not_mem_closeLine {line : List Char} (single : '\n' ∉ line) : '\n' ∉ closeLine line := by
  unfold closeLine
  split
  · exact fun member => single (List.mem_cons_of_mem _ (List.mem_reverse.mp member))
  · exact fun member => single (List.mem_reverse.mp member)

theorem textRows_closeLine {line : List Char} (single : '\n' ∉ line) :
    textRows (closeLine line) = textRows line.reverse := by
  rw [textRows_of_not_mem (not_mem_closeLine single), trimmed_closeLine,
    textRows_of_not_mem fun member => single (List.mem_reverse.mp member)]

theorem infix_of_mem_splitLines {text begun line : List Char}
    (member : line ∈ splitLines text begun) : line <:+: begun.reverse ++ text := by
  have closed (line : List Char) : closeLine line <+: line.reverse := by
    unfold closeLine
    split
    · rw [List.reverse_cons]
      exact List.prefix_append _ _
    · exact List.prefix_rfl
  induction text generalizing begun with
  | nil =>
      unfold splitLines at member
      split at member
      · cases member
      · rw [List.mem_singleton.mp member]
        exact (List.prefix_append _ _).isInfix
      · contradiction
  | cons c text ih =>
      rw [splitLines] at member
      split at member
      · rcases List.mem_cons.mp member with rfl | later
        · exact ((closed begun).trans (List.prefix_append _ _)).isInfix
        · exact (ih later).trans ((List.suffix_cons c text).trans (List.suffix_append _ _)).isInfix
      · have within := ih member
        rwa [List.reverse_cons, List.append_assoc, List.singleton_append] at within

/-- The lines of a text that ends with a line feed have its rows. -/
theorem textRows_splitLines (text : List Char) {begun : List Char} (single : '\n' ∉ begun) :
    (splitLines (text ++ ['\n']) begun).flatMap textRows = textRows (begun.reverse ++ text) := by
  induction text generalizing begun with
  | nil =>
      rw [List.nil_append, splitLines, if_pos rfl, splitLines, List.flatMap_singleton,
        textRows_closeLine single, List.append_nil]
  | cons c text ih =>
      rw [List.cons_append, splitLines]
      split
      · next ends =>
        rw [List.flatMap_cons, ih List.not_mem_nil, textRows_closeLine single, ends]
        exact (textRows_append_cons begun.reverse text).symm
      · next inLine =>
        rw [ih (List.not_mem_cons_of_ne_of_not_mem (Ne.symm inLine) single), List.reverse_cons,
          List.append_assoc, List.singleton_append]

/-! ## Rows of fragments -/

mutual
/-- The rows that a fragment is written as, at any level of nesting. -/
def Fragment.written : Fragment → List (List Char)
  | .line text => textRows text.toList
  | .blank => [[]]
  | .block header body close =>
    textRows header.toList ++ writtenOf body ++
      close.toList.flatMap fun close => textRows close.toList
  | .indent body => writtenOf body
  | .comment text => textRows ("// " ++ text).toList
  | .docBlock text =>
    "/**".toList ::
      ((Text.lines text).flatMap fun line => textRows (trimEnd (" * " ++ line)).toList) ++
      ["*/".toList]
  | .docLines text =>
    (Text.lines text).flatMap fun line => textRows (trimEnd ("/// " ++ line)).toList

def writtenOf : List Fragment → List (List Char)
  | [] => []
  | fragment :: rest => fragment.written ++ writtenOf rest
end

theorem writtenOf_append (front rest : List Fragment) :
    writtenOf (front ++ rest) = writtenOf front ++ writtenOf rest := by
  induction front with
  | nil => rfl
  | cons fragment front ih =>
      rw [List.cons_append, writtenOf, ih, writtenOf, List.append_assoc]

theorem writtenOf_flatMap {α : Type} (items : List α) (part : α → List Fragment) :
    writtenOf (items.flatMap part) = items.flatMap fun item => writtenOf (part item) := by
  induction items with
  | nil => rfl
  | cons item items ih => rw [List.flatMap_cons, writtenOf_append, ih, List.flatMap_cons]

mutual
theorem Fragment.textRows_lines (level : Nat) (fragment : Fragment) :
    ((fragment.lines level).flatMap fun line => textRows line.text.toList) = fragment.written := by
  have opening : textRows "/**".toList = ["/**".toList] := by decide
  have closing : textRows " */".toList = ["*/".toList] := by decide
  cases fragment with
  | line text => rw [Fragment.lines, List.flatMap_singleton, Fragment.written]
  | blank => rfl
  | block header body close =>
      rw [Fragment.lines, List.cons_append, List.flatMap_cons, List.flatMap_append,
        List.flatMap_map,
        textRows_linesOf (level + 1) body, Fragment.written, List.append_assoc]
  | indent body => rw [Fragment.lines, textRows_linesOf (level + 1) body, Fragment.written]
  | comment text => rw [Fragment.lines, List.flatMap_singleton, Fragment.written]
  | docBlock text =>
      rw [Fragment.lines, List.cons_append, List.flatMap_cons, List.flatMap_append,
        List.flatMap_map,
        List.flatMap_singleton, opening, closing, Fragment.written]
      rfl
  | docLines text => rw [Fragment.lines, List.flatMap_map, Fragment.written]

theorem textRows_linesOf (level : Nat) (fragments : List Fragment) :
    ((linesOf level fragments).flatMap fun line => textRows line.text.toList) =
      writtenOf fragments := by
  cases fragments with
  | nil => rfl
  | cons fragment rest =>
      rw [linesOf, List.flatMap_append, Fragment.textRows_lines level fragment,
        textRows_linesOf level rest, writtenOf]
end

theorem textRows_write (indent : Indent) (fragments : List Fragment) :
    textRows (write indent fragments).toList = writtenOf fragments ++ [[]] := by
  rw [write, textRows_writeLines, textRows_linesOf]

/-! ## Written lines -/

theorem linesOf_append (level : Nat) (front rest : List Fragment) :
    linesOf level (front ++ rest) = linesOf level front ++ linesOf level rest := by
  induction front with
  | nil => rfl
  | cons fragment front ih =>
      rw [List.cons_append, linesOf, ih, linesOf, List.append_assoc]

theorem toList_write_append (indent : Indent) (front rest : List Fragment) :
    (write indent (front ++ rest)).toList =
      (write indent front).toList ++ (write indent rest).toList := by
  simp only [write, writeLines, String.toList_ofList, linesOf_append, List.flatMap_append]

/-- At the outermost level a line is written as it is. -/
theorem toList_write_lines (indent : Indent) (rows : List String) :
    (write indent (rows.map .line)).toList = rows.flatMap fun row => row.toList ++ ['\n'] := by
  rw [write, writeLines, String.toList_ofList]
  induction rows with
  | nil => rfl
  | cons row rows ih =>
      have written : Line.chars indent ⟨0, row⟩ = row.toList ++ ['\n'] := by
        rw [Line.chars]
        split
        · next none =>
          have empty : row = "" := String.isEmpty_iff.mp none
          rw [empty]
          rfl
        · rfl
      rw [List.map_cons, linesOf, Fragment.lines, List.singleton_append, List.flatMap_cons,
        written, ih, List.flatMap_cons]

/-- Lines that are ended are read back in front of what follows them. -/
theorem splitOn_rows {rows : List (List Char)} (single : ∀ row ∈ rows, '\n' ∉ row)
    (rest : List Char) :
    ((rows.flatMap (· ++ ['\n'])) ++ rest).splitOn '\n' = rows ++ rest.splitOn '\n' := by
  induction rows with
  | nil => rfl
  | cons row rows ih =>
      obtain ⟨here, later⟩ := List.forall_mem_cons.mp single
      rw [List.flatMap_cons, List.append_assoc, List.append_assoc, List.singleton_append,
        splitOn_append_cons, List.splitOn_eq_singleton here, ih later]
      rfl

theorem exists_of_chars (indent : Indent) (line : Line) :
    ∃ front, line.chars indent = front ++ ['\n'] := by
  rw [Line.chars]
  split
  · exact ⟨[], rfl⟩
  · exact ⟨_, rfl⟩

/-- Written code ends with a line feed, unless there is none. -/
theorem write_eq_nil_or_concat (indent : Indent) (fragments : List Fragment) :
    (write indent fragments).toList = [] ∨
      ∃ front, (write indent fragments).toList = front ++ ['\n'] := by
  rw [write, writeLines, String.toList_ofList]
  rcases List.eq_nil_or_concat (linesOf 0 fragments) with none | ⟨before, last, some⟩
  · rw [none]
    exact .inl rfl
  · obtain ⟨front, ends⟩ := exists_of_chars indent last
    rw [some, List.concat_eq_append, List.flatMap_append, List.flatMap_singleton, ends,
      ← List.append_assoc]
    exact .inr ⟨_, rfl⟩

/-- Written code that stands in other code as it is has its rows there. -/
theorem writtenOf_rawLines_write (indent : Indent) (fragments : List Fragment) :
    writtenOf (rawLines (write indent fragments)) = writtenOf fragments := by
  have ofLines (rows : List (List Char)) : writtenOf ((rows.map String.ofList).map Fragment.line) =
      rows.flatMap textRows := by
    induction rows with
    | nil => rfl
    | cons row rows ih =>
        rw [List.map_cons, List.map_cons, writtenOf, Fragment.written, ih, String.toList_ofList,
          List.flatMap_cons]
  have rows := textRows_write indent fragments
  have ending : textRows [] = [[]] := rfl
  rw [rawLines, Text.lines, ofLines]
  rcases write_eq_nil_or_concat indent fragments with none | ⟨front, ends⟩
  · rw [none, ending] at rows
    rw [none, splitLines, List.flatMap_nil]
    exact List.append_cancel_right rows
  · rw [ends, textRows_append_cons, ending] at rows
    rw [ends, textRows_splitLines front List.not_mem_nil]
    exact List.append_cancel_right rows

end RpcSchema.Code
