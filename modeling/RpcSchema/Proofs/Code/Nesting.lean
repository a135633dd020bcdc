import Mathlib.Data.List.Basic
import RpcSchema.Code.Builder
import RpcSchema.Proofs.Code.Written

/-!
# Code at a level of nesting

A fragment can be written step by step, the level going up in front of a body and down behind it.
It comes out as the lines of the fragment, and the level is then what it was. What is written at a
level is what is written at the outermost one with the margin of the level in front of its lines, as
long as no line of the fragment holds a line feed of its own.
-/

namespace RpcSchema.Code

open Text

/-! ## Writing step by step -/

namespace Builder

/-- Writes the lines of a documentation comment, each led in by a mark. -/
def marked (mark : String) (builder : Builder) (text : String) : Builder :=
  (Text.lines text).foldl (fun builder line => builder.line (trimEnd (mark ++ line))) builder

mutual
/-- Writes a fragment step by step. -/
def applySteps (builder : Builder) : Fragment → Builder
  | .line text => builder.line text
  | .blank => builder.blank
  | .block header body close =>
    close.toList.foldl line ((builder.line header).deeper.applyAllSteps body).outer
  | .indent body => (builder.deeper.applyAllSteps body).outer
  | .comment text => builder.line ("// " ++ text)
  | .docBlock text => ((builder.line "/**").marked " * " text).line " */"
  | .docLines text => builder.marked "/// " text

def applyAllSteps (builder : Builder) : List Fragment → Builder
  | [] => builder
  | fragment :: rest => (builder.applySteps fragment).applyAllSteps rest
end

theorem push_push (builder : Builder) (front rest : List Line) :
    (builder.push front).push rest = builder.push (front ++ rest) := by
  rw [push, push, push, List.append_assoc]

theorem push_nil (builder : Builder) : builder.push [] = builder := by
  rw [push, List.append_nil]

theorem foldl_line (builder : Builder) (texts : List String) :
    texts.foldl line builder = builder.push (texts.map (Line.mk builder.level)) := by
  induction texts generalizing builder with
  | nil => exact builder.push_nil.symm
  | cons text texts ih =>
      rw [List.foldl_cons, ih, line, push_push]
      rfl

theorem marked_eq (mark : String) (builder : Builder) (text : String) :
    builder.marked mark text = builder.push
      ((Text.lines text).map fun line => ⟨builder.level, trimEnd (mark ++ line)⟩) := by
  have texts := builder.foldl_line ((Text.lines text).map fun line => trimEnd (mark ++ line))
  rw [List.foldl_map, List.map_map] at texts
  exact texts

/-- A body goes one level deeper and the level comes back behind it; the outermost level is never
left, since the way out is only taken after a way in. -/
theorem outer_push_deeper (builder : Builder) (lines : List Line) :
    (builder.deeper.push lines).outer = builder.push lines := rfl

mutual
theorem applySteps_eq (builder : Builder) (fragment : Fragment) :
    builder.applySteps fragment = builder.apply fragment := by
  cases fragment with
  | line text => rfl
  | blank => rfl
  | block header body close =>
      have opened : builder.line header = builder.push [⟨builder.level, header⟩] := rfl
      rw [applySteps, applyAllSteps_eq, outer_push_deeper, opened, push_push, foldl_line, push_push]
      rfl
  | indent body =>
      rw [applySteps, applyAllSteps_eq, outer_push_deeper]
      rfl
  | comment text => rfl
  | docBlock text =>
      have opened : builder.line "/**" = builder.push [⟨builder.level, "/**"⟩] := rfl
      rw [applySteps, marked_eq, opened, push_push, line, push_push]
      rfl
  | docLines text =>
      rw [applySteps, marked_eq]
      rfl

theorem applyAllSteps_eq (builder : Builder) (fragments : List Fragment) :
    builder.applyAllSteps fragments = builder.push (linesOf builder.level fragments) := by
  cases fragments with
  | nil => exact builder.push_nil.symm
  | cons fragment rest =>
      rw [applyAllSteps, applySteps_eq builder fragment, applyAllSteps_eq _ rest, apply, push_push,
        linesOf]
      rfl
end

theorem toList_text_push (builder : Builder) (lines : List Line) :
    (builder.push lines).text.toList =
      builder.text.toList ++ (writeLines builder.indent lines).toList := by
  simp only [text, push, writeLines, String.toList_ofList, List.flatMap_append]

end Builder

/-! ## Lines at a level -/

/-- The line some levels deeper. -/
def Line.raised (levels : Nat) (line : Line) : Line := ⟨levels + line.level, line.text⟩

mutual
theorem Fragment.lines_raised (levels level : Nat) (fragment : Fragment) :
    fragment.lines (levels + level) = (fragment.lines level).map (Line.raised levels) := by
  cases fragment with
  | line text => rfl
  | blank => rfl
  | block header body close =>
      rw [Fragment.lines, Fragment.lines, Nat.add_assoc, linesOf_raised levels (level + 1) body]
      cases close <;> simp [Line.raised]
  | indent body =>
      rw [Fragment.lines, Fragment.lines, Nat.add_assoc, linesOf_raised levels (level + 1) body]
  | comment text => rfl
  | docBlock text => simp [Fragment.lines, Line.raised]
  | docLines text => simp [Fragment.lines, Line.raised]

theorem linesOf_raised (levels level : Nat) (fragments : List Fragment) :
    linesOf (levels + level) fragments = (linesOf level fragments).map (Line.raised levels) := by
  cases fragments with
  | nil => rfl
  | cons fragment rest =>
      rw [linesOf, linesOf, Fragment.lines_raised levels level fragment,
        linesOf_raised levels level rest, List.map_append]
end

/-! ## Lines without line feeds -/

mutual
/-- Whether none of the texts that a fragment writes as a line holds a line feed. Documentation is
split into its lines. -/
def Fragment.isUnbroken : Fragment → Bool
  | .line text => !text.toList.contains '\n'
  | .blank => true
  | .block header body close =>
    !header.toList.contains '\n' && areUnbroken body &&
      close.toList.all fun close => !close.toList.contains '\n'
  | .indent body => areUnbroken body
  | .comment text => !text.toList.contains '\n'
  | .docBlock _ => true
  | .docLines _ => true

def areUnbroken : List Fragment → Bool
  | [] => true
  | fragment :: rest => fragment.isUnbroken && areUnbroken rest
end

theorem not_mem_of_mem_splitLines {text begun line : List Char} (single : '\n' ∉ begun)
    (member : line ∈ splitLines text begun) : '\n' ∉ line := by
  induction text generalizing begun with
  | nil =>
      unfold splitLines at member
      split at member
      · cases member
      · rw [List.mem_singleton.mp member]
        exact fun member => single (List.mem_reverse.mp member)
      · contradiction
  | cons c text ih =>
      rw [splitLines] at member
      split at member
      · rcases List.mem_cons.mp member with rfl | later
        · exact not_mem_closeLine single
        · exact ih List.not_mem_nil later
      · next inLine =>
        exact ih (List.not_mem_cons_of_ne_of_not_mem (Ne.symm inLine) single) member

theorem not_mem_trimEnd {text : String} (single : '\n' ∉ text.toList) :
    '\n' ∉ (trimEnd text).toList := by
  rw [trimEnd, String.toList_ofList]
  exact fun member => single ((prefix_dropTrailingBlanks _).subset member)

/-- A line of documentation holds no line feed, whatever the text. -/
theorem not_mem_marked {mark text line : String} (single : '\n' ∉ mark.toList)
    (member : line ∈ Text.lines text) : '\n' ∉ (trimEnd (mark ++ line)).toList := by
  obtain ⟨chars, listed, rfl⟩ := List.mem_map.mp member
  refine not_mem_trimEnd ?_
  rw [String.toList_append, String.toList_ofList]
  exact List.not_mem_append single (not_mem_of_mem_splitLines List.not_mem_nil listed)

mutual
theorem Fragment.not_mem_lines {fragment : Fragment} (unbroken : fragment.isUnbroken)
    (level : Nat) : ∀ line ∈ fragment.lines level, '\n' ∉ line.text.toList := by
  cases fragment with
  | line text => simpa [Fragment.lines, Fragment.isUnbroken] using unbroken
  | blank => simp [Fragment.lines]
  | block header body close =>
      simp only [Fragment.isUnbroken, Bool.and_eq_true] at unbroken
      have inBody := not_mem_linesOf unbroken.1.2 (level + 1)
      have header : '\n' ∉ header.toList := by simpa using unbroken.1.1
      have closing : ∀ text ∈ close.toList, '\n' ∉ text.toList := by simpa using unbroken.2
      simp only [Fragment.lines, List.cons_append, List.forall_mem_cons, List.forall_mem_append,
        List.forall_mem_map]
      exact ⟨header, inBody, closing⟩
  | indent body => exact not_mem_linesOf unbroken (level + 1)
  | comment text =>
      have text : '\n' ∉ text.toList := by simpa [Fragment.isUnbroken] using unbroken
      rw [Fragment.lines, List.forall_mem_singleton, String.toList_append]
      exact List.not_mem_append (by decide) text
  | docBlock text =>
      simp only [Fragment.lines, List.cons_append, List.forall_mem_cons, List.forall_mem_append,
        List.forall_mem_map]
      exact ⟨by decide, fun line listed => not_mem_marked (by decide) listed, by decide⟩
  | docLines text =>
      rw [Fragment.lines, List.forall_mem_map]
      exact fun line listed => not_mem_marked (by decide) listed

theorem not_mem_linesOf {fragments : List Fragment} (unbroken : areUnbroken fragments)
    (level : Nat) : ∀ line ∈ linesOf level fragments, '\n' ∉ line.text.toList := by
  cases fragments with
  | nil => simp [linesOf]
  | cons fragment rest =>
      rw [areUnbroken, Bool.and_eq_true] at unbroken
      rw [linesOf, List.forall_mem_append]
      exact ⟨Fragment.not_mem_lines unbroken.1 level, not_mem_linesOf unbroken.2 level⟩
end

/-! ## Texts behind a margin -/

/-- The text with a margin in front of every line that is not empty. -/
def shiftLines (margin text : List Char) : List Char :=
  ['\n'].intercalate
    ((text.splitOn '\n').map fun line => if line.isEmpty then [] else margin ++ line)

example : shiftLines "  ".toList "a\n\n b\n".toList = "  a\n\n   b\n".toList := by decide

theorem shiftLines_append_cons (margin : List Char) {line : List Char} (single : '\n' ∉ line)
    (rest : List Char) :
    shiftLines margin (line ++ '\n' :: rest) =
      (if line.isEmpty then [] else margin ++ line) ++ '\n' :: shiftLines margin rest := by
  have split : (line ++ '\n' :: rest).splitOn '\n' = line :: rest.splitOn '\n' := by
    rw [splitOn_append_cons, List.splitOn_eq_singleton single, List.singleton_append]
  rw [shiftLines, split, List.map_cons, shiftLines]
  cases rows : rest.splitOn '\n' with
  | nil => exact absurd rows (List.splitOnP_ne_nil _ _)
  | cons first others =>
      rw [List.map_cons, List.intercalate_cons_cons, List.append_assoc, List.singleton_append]

theorem Indent.margin_add (indent : Indent) (levels level : Nat) :
    indent.margin (levels + level) = indent.margin levels ++ indent.margin level := by
  rw [margin, List.replicate_add, List.flatten_append]
  rfl

theorem Indent.not_mem_margin (indent : Indent) (level : Nat) : '\n' ∉ indent.margin level := by
  intro member
  obtain ⟨unit, listed, inUnit⟩ := List.mem_flatten.mp member
  rw [List.eq_of_mem_replicate listed] at inUnit
  cases indent with
  | spaces width => exact absurd (List.eq_of_mem_replicate inUnit) (by decide)
  | tab => exact absurd (List.mem_singleton.mp inUnit) (by decide)

theorem shiftLines_chars (indent : Indent) (levels : Nat) {line : Line}
    (single : '\n' ∉ line.text.toList) (rest : List Char) :
    shiftLines (indent.margin levels) (line.chars indent ++ rest) =
      (line.raised levels).chars indent ++ shiftLines (indent.margin levels) rest := by
  rw [Line.chars, Line.chars, Line.raised]
  split
  · exact shiftLines_append_cons _ List.not_mem_nil rest
  · next shown =>
    have single : '\n' ∉ indent.margin line.level ++ line.text.toList :=
      List.not_mem_append (indent.not_mem_margin _) single
    have shown : (indent.margin line.level ++ line.text.toList).isEmpty = false := by
      simpa using fun _ => mt String.toList_eq_nil_iff.mp (by simpa using shown)
    rw [List.append_assoc, List.singleton_append, shiftLines_append_cons _ single, shown,
      indent.margin_add]
    simp only [Bool.false_eq_true, if_false, List.append_assoc, List.singleton_append]

theorem shiftLines_writeLines (indent : Indent) (levels : Nat) {lines : List Line}
    (single : ∀ line ∈ lines, '\n' ∉ line.text.toList) :
    shiftLines (indent.margin levels) (writeLines indent lines).toList =
      (writeLines indent (lines.map (Line.raised levels))).toList := by
  simp only [writeLines, String.toList_ofList]
  induction lines with
  | nil => rfl
  | cons line lines ih =>
      obtain ⟨here, later⟩ := List.forall_mem_cons.mp single
      rw [List.flatMap_cons, shiftLines_chars indent levels here, ih later, List.map_cons,
        List.flatMap_cons]

/-! ## Fragments at any level -/

/-- Applying a fragment, step by step or at once, leaves the level, and appends what it appends at
the outermost level with the margin of the level in front of every line that is not empty. -/
theorem nesting_shifts_lines {fragment : Fragment} (unbroken : fragment.isUnbroken)
    (builder : Builder) :
    builder.apply fragment = builder.applySteps fragment ∧
      (builder.applySteps fragment).level = builder.level ∧
      ∀ outermost : Builder, outermost.indent = builder.indent → outermost.level = 0 →
        ∃ appended : List Char,
          (outermost.applySteps fragment).text.toList = outermost.text.toList ++ appended ∧
          (builder.applySteps fragment).text.toList =
            builder.text.toList ++ shiftLines (builder.indent.margin builder.level) appended := by
  rw [Builder.applySteps_eq]
  refine ⟨rfl, rfl, fun outermost sameIndent isOutermost => ?_⟩
  have shifted := shiftLines_writeLines builder.indent builder.level
    (Fragment.not_mem_lines unbroken 0)
  rw [← Fragment.lines_raised, Nat.add_zero] at shifted
  refine ⟨(writeLines builder.indent (fragment.lines 0)).toList, ?_, ?_⟩
  · rw [Builder.applySteps_eq, Builder.apply, Builder.toList_text_push, sameIndent, isOutermost]
  · rw [Builder.apply, Builder.toList_text_push, shifted]

/-- The nodes of a file, one behind the other, come out at any level as they do at the outermost. -/
theorem shiftLines_write (indent : Indent) (level : Nat) {fragments : List Fragment}
    (unbroken : areUnbroken fragments) :
    shiftLines (indent.margin level) (write indent fragments).toList =
      (writeLines indent (linesOf level fragments)).toList := by
  rw [write, shiftLines_writeLines indent level (not_mem_linesOf unbroken 0), ← linesOf_raised,
    Nat.add_zero]

/-- A function below a comment of three lines, one of them empty. -/
def greeting : Fragment :=
  .indent [
    .docBlock "Greets.\n\nAll.",
    block "greet() \x7b" [.line "hello();", .blank, .indent [.comment "done"]] "\x7d"]

def greetingText : List Char :=
  "\t/**\n\t * Greets.\n\t *\n\t * All.\n\t */\n".toList ++
    "\tgreet() \x7b\n\t\thello();\n\n\t\t\t// done\n\t\x7d\n".toList

theorem nesting_shifts_greeting :
    greeting.isUnbroken ∧
      ((Builder.new .tab).applySteps greeting).text.toList = greetingText ∧
      (Builder.applySteps ⟨.tab, 1, []⟩ greeting).level = 1 ∧
      (Builder.applySteps ⟨.tab, 1, []⟩ greeting).text.toList =
        shiftLines ['\t'] greetingText := by
  have unbroken : greeting.isUnbroken := by decide
  obtain ⟨-, level, shifts⟩ := nesting_shifts_lines unbroken ⟨.tab, 1, []⟩
  obtain ⟨appended, outside, inside⟩ := shifts (Builder.new .tab) rfl rfl
  have written : ((Builder.new .tab).applySteps greeting).text.toList = greetingText := by
    decide +kernel
  obtain rfl : greetingText = appended := written.symm.trans outside
  exact ⟨unbroken, written, level, inside⟩

end RpcSchema.Code
