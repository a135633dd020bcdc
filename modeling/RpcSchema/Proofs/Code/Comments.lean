import RpcSchema.Proofs.Code.Patterns
import RpcSchema.Proofs.Code.Written

/-!
# Comments in written code

A comment behind `//` ends with its row, and a documentation block with the first closing mark,
however it came there. Rows are read here for the code outside of such comments.
-/

namespace RpcSchema.Code

open Text

/-! ## Comments behind slashes -/

/-- Whether a row is a comment. -/
def isComment (row : List Char) : Bool := "//".toList.isPrefixOf row

def isCode (row : List Char) : Bool := !row.isEmpty && !isComment row

/-- The rows of a text that are no comments, without the empty ones. -/
def codeRows (text : String) : List (List Char) := (textRows text.toList).filter isCode

example : codeRows "// a\n  b // c\n\n\t// d\n" = ["b // c".toList] := by decide

/-- The rows of fragments that are no comments. -/
def codeOf (fragments : List Fragment) : List (List Char) := (writtenOf fragments).filter isCode

theorem codeRows_write (indent : Indent) (fragments : List Fragment) :
    codeRows (write indent fragments) = codeOf fragments := by
  rw [codeRows, textRows_write, List.filter_append]
  exact List.append_nil _

theorem codeOf_append (front rest : List Fragment) :
    codeOf (front ++ rest) = codeOf front ++ codeOf rest := by
  rw [codeOf, writtenOf_append, List.filter_append]
  rfl

theorem codeOf_cons (fragment : Fragment) (rest : List Fragment) :
    codeOf (fragment :: rest) = codeOf [fragment] ++ codeOf rest := codeOf_append [fragment] rest

theorem codeOf_flatMap {α : Type} (items : List α) (part : α → List Fragment) :
    codeOf (items.flatMap part) = items.flatMap fun item => codeOf (part item) := by
  rw [codeOf, writtenOf_flatMap, List.filter_flatMap]
  rfl

theorem codeOf_blank : codeOf [.blank] = [] := rfl

theorem codeOf_block (header : String) (body : List Fragment) (close : String) :
    codeOf [block header body close] =
      codeOf [.line header] ++ codeOf body ++ codeOf [.line close] := by
  simp only [codeOf, writtenOf, Fragment.written, block, Option.toList_some, List.flatMap_singleton,
    List.append_nil, List.filter_append]

theorem codeOf_spaced (parts : List (List Fragment)) :
    codeOf (spaced parts) = parts.flatMap codeOf := by
  induction parts with
  | nil => rfl
  | cons part parts ih =>
      cases parts with
      | nil => rw [spaced, List.flatMap_singleton]
      | cons next parts =>
          have rows : codeOf (spaced (part :: next :: parts)) =
              codeOf part ++ codeOf (.blank :: spaced (next :: parts)) := codeOf_append _ _
          rw [rows, codeOf_cons, codeOf_blank, List.nil_append, ih]
          rfl

/-- A comment of one line is no code. -/
theorem codeOf_comment {text : String} (single : '\n' ∉ text.toList) :
    codeOf [.comment text] = [] := by
  have inLine : '\n' ∉ ("// " ++ text).toList := by
    rw [String.toList_append]
    exact List.not_mem_append (by decide) single
  have slash : isBlank '/' = false := by decide
  have row : trimmed ("// " ++ text).toList =
      '/' :: '/' :: dropTrailingBlanks (' ' :: text.toList) := by
    rw [String.toList_append]
    change trimmed ('/' :: '/' :: ' ' :: text.toList) = _
    rw [trimmed, dropBlanks_cons slash, dropTrailingBlanks_cons slash,
      dropTrailingBlanks_cons slash]
  rw [codeOf, writtenOf, Fragment.written, textRows_of_not_mem inLine, row]
  rfl

theorem codeOf_comments {texts : List String} (single : ∀ text ∈ texts, '\n' ∉ text.toList) :
    codeOf (texts.map .comment) = [] := by
  induction texts with
  | nil => rfl
  | cons text texts ih =>
      obtain ⟨here, later⟩ := List.forall_mem_cons.mp single
      rw [List.map_cons, codeOf_cons, codeOf_comment here, ih later]
      rfl

/-! ## Documentation blocks -/

/-- What a row leaves of code, in a block or out of it, and whether a block is open behind it. A row
that closes a block is code when it holds anything else. -/
def readRow : Bool → List Char → List (List Char) × Bool
  | false, row => if row = "/**".toList then ([], true) else ([row], false)
  | true, row =>
    if "*/".toList <:+: row then (if row = "*/".toList then [] else [row], false) else ([], true)

/-- What rows leave of code outside of documentation blocks, and whether one is open in the end. -/
def readRows : Bool → List (List Char) → List (List Char) × Bool
  | inside, [] => ([], inside)
  | inside, row :: rest =>
    let here := readRow inside row
    let later := readRows here.2 rest
    (here.1 ++ later.1, later.2)

/-- The rows of a text outside of documentation blocks. -/
def outsideDocs (text : String) : List (List Char) := (readRows false (textRows text.toList)).1

example : outsideDocs "/**\n * a\n */\nb\n/**\n * c */ d\n" = [['b'], "* c */ d".toList, []] := by
  decide

theorem readRows_append (inside : Bool) (front rest : List (List Char)) :
    readRows inside (front ++ rest) =
      ((readRows inside front).1 ++ (readRows (readRows inside front).2 rest).1,
        (readRows (readRows inside front).2 rest).2) := by
  induction front generalizing inside with
  | nil => rfl
  | cons row front ih =>
      simp only [List.cons_append, readRows, ih, List.append_assoc]

/-- Rows that leave the same code, wherever they stand. -/
def ReadAlike (rows others : List (List Char)) : Prop :=
  ∀ inside, readRows inside rows = readRows inside others

namespace ReadAlike

theorem refl (rows : List (List Char)) : ReadAlike rows rows := fun _ => rfl

theorem append {front others rest further : List (List Char)} (inFront : ReadAlike front others)
    (behind : ReadAlike rest further) : ReadAlike (front ++ rest) (others ++ further) :=
  fun inside => by
  rw [readRows_append, readRows_append, inFront inside, behind]

theorem flatMap {α : Type} {items : List α} {rows others : α → List (List Char)}
    (each : ∀ item ∈ items, ReadAlike (rows item) (others item)) :
    ReadAlike (items.flatMap rows) (items.flatMap others) := by
  induction items with
  | nil => exact refl []
  | cons item items ih =>
      obtain ⟨here, later⟩ := List.forall_mem_cons.mp each
      exact here.append (ih later)

end ReadAlike

/-- Whether a text can stand in a documentation block. -/
def StaysInDocs (text : List Char) : Prop := ¬ "*/".toList <:+: text

instance (text : List Char) : Decidable (StaysInDocs text) :=
  inferInstanceAs (Decidable (¬ "*/".toList <:+: text))

theorem readRows_inside {rows : List (List Char)} (stay : ∀ row ∈ rows, StaysInDocs row) :
    readRows true rows = ([], true) := by
  induction rows with
  | nil => rfl
  | cons row rows ih =>
      obtain ⟨here, later⟩ := List.forall_mem_cons.mp stay
      have skipped : readRow true row = ([], true) := if_neg here
      simp only [readRows, skipped, ih later, List.append_nil]

/-- The lines of a text that stays in a block stay there behind their stars. -/
theorem staysInDocs_of_mem_lines {text line : String} (stays : StaysInDocs text.toList)
    (listed : line ∈ Text.lines text) {row : List Char}
    (member : row ∈ textRows (trimEnd (" * " ++ line)).toList) : StaysInDocs row := by
  obtain ⟨chars, split, rfl⟩ := List.mem_map.mp listed
  have inLine : StaysInDocs chars := fun within =>
    stays (within.trans (infix_of_mem_splitLines split))
  have behindStar : StaysInDocs (" *".toList ++ ' ' :: chars) :=
    not_infix_append_cons (by decide) (by decide) inLine
  have inTrimmed : (trimEnd (" * " ++ String.ofList chars)).toList <:+:
      " *".toList ++ ' ' :: chars := by
    have spelled : (" * " ++ String.ofList chars).toList = " *".toList ++ ' ' :: chars := by
      rw [String.toList_append, String.toList_ofList (l := chars)]
      rfl
    rw [trimEnd, String.toList_ofList, spelled]
    exact (prefix_dropTrailingBlanks _).isInfix
  exact fun within => behindStar ((within.trans (infix_of_mem_textRows member)).trans inTrimmed)

theorem readRows_docBlock {text : String} (stays : StaysInDocs text.toList) (inside : Bool) :
    readRows inside (Fragment.docBlock text).written = ([], false) := by
  have opened : readRows inside ["/**".toList] = ([], true) := by
    cases inside <;> decide
  have closed : readRows true ["*/".toList] = ([], false) := by decide
  have within : readRows true ((Text.lines text).flatMap fun line =>
      textRows (Text.trimEnd (" * " ++ line)).toList) = ([], true) := by
    refine readRows_inside fun row member => ?_
    obtain ⟨line, listed, inLine⟩ := List.mem_flatMap.mp member
    exact staysInDocs_of_mem_lines stays listed inLine
  rw [Fragment.written, ← List.singleton_append, List.append_assoc, readRows_append, opened,
    readRows_append, within, closed]
  rfl

/-- Documentation that stays in its block leaves no code. -/
theorem readAlike_docBlock {text other : String} (stays : StaysInDocs text.toList)
    (otherStays : StaysInDocs other.toList) :
    ReadAlike (Fragment.docBlock text).written (Fragment.docBlock other).written := fun inside => by
  rw [readRows_docBlock stays, readRows_docBlock otherStays]

end RpcSchema.Code
