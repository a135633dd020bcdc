import Mathlib.Data.List.Forall2
import Mathlib.Data.List.Induction
import RpcSchema.Proofs.Code.Nesting
import RpcSchema.Target.CsCode

/-!
# Documentation blocks in written code

Documentation behind `///` has a mark on every one of its lines, so it ends where its lines end,
whatever the text. Code with such blocks is compared to the code without them line by line: what
fragments are written as is put together from what their parts are written as, at any level of
nesting.
-/

namespace RpcSchema.Code

open Text

/-! ## Items with blocks between them -/

/-- Items that are the given ones, in order, with blocks put between them. -/
inductive Documented {α : Type} (IsBlock : List α → Prop) : List α → List α → Prop
  | nil : Documented IsBlock [] []
  | keep (item : α) {code items : List α} (behind : Documented IsBlock code items) :
      Documented IsBlock (item :: code) (item :: items)
  | insert {block : List α} (isBlock : IsBlock block) {code items : List α}
      (behind : Documented IsBlock code items) : Documented IsBlock code (block ++ items)

namespace Documented

variable {α : Type} {IsBlock : List α → Prop}

theorem refl (items : List α) : Documented IsBlock items items := by
  induction items with
  | nil => exact nil
  | cons item items ih => exact keep item ih

theorem append {front code items rest : List α} (first : Documented IsBlock front items)
    (second : Documented IsBlock code rest) :
    Documented IsBlock (front ++ code) (items ++ rest) := by
  induction first with
  | nil => exact second
  | keep item _ ih => exact keep item ih
  | @insert block isBlock _ items _ ih =>
      rw [List.append_assoc]
      exact insert isBlock ih

end Documented

/-! ## Lines as they are written -/

/-- What a line is written as, split at its line feeds. -/
def Line.written (indent : Indent) (line : Line) : List (List Char) :=
  (if line.text.isEmpty then [] else indent.margin line.level ++ line.text.toList).splitOn '\n'

/-- What fragments are written as at a level of nesting. -/
def writtenAt (indent : Indent) (level : Nat) (fragments : List Fragment) : List (List Char) :=
  (linesOf level fragments).flatMap (Line.written indent)

theorem splitOn_write (indent : Indent) (fragments : List Fragment) :
    (write indent fragments).toList.splitOn '\n' = writtenAt indent 0 fragments ++ [[]] := by
  rw [write, writeLines, String.toList_ofList, writtenAt]
  induction linesOf 0 fragments with
  | nil => rfl
  | cons line lines ih =>
      have ended : line.chars indent =
          (if line.text.isEmpty then [] else indent.margin line.level ++ line.text.toList) ++
            ['\n'] := by
        rw [Line.chars]
        split <;> rfl
      rw [List.flatMap_cons, ended, List.append_assoc, List.singleton_append, splitOn_append_cons,
        ih, List.flatMap_cons, List.append_assoc, Line.written]

section WrittenAt

variable {indent : Indent}

theorem writtenAt_append (level : Nat) (front rest : List Fragment) :
    writtenAt indent level (front ++ rest) =
      writtenAt indent level front ++ writtenAt indent level rest := by
  rw [writtenAt, linesOf_append, List.flatMap_append, writtenAt, writtenAt]

theorem writtenAt_block (level : Nat) (header : String) (body : List Fragment) (close : String) :
    writtenAt indent level [block header body close] =
      writtenAt indent level [.line header] ++ writtenAt indent (level + 1) body ++
        writtenAt indent level [.line close] := by
  simp [writtenAt, linesOf, Fragment.lines, block]

theorem writtenAt_lines (level : Nat) (rows : List String) :
    writtenAt indent level (rows.map .line) =
      rows.flatMap fun row => Line.written indent ⟨level, row⟩ := by
  induction rows with
  | nil => rfl
  | cons row rows ih =>
      rw [List.flatMap_cons, ← ih]
      rfl

end WrittenAt

/-! ## Code with documentation -/

/-- Fragments that are written as others with blocks put between their lines. -/
def Documents (IsBlock : List (List Char) → Prop) (bare full : List Fragment) : Prop :=
  ∀ level, Documented IsBlock (writtenAt (.spaces 4) level bare)
    (writtenAt (.spaces 4) level full)

namespace Documents

variable {IsBlock : List (List Char) → Prop} {bare full code rest : List Fragment}

theorem refl (fragments : List Fragment) : Documents IsBlock fragments fragments := fun _ =>
  .refl _

theorem append (first : Documents IsBlock bare full) (second : Documents IsBlock code rest) :
    Documents IsBlock (bare ++ code) (full ++ rest) := fun level => by
  rw [writtenAt_append, writtenAt_append]
  exact (first level).append (second level)

theorem block (header close : String) (body : Documents IsBlock bare full) :
    Documents IsBlock [Code.block header bare close] [Code.block header full close] :=
  fun level => by
  rw [writtenAt_block, writtenAt_block]
  exact ((Documented.refl _).append (body (level + 1))).append (.refl _)

theorem flatMap {α : Type} {items : List α} {bare full : α → List Fragment}
    (each : ∀ item ∈ items, Documents IsBlock (bare item) (full item)) :
    Documents IsBlock (items.flatMap bare) (items.flatMap full) := by
  induction items with
  | nil => exact refl []
  | cons item items ih =>
      obtain ⟨here, later⟩ := List.forall_mem_cons.mp each
      rw [List.flatMap_cons, List.flatMap_cons]
      exact here.append (ih later)

theorem spaced {bares fulls : List (List Fragment)}
    (each : List.Forall₂ (Documents IsBlock) bares fulls) :
    Documents IsBlock (spaced bares) (spaced fulls) := by
  induction each with
  | nil => exact refl []
  | cons here others ih =>
      cases others with
      | nil => exact here
      | cons _ _ => exact here.append ((refl [.blank]).append ih)

theorem forall₂_map {α : Type} {items : List α} {bare full : α → List Fragment}
    (each : ∀ item, Documents IsBlock (bare item) (full item)) :
    List.Forall₂ (Documents IsBlock) (items.map bare) (items.map full) := by
  rw [List.forall₂_map_left_iff, List.forall₂_map_right_iff, List.forall₂_same]
  exact fun item _ => each item

/-- The lines of a text are the lines of its code with blocks put between them. -/
theorem documented (documents : Documents IsBlock bare full) :
    Documented IsBlock ((write (.spaces 4) bare).toList.splitOn '\n')
      ((write (.spaces 4) full).toList.splitOn '\n') := by
  rw [splitOn_write, splitOn_write]
  exact (documents 0).append (.refl _)

end Documents

/-! ## Documentation behind slashes -/

/-- Whether a line begins, behind its indentation, with the mark of documentation. -/
def isDocLine (line : List Char) : Bool := "///".toList.isPrefixOf (line.dropWhile (· == ' '))

/-- Lines of documentation. -/
def IsDocBlock (block : List (List Char)) : Prop := ∀ line ∈ block, isDocLine line

/-- A line of documentation behind a margin. -/
def docLine (width : Nat) (text : List Char) : List Char :=
  List.replicate width ' ' ++ "///".toList ++ text

theorem isDocLine_docLine (width : Nat) (text : List Char) : isDocLine (docLine width text) := by
  have margin : ∀ c ∈ List.replicate width ' ', (c == ' ') = true := fun c listed => by
    rw [List.eq_of_mem_replicate listed]
    rfl
  rw [isDocLine, docLine, List.append_assoc, List.dropWhile_append_of_pos margin]
  rfl

theorem margin_spaces (width level : Nat) :
    (Indent.spaces width).margin level = List.replicate (level * width) ' ' := by
  rw [Indent.margin, Indent.unit, List.flatten_replicate_replicate]

/-- A line of documentation is written as one line. -/
theorem written_doc (level : Nat) {text : String} {doc : List Char} (single : '\n' ∉ doc)
    (spelled : text.toList = "///".toList ++ doc) :
    Line.written (.spaces 4) ⟨level, text⟩ = [docLine (level * 4) doc] := by
  have shown : text.isEmpty = false := by
    rw [Bool.eq_false_iff]
    intro empty
    rw [String.isEmpty_iff.mp empty] at spelled
    cases spelled
  have inLine : '\n' ∉ docLine (level * 4) doc :=
    List.not_mem_append (List.not_mem_append
      (fun listed => absurd (List.eq_of_mem_replicate listed) (by decide)) (by decide)) single
  rw [Line.written, if_neg (by rw [shown]; decide), spelled, margin_spaces, ← List.append_assoc,
    ← docLine, List.splitOn_eq_singleton inLine]

theorem toList_trimEnd_doc (text : String) :
    (trimEnd ("/// " ++ text)).toList =
      "///".toList ++ dropTrailingBlanks (' ' :: text.toList) := by
  have slash : isBlank '/' = false := by decide
  rw [trimEnd, String.toList_ofList, String.toList_append]
  change dropTrailingBlanks ('/' :: '/' :: '/' :: ' ' :: text.toList) = _
  rw [dropTrailingBlanks_cons slash, dropTrailingBlanks_cons slash, dropTrailingBlanks_cons slash]
  rfl

theorem feed_not_mem_of_mem_lines {text line : String} (listed : line ∈ Text.lines text) :
    '\n' ∉ ' ' :: line.toList := by
  obtain ⟨chars, split, rfl⟩ := List.mem_map.mp listed
  rw [String.toList_ofList]
  exact List.not_mem_cons_of_ne_of_not_mem (by decide)
    (not_mem_of_mem_splitLines List.not_mem_nil split)

/-- Every line of a text is written behind the mark. -/
theorem writtenAt_docLines (level : Nat) (text : String) :
    writtenAt (.spaces 4) level [.docLines text] =
      (Text.lines text).map fun line =>
        docLine (level * 4) (dropTrailingBlanks (' ' :: line.toList)) := by
  rw [writtenAt, linesOf, linesOf, List.append_nil, Fragment.lines, List.flatMap_map,
    List.map_eq_flatMap]
  refine List.flatMap_congr fun line listed => ?_
  refine written_doc level (fun member => ?_) (toList_trimEnd_doc line)
  exact feed_not_mem_of_mem_lines listed ((prefix_dropTrailingBlanks _).subset member)

/-- Documentation behind slashes is a block of its own. -/
theorem documents_docLines (text : String) : Documents IsDocBlock [] [.docLines text] := by
  intro level
  rw [← List.append_nil (writtenAt (.spaces 4) level [.docLines text])]
  refine .insert (fun line listed => ?_) .nil
  rw [writtenAt_docLines] at listed
  obtain ⟨text, -, rfl⟩ := List.mem_map.mp listed
  exact isDocLine_docLine _ _

/-! ## Summaries -/

/-- Whether a text is character data of XML: it has no angle bracket, and an ampersand only at the
start of an escape. -/
def isXmlText : List Char → Bool
  | [] => true
  | '<' :: _ => false
  | '>' :: _ => false
  | '&' :: rest =>
    ["amp;".toList, "lt;".toList, "gt;".toList].any (·.isPrefixOf rest) && isXmlText rest
  | _ :: rest => isXmlText rest

/-- The lines of a summary: the text between its tags closes none of them. -/
def IsSummary (block : List (List Char)) : Prop :=
  ∃ (width : Nat) (texts : List (List Char)), (∀ text ∈ texts, isXmlText text) ∧
    block = docLine width " <summary>".toList :: texts.map (docLine width) ++
      [docLine width " </summary>".toList]

open CsCode

theorem isXmlText_cons_of_ne {c : Char} (plain : c ≠ '&' ∧ c ≠ '<' ∧ c ≠ '>')
    (rest : List Char) : isXmlText (c :: rest) = isXmlText rest := by
  rw [isXmlText] <;> simp_all

/-- What is escaped is character data, in front of any other. -/
theorem isXmlText_xmlChar (c : Char) {rest : List Char} (isText : isXmlText rest) :
    isXmlText (xmlChar c ++ rest) := by
  unfold xmlChar
  split
  · exact isText
  · exact isText
  · exact isText
  · next noAmpersand noLess noGreater =>
    rwa [List.singleton_append, isXmlText_cons_of_ne ⟨noAmpersand, noLess, noGreater⟩]

theorem isXmlText_flatMap (chars : List Char) : isXmlText (chars.flatMap xmlChar) := by
  induction chars with
  | nil => rfl
  | cons c chars ih => exact isXmlText_xmlChar c ih

/-- A white space is no character to escape. -/
theorem xmlChar_of_isBlank {c : Char} (blank : isBlank c) : xmlChar c = [c] := by
  unfold xmlChar
  split <;> first | rfl | (exact absurd blank (by decide))

/-- What is written for another character does not end with white space. -/
theorem exists_xmlChar_concat {c : Char} (shown : isBlank c = false) :
    ∃ front last, xmlChar c = front ++ [last] ∧ isBlank last = false := by
  unfold xmlChar
  split
  · exact ⟨['&', 'a', 'm', 'p'], ';', rfl, by decide⟩
  · exact ⟨['&', 'l', 't'], ';', rfl, by decide⟩
  · exact ⟨['&', 'g', 't'], ';', rfl, by decide⟩
  · exact ⟨[], c, rfl, shown⟩

theorem dropTrailingBlanks_concat_shown {c : Char} (chars : List Char)
    (shown : isBlank c = false) : dropTrailingBlanks (chars ++ [c]) = chars ++ [c] := by
  rw [dropTrailingBlanks, List.reverse_append, List.reverse_singleton, List.singleton_append,
    dropBlanks_cons shown, List.reverse_cons, List.reverse_reverse]

/-- White space at the end is the same before and after escaping. -/
theorem dropTrailingBlanks_flatMap (chars : List Char) :
    dropTrailingBlanks (chars.flatMap xmlChar) = (dropTrailingBlanks chars).flatMap xmlChar := by
  induction chars using List.reverseRecOn with
  | nil => rfl
  | append_singleton chars c ih =>
      rw [List.flatMap_append, List.flatMap_singleton]
      cases blank : isBlank c with
      | true =>
          rw [xmlChar_of_isBlank blank, dropTrailingBlanks_concat blank,
            dropTrailingBlanks_concat blank, ih]
      | false =>
          obtain ⟨front, last, spelled, shown⟩ := exists_xmlChar_concat blank
          rw [spelled, ← List.append_assoc, dropTrailingBlanks_concat_shown _ shown,
            dropTrailingBlanks_concat_shown _ blank, List.flatMap_append,
            List.flatMap_singleton, spelled, List.append_assoc]

/-- The text of a line of a summary. -/
theorem toList_trimEnd_summary (line : String) :
    (trimEnd ("/// " ++ xmlEscape line)).toList =
      "///".toList ++ (dropTrailingBlanks (' ' :: line.toList)).flatMap xmlChar := by
  have escaped : ' ' :: line.toList.flatMap xmlChar = (' ' :: line.toList).flatMap xmlChar := rfl
  rw [toList_trimEnd_doc, xmlEscape, String.toList_ofList (l := line.toList.flatMap xmlChar),
    escaped, dropTrailingBlanks_flatMap]

/-- Escaping breaks no line. -/
theorem feed_not_mem_flatMap {chars : List Char} (single : '\n' ∉ chars) :
    '\n' ∉ chars.flatMap xmlChar := by
  intro member
  obtain ⟨c, listed, written⟩ := List.mem_flatMap.mp member
  have other : c ≠ '\n' := fun same => single (same ▸ listed)
  revert written
  unfold xmlChar
  split
  · decide
  · decide
  · decide
  · exact fun same => other (List.mem_singleton.mp same).symm

/-- A summary is written as its tags, with the escaped lines of the text between them. -/
theorem writtenAt_summary (level : Nat) (text : String) :
    writtenAt (.spaces 4) level (summary text) =
      docLine (level * 4) " <summary>".toList ::
        ((Text.lines text).map fun line =>
          (dropTrailingBlanks (' ' :: line.toList)).flatMap xmlChar).map (docLine (level * 4)) ++
        [docLine (level * 4) " </summary>".toList] := by
  have asLines : summary text = ("/// <summary>" ::
      ((Text.lines text).map fun line => trimEnd ("/// " ++ xmlEscape line)) ++
        ["/// </summary>"]).map .line := by
    simp [summary]
  have opening : Line.written (.spaces 4) ⟨level, "/// <summary>"⟩ =
      [docLine (level * 4) " <summary>".toList] := written_doc level (by decide) (by decide)
  have closing : Line.written (.spaces 4) ⟨level, "/// </summary>"⟩ =
      [docLine (level * 4) " </summary>".toList] := written_doc level (by decide) (by decide)
  have inside : ∀ line ∈ Text.lines text,
      Line.written (.spaces 4) ⟨level, trimEnd ("/// " ++ xmlEscape line)⟩ =
        [docLine (level * 4) ((dropTrailingBlanks (' ' :: line.toList)).flatMap xmlChar)] := by
    intro line listed
    refine written_doc level (feed_not_mem_flatMap fun member => ?_) (toList_trimEnd_summary line)
    exact feed_not_mem_of_mem_lines listed ((prefix_dropTrailingBlanks _).subset member)
  rw [asLines, writtenAt_lines, List.flatMap_append, List.flatMap_cons, List.flatMap_singleton,
    opening, closing, List.flatMap_map, List.map_map, List.map_eq_flatMap]
  exact congrArg (· ++ _) (congrArg (_ :: ·) (List.flatMap_congr inside))

/-- A summary is a block of its own. -/
theorem documents_summary (text : String) : Documents IsSummary [] (summary text) := by
  intro level
  rw [← List.append_nil (writtenAt (.spaces 4) level (summary text))]
  exact .insert ⟨level * 4, _, List.forall_mem_map.mpr fun line _ => isXmlText_flatMap _,
    writtenAt_summary level text⟩ .nil

end RpcSchema.Code
