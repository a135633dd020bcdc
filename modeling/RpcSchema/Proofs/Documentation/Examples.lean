import RpcSchema.Proofs.Documentation.Sections
import RpcSchema.Proofs.Json.PrintedLines
import RpcSchema.Proofs.Schema.Examples

/-!
# Examples in the documentation

The example values of what is documented stand in fenced blocks, and nothing else does. A block is
written line by line, so that the lines between its fences are those of the printed value: none of
them is a fence, and together they are read as the value.
-/

namespace RpcSchema

open Code Json MarkdownPage Text

namespace MarkdownPage

/-! ## Values on pages -/

def Element.value? : Element → Option Value
  | .json value => some value
  | _ => none

/-- The values in the fenced blocks of a page. -/
def valuesOn (page : List Element) : List Value := partsOf Element.value? page

theorem mem_valuesOn {page : List Element} {value : Value} :
    value ∈ valuesOn page ↔ .json value ∈ page := by
  have isBlock : ∀ element : Element, element.value? = some value ↔ element = .json value := by
    intro element
    cases element <;> simp [Element.value?]
  simp [valuesOn, partsOf, isBlock]

@[simp] theorem values_heading (level : Nat) (title : String) :
    partsOf Element.value? (heading level title) = [] := rfl

@[simp] theorem values_paragraph (text : String) :
    partsOf Element.value? (paragraph text) = [] := by
  rw [paragraph]
  split <;> rfl

@[simp] theorem values_fieldTable (links : TypeLinks) (fields : List Field) :
    partsOf Element.value? (fieldTable links fields) = [] := by
  simp [fieldTable, Element.value?]

@[simp] theorem values_frontMatter (title slug teaser : String) :
    partsOf Element.value? (frontMatter title slug teaser) = [] := rfl

@[simp] theorem values_typeExamples (level : Nat) (examples : List TypeExample) :
    partsOf Element.value? (typeExamples level examples) = examples.map TypeExample.value := by
  rw [typeExamples]
  split
  · next none => rw [List.isEmpty_iff.mp none]; rfl
  · simp [Element.value?, ← List.map_eq_flatMap]

@[simp] theorem values_optionalJson (value : Option Value) :
    partsOf Element.value? (optionalJson value) = value.toList := by
  cases value <;> rfl

@[simp] theorem values_methodExample (level : Nat) (sample : MethodExample) :
    partsOf Element.value? (methodExample level sample) = sample.values := by
  rw [methodExample, MethodExample.values]
  split <;> simp [Element.value?]

@[simp] theorem values_methodExamples (level : Nat) (examples : List MethodExample) :
    partsOf Element.value? (methodExamples level examples) =
      examples.flatMap MethodExample.values := by
  unfold methodExamples
  split <;> simp

end MarkdownPage

namespace MarkdownDocs

@[simp] theorem values_typeBody (links : TypeLinks) (level : Nat) (type : TypeDecl) :
    partsOf Element.value? (typeBody links level type) = type.exampleValues := by
  rw [typeBody, TypeDecl.exampleValues]
  split <;> split <;> simp

@[simp] theorem values_methodBody (links : TypeLinks) (level : Nat) (method : Method) :
    partsOf Element.value? (methodBody links level method) = method.exampleValues := by
  rw [methodBody, Method.exampleValues]
  split <;> split <;> split <;> simp [Element.value?]

@[simp] theorem values_methodSection (title description : String) (methods : List Method) :
    partsOf Element.value? (methodSection title description methods) =
      methods.flatMap Method.exampleValues := by
  simp [methodSection, Element.value?]

variable {schema : Schema}

/-- The example values of what is documented. -/
def exampleValues (config : MarkdownDocs) (schema : Schema) : List Value :=
  (config.types schema).flatMap TypeDecl.exampleValues ++
    (config.methods schema).flatMap Method.exampleValues

theorem valuesOn_singleTypesPage (config : MarkdownDocs) (schema : Schema) :
    valuesOn (config.singleTypesPage schema) =
      (config.types schema).flatMap TypeDecl.exampleValues := by
  simp [valuesOn, singleTypesPage, typeSection, Element.value?]

theorem valuesOn_singleMethodsPage (config : MarkdownDocs) (schema : Schema) :
    valuesOn (config.singleMethodsPage schema) =
      ((config.sections schema).flatMap Prod.snd).flatMap Method.exampleValues := by
  rw [singleMethodsPage_eq, valuesOn]
  simp [List.flatMap_assoc]

theorem valuesOn_perFile (config : MarkdownDocs) (schema : Schema) :
    (config.perFile schema).flatMap (fun page => valuesOn page.2) =
      config.exampleValues schema := by
  have typeIndexes (types : List TypeDecl) : valuesOn (typeIndex types) = [] := by
    simp [valuesOn, typeIndex, Element.value?]
  have methodIndexes (groups : List (Group × List Method)) :
      valuesOn (methodIndex groups) = [] := by
    simp [valuesOn, methodIndex, Element.value?]
  have typePages (type : TypeDecl) : valuesOn (typePage type) = type.exampleValues := by
    simp [valuesOn, typePage]
  have methodPages (method : Method) : valuesOn (methodPage method) = method.exampleValues := by
    simp [valuesOn, methodPage]
  simp only [perFile, exampleValues, List.flatMap_append, List.flatMap_map, List.flatMap_singleton,
    typeIndexes, methodIndexes, typePages, methodPages, List.nil_append, List.append_nil]

/-- In either layout the blocks show the example values of what is documented. -/
theorem exists_mem_pages_iff {config : MarkdownDocs} {value : Value} :
    (∃ page ∈ config.pages schema, .json value ∈ page.2) ↔
      value ∈ config.exampleValues schema := by
  simp only [← mem_valuesOn]
  rw [← List.mem_flatMap, pages]
  cases config.layout with
  | perFile => rw [valuesOn_perFile]
  | singlePage =>
      have sameMethods : value ∈ valuesOn (config.singleMethodsPage schema) ↔
          value ∈ (config.methods schema).flatMap Method.exampleValues := by
        rw [valuesOn_singleMethodsPage]
        simp only [List.mem_flatMap (b := value), mem_flatMap_sections]
      simp only [singlePage, List.flatMap_cons, List.flatMap_nil, List.append_nil,
        List.mem_append, valuesOn_singleTypesPage, sameMethods, exampleValues]

/-- What is documented of a schema with readable examples is readable. -/
theorem isReadable_of_mem {config : MarkdownDocs} (examples : schema.HasReadableExamples)
    {value : Value} (listed : value ∈ config.exampleValues schema) : value.IsReadable := by
  rcases List.mem_append.mp listed with inTypes | inMethods
  · obtain ⟨type, shown, inside⟩ := List.mem_flatMap.mp inTypes
    obtain ⟨⟨entry, declared, rfl⟩, -⟩ := mem_types.mp shown
    exact examples.types entry declared value inside
  · obtain ⟨method, shown, inside⟩ := List.mem_flatMap.mp inMethods
    exact examples.methods method (mem_methods.mp shown).1 value inside

end MarkdownDocs

/-! ## Lines of pages -/

namespace MarkdownPage

/-- The lines of a text that line feeds end. -/
def endedLines (text : String) : List (List Char) := (text.toList.splitOn '\n').dropLast

theorem splitOn_text_append (front rest : List Element) :
    (text (front ++ rest)).toList.splitOn '\n' =
      endedLines (text front) ++ (text rest).toList.splitOn '\n' := by
  rw [endedLines, text, List.flatMap_append, toList_write_append, ← text, ← text]
  rcases write_eq_nil_or_concat (.spaces 2) (front.flatMap Element.fragments) with
    none | ⟨begun, ends⟩
  · rw [← text] at none
    rw [none]
    rfl
  · have last : [].splitOn '\n' = [[]] := rfl
    rw [← text] at ends
    rw [ends, List.append_assoc, List.singleton_append, splitOn_append_cons, splitOn_append_cons,
      last, List.dropLast_concat]

/-- A line that can end a fenced block: behind its margin it opens with three backticks. -/
def isFence (line : List Char) : Bool := "```".toList.isPrefixOf (line.dropWhile (· == ' '))

/-- The text whose lines are given. -/
def joined (lines : List (List Char)) : String := .ofList (['\n'].intercalate lines)

/-- The lines of a page with a block between other elements. Only the last one of the block's own
lines ends it. -/
structure IsFenced (before after : List Element) (lines inner : List (List Char)) : Prop where
  lines_eq : lines = endedLines (text before) ++ ("```json".toList :: inner ++
    "```".toList :: [] :: (text after).toList.splitOn '\n')
  open_until : ∀ line ∈ inner, isFence line = false

/-- The lines of a printed value. -/
def printedLines (value : Value) : List (List Char) := (value.spreadChars 0).splitOn '\n'

theorem joined_printedLines (value : Value) : joined (printedLines value) = value.pretty := by
  rw [joined, printedLines, List.intercalate_splitOn, Value.pretty]

/-- A block is written as its opening line, the lines of the value, and the line that ends it. -/
theorem toList_text_block {value : Value} (words : value.HasWords) :
    (text [.json value]).toList =
      ("```json".toList :: printedLines value ++ ["```".toList, []]).flatMap (· ++ ['\n']) := by
  have asRows : text [.json value] =
      write (.spaces 2) (("```json" :: Text.lines value.pretty ++ ["```", ""]).map .line) := by
    rw [text, List.flatMap_singleton, write, write, Element.fragments, rawLines]
    simp only [List.map_append, List.map_cons, List.map_nil, List.cons_append, linesOf_append,
      linesOf, Fragment.lines]
  have rows : Text.lines value.pretty = (printedLines value).map .ofList := by
    rw [Text.lines, Value.pretty, String.toList_ofList, splitLines_spreadChars words, printedLines]
  rw [asRows, toList_write_lines, rows]
  simp [List.flatMap_map]

theorem splitOn_text_block {value : Value} (words : value.HasWords) (after : List Element) :
    (text (.json value :: after)).toList.splitOn '\n' =
      "```json".toList :: printedLines value ++
        "```".toList :: [] :: (text after).toList.splitOn '\n' := by
  have single :
      ∀ row ∈ "```json".toList :: printedLines value ++ ["```".toList, []], '\n' ∉ row := by
    rw [List.cons_append, List.forall_mem_cons, List.forall_mem_append]
    exact ⟨by decide, fun line listed => not_mem_of_mem_splitOn listed, by decide⟩
  rw [← List.singleton_append, text, List.flatMap_append, toList_write_append, ← text, ← text,
    toList_text_block words, splitOn_rows single]
  simp

/-- No line of a printed value is a fence. -/
theorem isFence_of_mem_printedLines {value : Value} (words : value.HasWords) {line : List Char}
    (listed : line ∈ printedLines value) : isFence line = false := by
  obtain ⟨state, scanned⟩ :=
    exists_foldlM_of_mem_splitOn (settled_spreadChars words 0 true) listed
  have opens := head?_ne_backtick scanned
  rw [isFence]
  cases behind : line.dropWhile (· == ' ') with
  | nil => rfl
  | cons c rest =>
      rw [behind, List.head?_cons, ne_eq, Option.some.injEq] at opens
      rw [Bool.eq_false_iff]
      intro fence
      obtain ⟨more, same⟩ := List.isPrefixOf_iff_prefix.mp fence
      exact opens (List.cons.inj same).1.symm

theorem isFenced {value : Value} (words : value.HasWords) (before after : List Element) :
    IsFenced before after ((text (before ++ .json value :: after)).toList.splitOn '\n')
      (printedLines value) where
  lines_eq := by rw [splitOn_text_append, splitOn_text_block words]
  open_until _ listed := isFence_of_mem_printedLines words listed

end MarkdownPage

/-! ## Blocks of example values -/

/-- The documentation has a fenced block for every example value of what it documents, and for no
other. A block is ended by its last line and by none before, and its lines are read as the value.
When the schema was loaded, the value is also what reading them as a document gives. -/
theorem examples_fenced (config : MarkdownDocs) (schema : Schema) {value : Value}
    (words : value.HasWords) :
    ((∃ page ∈ config.pages schema, .json value ∈ page.2) ↔
        value ∈ config.exampleValues schema) ∧
      ∀ page ∈ config.pages schema, ∀ before after, page.2 = before ++ .json value :: after →
        { path := page.1, content := MarkdownPage.text page.2 } ∈ config.emit schema ∧
          ∃ inner, IsFenced before after ((MarkdownPage.text page.2).toList.splitOn '\n') inner ∧
            (Document.ofText (joined inner)).asWritten? = some value ∧
              ∀ source, load source = .ok schema → Value.ofText (joined inner) = .ok value := by
  refine ⟨MarkdownDocs.exists_mem_pages_iff, fun page listed before after spelled => ?_⟩
  refine ⟨List.mem_map.mpr ⟨page, listed, rfl⟩, printedLines value, ?_, ?_, ?_⟩
  · rw [spelled]
    exact isFenced words before after
  · have noGap : ([] : List Char).all isGap := rfl
    have read := (readsAs_spreadChars words 0).asWritten?_ofText noGap
    rwa [List.append_nil, ← Value.pretty, ← joined_printedLines] at read
  · intro source loaded
    have shown : .json value ∈ page.2 := spelled ▸ List.mem_append_right _ List.mem_cons_self
    have isExample := MarkdownDocs.exists_mem_pages_iff.mp ⟨page, listed, shown⟩
    rw [joined_printedLines]
    exact (MarkdownDocs.isReadable_of_mem (hasReadableExamples_of_load loaded)
      isExample).ofText_pretty words

/-- A type whose example has a fence in a string. -/
def gate : Schema :=
  { name := "k"
    version := ""
    types := [
      ("post", { name := "post", examples := [{ value := .array [.string "```\n```"] }] })] }

def gateText : String :=
  "\x7b\"name\":\"k\",\"version\":\"\",\"description\":\"\",\"groups\":[],\"methods\":[]," ++
    "\"types\":\x7b\"post\":\x7b\"examples\":[\x7b\"value\":[\"```\\n```\"]\x7d]\x7d\x7d\x7d"

theorem examples_fenced_gate :
    load gateText = .ok gate ∧ ∀ layout, ∃ page ∈ (⟨layout, false⟩ : MarkdownDocs).pages gate,
      ∃ before after inner,
        IsFenced before after ((MarkdownPage.text page.2).toList.splitOn '\n') inner ∧
          Value.ofText (joined inner) = .ok (.array [.string "```\n```"]) := by
  have loads : load gateText = .ok gate :=
    load_of_canonical ⟨by decide, by decide, by decide, by decide, by decide, by decide⟩
      (.append .literal .literal) (by decide +kernel) (eq_ok_of_toOption (by decide +kernel))
  have words : (Value.array [.string "```\n```"]).HasWords :=
    .array (List.forall_mem_singleton.mpr (.string _))
  refine ⟨loads, fun layout => ?_⟩
  have fenced := examples_fenced ⟨layout, false⟩ gate words
  obtain ⟨page, listed, shown⟩ := fenced.1.mpr (List.mem_singleton.mpr rfl)
  obtain ⟨before, after, spelled⟩ := List.append_of_mem shown
  obtain ⟨-, inner, isFenced, -, readBack⟩ := fenced.2 page listed before after spelled
  exact ⟨page, listed, before, after, inner, isFenced, readBack gateText loads⟩

end RpcSchema
