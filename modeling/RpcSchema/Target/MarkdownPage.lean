import RpcSchema.Code.Fragment
import RpcSchema.Json.Printer
import RpcSchema.Naming.Acronyms
import RpcSchema.Schema.Basic
import RpcSchema.Schema.Describe

/-!
Markdown pages.
-/

namespace RpcSchema.MarkdownPage

open Code Naming Text

structure Link where
  text : String
  target : String
deriving DecidableEq

def Link.markup (link : Link) : String := "[" ++ link.text ++ "](" ++ link.target ++ ")"

/-- The type of a single value in a table. -/
inductive TypeCell
  | kind (kind : Kind)
  | declared (link : Link)
deriving DecidableEq

/-- The type of a field in a table. -/
inductive FieldCell
  | one (type : TypeCell)
  | many (element : TypeCell)
deriving DecidableEq

/-- A part of a page. -/
inductive Element
  | line (text : String)
  | blank
  /-- An anchor that stays when the heading below it changes. -/
  | anchor (id : String)
  /-- An item of an index. -/
  | item (link : Link) (description : String)
  | tableHead (cells : List String)
  | methodRow (link : Link) (description : String)
  | fieldRow (name : String) (type : FieldCell) (description : String)
  /-- A value in a fenced block. -/
  | json (value : Json.Value)

def TypeCell.markup : TypeCell → String
  | .kind k => "__" ++ k.name ++ "__"
  | .declared link => link.markup

def FieldCell.markup : FieldCell → String
  | .one type => type.markup
  | .many element => "__array__ of " ++ element.markup

def Element.fragments : Element → List Fragment
  | .line text => [.line text]
  | .blank => [.blank]
  | .anchor id => [.line ("<a id=\"" ++ id ++ "\"></a>")]
  | .item link description =>
    [.line ("  - " ++ link.markup ++
      if description.isEmpty then "" else " — " ++ description)]
  | .tableHead cells =>
    [.line (" | ".intercalate (cells.map fun cell => "__" ++ cell ++ "__")),
      .line (" | ".intercalate (cells.map fun _ => "---"))]
  | .methodRow link description => [.line (trimEnd (link.markup ++ " | " ++ description))]
  | .fieldRow name type description =>
    [.line (trimEnd ("`" ++ name ++ "` | " ++ type.markup ++ " | " ++ description))]
  | .json value => .line "```json" :: rawLines value.pretty ++ [.line "```", .blank]

/-- A page as text. -/
def text (page : List Element) : String :=
  write (.spaces 2) (page.flatMap Element.fragments)

/-- Where links to types point. -/
inductive TypeLinks
  /-- To a file for each type. -/
  | files
  /-- To anchors on one page. -/
  | anchors
deriving DecidableEq

/-- The name under which a type is documented. -/
def docName (name : String) : String := Acronyms.standard.exportedName name

/-- The link to the documentation of a type. -/
def typeLink (links : TypeLinks) (target : TypeRef) : Link :=
  let name := docName target.name
  match links with
  | .files => ⟨name, "../types/" ++ name ++ ".md"⟩
  | .anchors => ⟨name, "types.md#" ++ anchorName name⟩

def typeCell (links : TypeLinks) : FieldType → TypeCell
  | .primitive kind => .kind kind
  | .reference target => .declared (typeLink links target)

def fieldCell (links : TypeLinks) (field : Field) : FieldCell :=
  match field.type, field.items with
  | .primitive .array, some element => .many (typeCell links element)
  | type, _ => .one (typeCell links type)

/-- A table of fields. -/
def fieldTable (links : TypeLinks) (fields : List Field) : List Element :=
  .tableHead ["Name", "Type", "Description"] ::
    (fields.map fun field =>
      .fieldRow field.name (fieldCell links field)
        (trimStart (capitalize field.description ++ field.extra))) ++ [.blank]

/-- A heading of a level. -/
def heading (level : Nat) (title : String) : List Element :=
  [.line (String.ofList (List.replicate level '#') ++ " " ++ title), .blank]

/-- A line of its own, when there is one. -/
def paragraph (text : String) : List Element :=
  if text.isEmpty then [] else [.line text, .blank]

def typeExamples (level : Nat) (examples : List TypeExample) : List Element :=
  if examples.isEmpty then []
  else heading level "Examples" ++ examples.flatMap fun sample =>
    paragraph sample.description ++ [.json sample.value]

/-- A value, or that there is none. -/
def optionalJson : Option Json.Value → List Element
  | some value => [.json value]
  | none => [.line "  None.", .blank]

def methodExample (level : Nat) (sample : MethodExample) : List Element :=
  (if sample.name.isEmpty then [] else heading (level + 1) sample.name) ++
    paragraph sample.description ++
    [.line "Input:", .blank] ++ optionalJson sample.input ++
    [.line "Output:", .blank] ++ optionalJson sample.output

def methodExamples (level : Nat) (examples : List MethodExample) : List Element :=
  match examples with
  | [] => []
  | [sample] => heading level "Example" ++ methodExample level sample
  | samples => heading level "Examples" ++ samples.flatMap (methodExample level)

/-- What opens a page of a site. -/
def frontMatter (title slug teaser : String) : List Element :=
  [.line "---", .line ("title: " ++ title), .line ("slug: " ++ slug),
    .line ("teaser: " ++ teaser), .line "---", .blank]

end RpcSchema.MarkdownPage
