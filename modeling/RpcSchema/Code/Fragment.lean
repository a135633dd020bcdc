import RpcSchema.Text.Blank
import RpcSchema.Text.Lines

/-!
Pieces of source code, and the lines they stand for.

A fragment says what belongs together and what is nested; only when its lines are written does a
nesting level become white space.
-/

namespace RpcSchema.Code

open Text

inductive Fragment
  | line (text : String)
  | blank
  /-- A header, a body one level deeper, and a closing line when there is one. -/
  | block (header : String) (body : List Fragment) (close : Option String)
  /-- A body one level deeper. -/
  | indent (body : List Fragment)
  /-- A comment behind `//`. -/
  | comment (text : String)
  /-- A documentation comment between `/**` and `*/`. -/
  | docBlock (text : String)
  /-- A documentation comment whose lines are behind `///`. -/
  | docLines (text : String)
deriving Inhabited

/-- A line at a nesting level. -/
structure Line where
  level : Nat
  text : String
deriving DecidableEq

mutual
/-- The lines of a fragment at a nesting level. -/
def Fragment.lines (level : Nat) : Fragment → List Line
  | .line text => [⟨level, text⟩]
  | .blank => [⟨level, ""⟩]
  | .block header body close =>
    ⟨level, header⟩ :: linesOf (level + 1) body ++
      close.toList.map (Line.mk level)
  | .indent body => linesOf (level + 1) body
  | .comment text => [⟨level, "// " ++ text⟩]
  | .docBlock text =>
    ⟨level, "/**"⟩ ::
      ((Text.lines text).map fun line => ⟨level, trimEnd (" * " ++ line)⟩) ++ [⟨level, " */"⟩]
  | .docLines text =>
    (Text.lines text).map fun line => ⟨level, trimEnd ("/// " ++ line)⟩

def linesOf (level : Nat) : List Fragment → List Line
  | [] => []
  | fragment :: rest => fragment.lines level ++ linesOf level rest
end

/-- Each line of a text as a fragment. -/
def rawLines (text : String) : List Fragment := (Text.lines text).map .line

/-- A block that is closed. -/
def block (header : String) (body : List Fragment) (close : String) : Fragment :=
  .block header body (some close)

/-- Fragments with a blank line between them. -/
def spaced : List (List Fragment) → List Fragment
  | [] => []
  | [part] => part
  | part :: rest => part ++ .blank :: spaced rest

/-! ## Writing lines -/

/-- The white space of one nesting level. -/
inductive Indent
  | spaces (width : Nat)
  | tab
deriving DecidableEq

namespace Indent

def unit : Indent → List Char
  | .spaces width => List.replicate width ' '
  | .tab => ['\t']

/-- The white space of a nesting level. -/
def margin (indent : Indent) (level : Nat) : List Char :=
  (List.replicate level indent.unit).flatten

end Indent

/-- A line as text; an empty one has no margin. -/
def Line.chars (indent : Indent) (line : Line) : List Char :=
  if line.text.isEmpty then ['\n']
  else indent.margin line.level ++ line.text.toList ++ ['\n']

/-- Lines as text. -/
def writeLines (indent : Indent) (lines : List Line) : String :=
  String.ofList (lines.flatMap (Line.chars indent))

/-- Fragments as text, from the outermost level on. -/
def write (indent : Indent) (fragments : List Fragment) : String :=
  writeLines indent (linesOf 0 fragments)

end RpcSchema.Code
