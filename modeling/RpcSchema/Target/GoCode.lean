import RpcSchema.Code.Fragment
import RpcSchema.Code.Mark
import RpcSchema.Code.NameSet

/-!
Go source files.
-/

namespace RpcSchema.GoCode

open Code

/-- Import paths: those of the standard library, and those below a domain. -/
structure Imports where
  standard : List String := []
  external : List String := []

namespace Imports

/-- A path belongs to a domain when its first part has a dot. -/
def isExternal (path : String) : Bool :=
  (path.toList.takeWhile (· != '/')).contains '.'

def add (imports : Imports) (path : String) : Imports :=
  if isExternal path then { imports with external := insertName path imports.external }
  else { imports with standard := insertName path imports.standard }

def addIf (imports : Imports) (condition : Bool) (path : String) : Imports :=
  if condition then imports.add path else imports

def paths (imports : Imports) : List String := imports.standard ++ imports.external

def isEmpty (imports : Imports) : Bool := imports.paths.isEmpty

def quotedPath (path : String) : Fragment := .line ("\"" ++ path ++ "\"")

/-- One path on a line of its own, several in a group with a blank line between the two kinds. -/
def fragments (imports : Imports) : List Fragment :=
  match imports.paths with
  | [] => []
  | [path] => [.line ("import \"" ++ path ++ "\"")]
  | _ =>
    let gap :=
      if imports.standard.isEmpty || imports.external.isEmpty then [] else [Fragment.blank]
    [block "import ("
      (imports.standard.map quotedPath ++ gap ++ imports.external.map quotedPath) ")"]

end Imports

/-- The comment above a declaration, when it has one. -/
def docFragments (doc : Option String) : List Fragment := doc.toList.map .comment

structure Field where
  name : String
  type : String
  doc : Option String := none
  /-- Empty when the field has none. -/
  tag : String := ""

def Field.fragments (field : Field) : List Fragment :=
  docFragments field.doc ++
    [.line (field.name ++ " " ++ field.type ++
      if field.tag.isEmpty then "" else " `" ++ field.tag ++ "`")]

structure Struct where
  name : String
  doc : Option String := none
  fields : List Field := []

def Struct.fragments (struct : Struct) : List Fragment :=
  docFragments struct.doc ++
    if struct.fields.isEmpty then [.line ("type " ++ struct.name ++ " struct\x7b\x7d")]
    else
      [block ("type " ++ struct.name ++ " struct \x7b") (spaced (struct.fields.map Field.fragments))
        "\x7d"]

structure Func where
  name : String
  doc : Option String := none
  receiver : Option String := none
  params : List String := []
  returns : Option String := none
  body : List Fragment := []

namespace Func

def signature (func : Func) : String :=
  "func " ++ (func.receiver.elim "" fun receiver => "(" ++ receiver ++ ") ") ++ func.name ++
    "(" ++ ", ".intercalate func.params ++ ")" ++
    (func.returns.elim "" fun returns => " " ++ returns) ++ " \x7b"

def fragments (func : Func) : List Fragment :=
  docFragments func.doc ++ [block func.signature func.body "\x7d"]

end Func

inductive Decl
  | struct (struct : Struct)
  | func (func : Func)
  /-- Source that stands as it is. -/
  | raw (source : String)

def Decl.fragments : Decl → List Fragment
  | .struct decl => decl.fragments
  | .func decl => decl.fragments
  | .raw source => rawLines source

structure File where
  package : String
  imports : Imports := {}
  decls : List Decl := []

namespace File

def fragments (file : File) : List Fragment :=
  [.comment generatedMark, .blank, .line ("package " ++ file.package)] ++
    (if file.imports.isEmpty then [] else .blank :: file.imports.fragments) ++
    file.decls.flatMap fun decl => .blank :: decl.fragments

def text (file : File) : String := write .tab file.fragments

end File

/-- Fragments as Go source. -/
def source (fragments : List Fragment) : String := write .tab fragments

/-- The name under which an imported package is used: the last part of its path. -/
def packageQualifier (path : String) : String :=
  String.ofList (path.toList.reverse.takeWhile (· != '/')).reverse

end RpcSchema.GoCode
