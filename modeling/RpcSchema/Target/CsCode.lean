import RpcSchema.Code.Fragment

/-!
C# classes.
-/

namespace RpcSchema.CsCode

open Code Text

/-- A character in XML text. -/
def xmlChar (c : Char) : List Char :=
  match c with
  | '&' => ['&', 'a', 'm', 'p', ';']
  | '<' => ['&', 'l', 't', ';']
  | '>' => ['&', 'g', 't', ';']
  | c => [c]

/-- A text as XML text. -/
def xmlEscape (text : String) : String := String.ofList (text.toList.flatMap xmlChar)

/-- A documentation comment, line for line. -/
def summary (text : String) : List Fragment :=
  .line "/// <summary>" ::
    ((Text.lines text).map fun line => .line (trimEnd ("/// " ++ xmlEscape line))) ++
    [.line "/// </summary>"]

/-- The comment above a member, when it has one. -/
def docFragments (doc : Option String) : List Fragment := doc.elim [] summary

/-- A header and a body whose braces have lines of their own. -/
def braced (header : String) (body : List Fragment) : List Fragment :=
  [.line header, block "\x7b" body "\x7d"]

/-- A property that stands for a member of a JSON object. -/
structure Property where
  name : String
  key : String
  type : String
  doc : Option String := none

def Property.fragments (property : Property) : List Fragment :=
  docFragments property.doc ++
    [.line ("[JsonProperty(\"" ++ property.key ++ "\")]"),
      .line ("public " ++ property.type ++ " " ++ property.name ++ " \x7b get; set; \x7d")]

structure Param where
  name : String
  type : String

structure Method where
  name : String
  doc : Option String := none
  isAsync : Bool := false
  params : List Param := []
  returns : String := "void"
  body : List String := []

namespace Method

def signature (method : Method) : String :=
  "public " ++ (if method.isAsync then "async " else "") ++ method.returns ++ " " ++
    method.name ++ "(" ++
    ", ".intercalate (method.params.map fun param => param.type ++ " " ++ param.name) ++ ")"

def fragments (method : Method) : List Fragment :=
  docFragments method.doc ++ braced method.signature (method.body.map .line)

end Method

mutual
structure ClassDecl where
  name : String
  doc : Option String := none
  base : Option String := none
  members : List Member := []

inductive Member
  | property (property : Property)
  | method (method : Method)
  | nested (decl : ClassDecl)
  /-- Source that stands as it is. -/
  | raw (source : String)
end

instance : Inhabited ClassDecl := ⟨{ name := "" }⟩

instance : Inhabited Member := ⟨.raw ""⟩

/-- The fragments of a class whose members' fragments are given. -/
def classFragments (name : String) (doc base : Option String) (members : List (List Fragment)) :
    List Fragment :=
  docFragments doc ++
    braced ("public class " ++ name ++ base.elim "" fun base => " : " ++ base) (spaced members)

mutual
def ClassDecl.fragments : ClassDecl → List Fragment
  | ⟨name, doc, base, members⟩ => classFragments name doc base (membersFragments members)

def Member.fragments : Member → List Fragment
  | .property decl => decl.fragments
  | .method decl => decl.fragments
  | .nested decl => decl.fragments
  | .raw source => rawLines source

def membersFragments : List Member → List (List Fragment)
  | [] => []
  | member :: rest => member.fragments :: membersFragments rest
end

/-- Fragments as C# source. -/
def source (fragments : List Fragment) : String := write (.spaces 4) fragments

end RpcSchema.CsCode
