import RpcSchema.Code.Fragment
import RpcSchema.Code.Mark
import RpcSchema.Text.Alphanumeric

/-!
TypeScript source files.
-/

namespace RpcSchema.TsCode

open Code Text

def isKeyStart (c : Char) : Bool := isAsciiLower c || isAsciiUpper c || c == '_' || c == '$'

/-- Whether a text can stand as a property name without quotes. -/
def isPlainKey (text : String) : Bool :=
  match text.toList with
  | [] => false
  | c :: rest => isKeyStart c && rest.all fun c => isKeyStart c || isAsciiDigit c

/-- A property name as it is declared. -/
def propertyKey (name : String) : String :=
  if isPlainKey name then name else "\"" ++ name ++ "\""

/-- A property name as it follows a value. -/
def memberAccess (name : String) : String :=
  if isPlainKey name then "." ++ name else "[" ++ propertyKey name ++ "]"

structure Param where
  name : String
  type : String
  isOptional : Bool := false

def Param.text (param : Param) : String :=
  param.name ++ (if param.isOptional then "?" else "") ++ ": " ++ param.type

/-- A function, or a method of a class. -/
structure Func where
  name : String
  isMethod : Bool := false
  doc : Option String := none
  isExported : Bool := false
  isAsync : Bool := false
  params : List Param := []
  returns : Option String := none
  body : List String := []

namespace Func

def signature (func : Func) : String :=
  (if func.isExported && !func.isMethod then "export " else "") ++
    (if func.isAsync then "async " else "") ++
    (if func.isMethod then "" else "function ") ++ func.name ++
    "(" ++ ", ".intercalate (func.params.map Param.text) ++ ")" ++
    (func.returns.elim "" fun returns => ": " ++ returns) ++ " \x7b"

def fragments (func : Func) : List Fragment :=
  func.doc.toList.map .docBlock ++ [block func.signature (func.body.map .line) "\x7d"]

end Func

structure InterfaceField where
  name : String
  type : String
  doc : Option String := none
  isOptional : Bool := false

def InterfaceField.fragments (field : InterfaceField) : List Fragment :=
  field.doc.toList.map .comment ++
    [.line (propertyKey field.name ++ (if field.isOptional then "?" else "") ++ ": " ++
      field.type ++ ";")]

structure Interface where
  name : String
  doc : Option String := none
  fields : List InterfaceField := []

def Interface.fragments (interface : Interface) : List Fragment :=
  interface.doc.toList.map .comment ++
    if interface.fields.isEmpty then
      [.line ("export interface " ++ interface.name ++ " \x7b\x7d")]
    else
      [block ("export interface " ++ interface.name ++ " \x7b")
        (spaced (interface.fields.map InterfaceField.fragments)) "\x7d"]

structure Import where
  source : String
  /-- The name for what the source exports by default. -/
  whole : Option String := none
  named : List String := []
  typeOnly : Bool := false

namespace Import

def names (imported : Import) : String := "\x7b " ++ ", ".intercalate imported.named ++ " \x7d"

def statement (imported : Import) : String :=
  let start := "import " ++ if imported.typeOnly then "type " else ""
  let source := "\"" ++ imported.source ++ "\";"
  match imported.whole with
  | some whole =>
    if imported.named.isEmpty then start ++ whole ++ " from " ++ source
    else start ++ whole ++ ", " ++ imported.names ++ " from " ++ source
  | none =>
    if imported.named.isEmpty then "import " ++ source
    else start ++ imported.names ++ " from " ++ source

end Import

inductive Decl
  | func (func : Func)
  | interface (interface : Interface)
  /-- Source that stands as it is. -/
  | raw (source : String)

def Decl.fragments : Decl → List Fragment
  | .func decl => decl.fragments
  | .interface decl => decl.fragments
  | .raw source => rawLines source

structure File where
  imports : List Import := []
  decls : List Decl := []

/-- Fragments as TypeScript source. -/
def source (fragments : List Fragment) : String := write (.spaces 2) fragments

namespace File

def fragments (file : File) : List Fragment :=
  .comment generatedMark ::
    (if file.imports.isEmpty then []
      else .blank :: file.imports.map fun imported => .line imported.statement) ++
    file.decls.flatMap fun decl => .blank :: decl.fragments

def text (file : File) : String := source file.fragments

end File

end RpcSchema.TsCode
