import RpcSchema.Code.Fragment
import RpcSchema.Code.Mark
import RpcSchema.Code.NameSet
import RpcSchema.Json.Value

/-!
Rust source files.
-/

namespace RpcSchema.RustCode

open Code

structure Param where
  name : String
  /-- Empty for a form of `self`. -/
  type : String := ""

def Param.text (param : Param) : String :=
  if param.type.isEmpty then param.name else param.name ++ ": " ++ param.type

/-- The receiver of a method that borrows its value. -/
def selfParam : Param := { name := "&self" }

/-- The comment above an item, when it has one. -/
def docFragments (doc : Option String) : List Fragment := doc.toList.map .docLines

def attributeFragments (attributes : List String) : List Fragment :=
  attributes.map fun text => .line ("#[" ++ text ++ "]")

structure Func where
  name : String
  doc : Option String := none
  attributes : List String := []
  isPublic : Bool := true
  isAsync : Bool := false
  /-- Whether it has no body while none is given. -/
  isDeclaration : Bool := false
  generics : Option String := none
  params : List Param := []
  returns : Option String := none
  body : List Fragment := []

namespace Func

def signature (func : Func) : String :=
  (if func.isPublic then "pub " else "") ++ (if func.isAsync then "async " else "") ++ "fn " ++
    func.name ++ (func.generics.elim "" fun generics => "<" ++ generics ++ ">") ++
    "(" ++ ", ".intercalate (func.params.map Param.text) ++ ")" ++
    func.returns.elim "" fun returns => " -> " ++ returns

def fragments (func : Func) : List Fragment :=
  docFragments func.doc ++ attributeFragments func.attributes ++
    if func.isDeclaration && func.body.isEmpty then [.line (func.signature ++ ";")]
    else [block (func.signature ++ " \x7b") func.body "\x7d"]

/-- The function without `pub`. -/
def asPrivate (func : Func) : Func := { func with isPublic := false }

end Func

structure Field where
  name : String
  type : String
  doc : Option String := none
  attributes : List String := []
  isPublic : Bool := true

def Field.fragments (field : Field) : List Fragment :=
  docFragments field.doc ++ attributeFragments field.attributes ++
    [.line ((if field.isPublic then "pub " else "") ++ field.name ++ ": " ++ field.type ++ ",")]

structure Struct where
  name : String
  doc : Option String := none
  derives : List String := []
  attributes : List String := []
  fields : List Field := []
  isPublic : Bool := true

def Struct.fragments (struct : Struct) : List Fragment :=
  let header := (if struct.isPublic then "pub " else "") ++ "struct " ++ struct.name
  docFragments struct.doc ++
    (if struct.derives.isEmpty then []
      else [.line ("#[derive(" ++ ", ".intercalate struct.derives ++ ")]")]) ++
    attributeFragments struct.attributes ++
    if struct.fields.isEmpty then [.line (header ++ " \x7b\x7d")]
    else [block (header ++ " \x7b") (struct.fields.flatMap Field.fragments) "\x7d"]

structure Impl where
  type : String
  interface : Option String := none
  methods : List Func := []

def Impl.fragments (impl : Impl) : List Fragment :=
  let header := match impl.interface with
    | some interface => "impl " ++ interface ++ " for " ++ impl.type ++ " \x7b"
    | none => "impl " ++ impl.type ++ " \x7b"
  [block header (spaced (impl.methods.map Func.fragments)) "\x7d"]

/-- A trait; its items take their visibility from it. -/
structure Trait where
  name : String
  doc : Option String := none
  bounds : Option String := none
  items : List Func := []

def Trait.fragments (decl : Trait) : List Fragment :=
  let bounds := decl.bounds.elim "" fun bounds => ": " ++ bounds
  docFragments decl.doc ++
    [block ("pub trait " ++ decl.name ++ bounds ++ " \x7b")
      (spaced (decl.items.map fun item => item.asPrivate.fragments)) "\x7d"]

/-! ## Imports -/

/-- The symbols that a file uses, module by module, both in order. -/
structure Uses where
  modules : List (String × List String) := []

namespace Uses

/-- Uses symbols of a module; with none the module alone is noted. -/
def addAll (uses : Uses) (module : String) (symbols : List String) : Uses :=
  let known := (uses.modules.lookup module).getD []
  ⟨Json.putMember module (insertNames symbols known) uses.modules⟩

def add (uses : Uses) (module symbol : String) : Uses := uses.addAll module [symbol]

def addIf (uses : Uses) (condition : Bool) (module symbol : String) : Uses :=
  if condition then uses.add module symbol else uses

def isEmpty (uses : Uses) : Bool := uses.modules.all fun entry => entry.2.isEmpty

end Uses

/-- Where a module comes from. -/
inductive Origin
  | standard
  | external
  | own
deriving DecidableEq

/-- The part of a module path before its first `::`. -/
def moduleRoot : List Char → List Char
  | [] => []
  | ':' :: ':' :: _ => []
  | c :: rest => c :: moduleRoot rest

def Origin.ofModule (module : String) : Origin :=
  let root := String.ofList (moduleRoot module.toList)
  if ["std", "core", "alloc"].contains root then .standard
  else if ["crate", "self", "super"].contains root then .own
  else .external

def useStatement (module : String) (symbols : List String) : String :=
  match symbols with
  | [symbol] => "use " ++ module ++ "::" ++ symbol ++ ";"
  | symbols => "use " ++ module ++ "::\x7b" ++ ", ".intercalate symbols ++ "\x7d;"

namespace Uses

/-- The statements of the modules of one origin. -/
def statements (uses : Uses) (origin : Origin) : List Fragment :=
  (uses.modules.filter fun entry => !entry.2.isEmpty && Origin.ofModule entry.1 == origin).map
    fun entry => .line (useStatement entry.1 entry.2)

/-- The statements by origin, with a blank line between two origins. -/
def fragments (uses : Uses) : List Fragment :=
  spaced (([Origin.standard, .external, .own].map uses.statements).filter
    fun statements => !statements.isEmpty)

end Uses

/-! ## Files -/

inductive Decl
  | func (func : Func)
  | struct (struct : Struct)
  | impl (impl : Impl)
  | interface (decl : Trait)
  /-- Source that stands as it is. -/
  | raw (source : String)

def Decl.fragments : Decl → List Fragment
  | .func decl => decl.fragments
  | .struct decl => decl.fragments
  | .impl decl => decl.fragments
  | .interface decl => decl.fragments
  | .raw source => rawLines source

structure File where
  /-- Whether the file is meant to be edited, and not marked as generated. -/
  isEditable : Bool := false
  uses : Uses := {}
  decls : List Decl := []

/-- Fragments as Rust source. -/
def source (fragments : List Fragment) : String := write (.spaces 4) fragments

namespace File

def fragments (file : File) : List Fragment :=
  spaced ((if file.isEditable then [] else [[.comment generatedMark]]) ++
    (if file.uses.isEmpty then [] else [file.uses.fragments]) ++
    file.decls.map Decl.fragments)

def text (file : File) : String := source file.fragments

end File

end RpcSchema.RustCode
