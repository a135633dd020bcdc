import RpcSchema.Naming.Acronyms

/-!
Naming conventions: how the names of a schema become identifiers of a target language.
-/

namespace RpcSchema.Naming

/-- How a name is written. -/
inductive NameCase
  | exported
  | member
  | snake
  /-- As it stands in the schema. -/
  | wire
deriving DecidableEq

/-- The mark that makes a reserved word an identifier, and the side it goes to. -/
inductive Escape
  | before (mark : String)
  | after (mark : String)

def Escape.apply : Escape → String → String
  | .before mark, name => mark ++ name
  | .after mark, name => name ++ mark

structure Convention where
  acronyms : Acronyms
  typeCase : NameCase
  fieldCase : NameCase
  methodCase : NameCase
  reserved : List String
  escape : Escape

namespace Convention

def isReserved (convention : Convention) (name : String) : Bool := convention.reserved.contains name

/-- The name, escaped when it is a reserved word. -/
def safeName (convention : Convention) (name : String) : String :=
  if convention.isReserved name then convention.escape.apply name else name

/-- The name in a case, reserved or not. -/
def cased (convention : Convention) (case : NameCase) (name : String) : String :=
  match case with
  | .exported => convention.acronyms.exportedName name
  | .member => convention.acronyms.memberName name
  | .snake => snakeCase name
  | .wire => name

def typeName (convention : Convention) (name : String) : String :=
  convention.safeName (convention.cased convention.typeCase name)

/-- A field that keeps its schema name is a key, not an identifier, and is never escaped. -/
def fieldName (convention : Convention) (name : String) : String :=
  match convention.fieldCase with
  | .wire => name
  | case => convention.safeName (convention.cased case name)

def methodName (convention : Convention) (name : String) : String :=
  convention.safeName (convention.cased convention.methodCase name)

def memberName (convention : Convention) (name : String) : String :=
  convention.safeName (convention.acronyms.memberName name)

/-- The name of the type that holds a method's inputs. -/
def inputType (convention : Convention) (method : String) : String :=
  convention.cased convention.typeCase method ++ "Input"

/-- The name of the type that holds a method's outputs. -/
def outputType (convention : Convention) (method : String) : String :=
  convention.cased convention.typeCase method ++ "Output"

/-! ## Languages -/

def go : Convention where
  acronyms := .standard
  typeCase := .exported
  fieldCase := .exported
  methodCase := .exported
  reserved := [
    "break", "case", "chan", "const", "continue", "default", "defer", "else", "fallthrough",
    "for", "func", "go", "goto", "if", "import", "interface", "map", "package", "range",
    "return", "select", "struct", "switch", "type", "var"]
  escape := .before "_"

def typescript : Convention where
  acronyms := .standard
  typeCase := .exported
  fieldCase := .wire
  methodCase := .member
  reserved := [
    "break", "case", "catch", "class", "const", "continue", "debugger", "default", "delete",
    "do", "else", "enum", "export", "extends", "false", "finally", "for", "function", "if",
    "import", "in", "instanceof", "let", "new", "null", "return", "super", "switch", "this",
    "throw", "true", "try", "typeof", "var", "void", "while", "with", "yield", "any", "as",
    "boolean", "declare", "implements", "interface", "module", "namespace", "never", "number",
    "object", "package", "private", "protected", "public", "readonly", "string", "symbol",
    "type", "undefined", "unknown"]
  escape := .before "_"

def rust : Convention where
  acronyms := .plain
  typeCase := .exported
  fieldCase := .snake
  methodCase := .snake
  reserved := [
    "as", "async", "await", "break", "const", "continue", "crate", "dyn", "else", "enum",
    "extern", "false", "fn", "for", "if", "impl", "in", "let", "loop", "match", "mod", "move",
    "mut", "pub", "ref", "return", "self", "Self", "static", "struct", "super", "trait", "true",
    "type", "unsafe", "use", "where", "while", "abstract", "become", "box", "do", "final",
    "macro", "override", "priv", "try", "typeof", "unsized", "virtual", "yield"]
  escape := .before "r#"

def csharp : Convention where
  acronyms := .standard
  typeCase := .exported
  fieldCase := .exported
  methodCase := .exported
  reserved := [
    "abstract", "as", "base", "bool", "break", "byte", "case", "catch", "char", "checked",
    "class", "const", "continue", "decimal", "default", "delegate", "do", "double", "else",
    "enum", "event", "explicit", "extern", "false", "finally", "fixed", "float", "for",
    "foreach", "goto", "if", "implicit", "in", "int", "interface", "internal", "is", "lock",
    "long", "namespace", "new", "null", "object", "operator", "out", "override", "params",
    "private", "protected", "public", "readonly", "ref", "return", "sbyte", "sealed", "short",
    "sizeof", "stackalloc", "static", "string", "struct", "switch", "this", "throw", "true",
    "try", "typeof", "uint", "ulong", "unchecked", "unsafe", "ushort", "using", "virtual",
    "void", "volatile", "while"]
  escape := .before "@"

end Convention

end RpcSchema.Naming
