import RpcSchema.Json.Printer
import RpcSchema.Schema.Field
import RpcSchema.Text.Alphanumeric

/-!
The form that the JSON document of a schema has to have, and every way a value departs from it.
-/

namespace RpcSchema

open Json Text

/-- What a text has to look like. -/
inductive TextRule
  | any
  | nonempty
  /-- An ASCII letter, then letters, digits and underscores. -/
  | identifier
  /-- The root of type references and something behind it. -/
  | reference
  /-- The name of a kind. -/
  | kind
deriving DecidableEq

def isIdentifierStart (c : Char) : Bool := isAsciiLower c || isAsciiUpper c

def isIdentifierPart (c : Char) : Bool := isIdentifierStart c || isAsciiDigit c || c == '_'

/-- Whether a text is an identifier. -/
def isIdentifier (text : String) : Bool :=
  match text.toList with
  | [] => false
  | c :: rest => isIdentifierStart c && rest.all isIdentifierPart

/-- Whether a text starts with the root of type references and goes on behind it on that line. -/
def isTypeReference (text : String) : Bool :=
  TypeRef.root.toList.isPrefixOf text.toList &&
    match text.toList.drop TypeRef.root.length with
    | [] => false
    | c :: _ => c != '\n'

def TextRule.holds (rule : TextRule) (text : String) : Bool :=
  match rule with
  | .any => true
  | .nonempty => !text.isEmpty
  | .identifier => isIdentifier text
  | .reference => isTypeReference text
  | .kind => (Kind.ofName? text).isSome

/-- The form of a value. -/
inductive Shape
  | any
  | boolean
  | text (rule : TextRule)
  | list (item : Shape)
  /-- An object whose members have one form, whatever their keys. -/
  | map (member : Shape)
  /-- An object with known members only, given in the order of their keys. -/
  | record (required : List String) (members : List (String × Shape))
  /-- A value of one of several forms. -/
  | choice (forms : List Shape)

/-- A step from a value to a part of it. -/
inductive Step
  | key (name : String)
  | index (n : Nat)
deriving DecidableEq

/-- A way to depart from a form. -/
inductive Issue
  | wrongKind (value : Value) (expected : String)
  | missing (key : String)
  | unexpected (first : String) (others : List String)
  | tooShort (value : Value)
  | mismatch (value : Value) (pattern : String)
  | noForm (value : Value)

/-- An issue and the path to where it is. -/
structure Violation where
  path : List Step
  issue : Issue

/-- The issues of a text under a rule. -/
def TextRule.issues (rule : TextRule) (text : String) : List Issue :=
  if rule.holds text then []
  else match rule with
    | .any => []
    | .nonempty => [.tooShort (.string text)]
    | .identifier => [.mismatch (.string text) "^[A-Za-z][A-Za-z0-9_]*$"]
    | .reference => [.mismatch (.string text) "^#/types/.+"]
    | .kind => [.noForm (.string text)]

/-- The violations of a list's items, the path given for each. -/
def violationsByIndex (check : List Step → Value → List Violation) (path : List Step) :
    Nat → List Value → List Violation
  | _, [] => []
  | n, item :: rest =>
    check (path ++ [.index n]) item ++ violationsByIndex check path (n + 1) rest

/-- The keys of an object that are none of the known ones. -/
def unknownKeys (known : List String) (members : List (String × Value)) : List String :=
  (members.map (·.1)).filter fun key => !known.contains key

def unexpectedIssues : List String → List Issue
  | [] => []
  | first :: others => [.unexpected first others]

mutual
/-- Every violation of a form in a value, in the order of the form. -/
def Shape.violations (path : List Step) : Shape → Value → List Violation
  | .any, _ => []
  | .boolean, value =>
    match value with
    | .bool _ => []
    | value => [⟨path, .wrongKind value "boolean"⟩]
  | .text rule, value =>
    match value with
    | .string text => (rule.issues text).map (Violation.mk path)
    | value => [⟨path, .wrongKind value "string"⟩]
  | .list item, value =>
    match value with
    | .array items => violationsByIndex (fun path value => item.violations path value) path 0 items
    | value => [⟨path, .wrongKind value "array"⟩]
  | .map member, value =>
    match value with
    | .object members =>
      members.flatMap fun (key, value) => member.violations (path ++ [.key key]) value
    | value => [⟨path, .wrongKind value "object"⟩]
  | .record required known, value =>
    match value with
    | .object members =>
      memberViolations path members known ++
        (unexpectedIssues (unknownKeys (known.map (·.1)) members)).map (Violation.mk path) ++
        (required.filter fun key => (members.lookup key).isNone).map fun key =>
          ⟨path, .missing key⟩
    | value => [⟨path, .wrongKind value "object"⟩]
  | .choice forms, value =>
    if anyAccepts value forms then [] else [⟨path, .noForm value⟩]

/-- The violations of an object's known members. -/
def memberViolations (path : List Step) (members : List (String × Value)) :
    List (String × Shape) → List Violation
  | [] => []
  | (key, shape) :: rest =>
    (match members.lookup key with
      | some value => shape.violations (path ++ [.key key]) value
      | none => []) ++ memberViolations path members rest

/-- Whether a value has one of several forms. -/
def anyAccepts (value : Value) : List Shape → Bool
  | [] => false
  | shape :: rest => (shape.violations [] value).isEmpty || anyAccepts value rest
end

/-! ## The form of schemas -/

namespace Shape

def anyText : Shape := .text .any

def reference : Shape := .record ["$ref"] [("$ref", .text .reference)]

def fieldType : Shape := .choice [.text .kind, reference]

def items : Shape := .choice [.record ["type"] [("type", fieldType)], reference]

def field : Shape :=
  .record ["name", "type"] [
    ("default", .any),
    ("description", anyText),
    ("enum", .list anyText),
    ("items", items),
    ("name", .text .identifier),
    ("readonly", .boolean),
    ("required", .boolean),
    ("type", fieldType)]

def typeExample : Shape := .record [] [("description", anyText), ("value", .any)]

def type : Shape :=
  .record [] [
    ("description", anyText),
    ("examples", .list typeExample),
    ("private", .boolean),
    ("properties", .list field)]

def methodExample : Shape :=
  .record [] [
    ("description", anyText),
    ("input", .any),
    ("name", anyText),
    ("output", .any)]

def method : Shape :=
  .record ["name"] [
    ("description", anyText),
    ("examples", .list methodExample),
    ("group", anyText),
    ("inputs", .list field),
    ("name", .text .identifier),
    ("outputs", .list field),
    ("private", .boolean)]

def group : Shape :=
  .record ["name"] [
    ("description", anyText),
    ("name", .text .nonempty),
    ("summary", anyText)]

def go : Shape := .record [] [("tags", .list anyText)]

def schema : Shape :=
  .record ["name", "version", "description", "methods", "groups", "types"] [
    ("description", anyText),
    ("go", go),
    ("groups", .list group),
    ("methods", .list method),
    ("name", .text .nonempty),
    ("types", .map type),
    ("version", anyText)]

end Shape

/-! ## Wording -/

/-- A key inside a pointer. -/
def pointerChar (c : Char) : List Char :=
  match c with
  | '~' => ['~', '0']
  | '/' => ['~', '1']
  | c => [c]

def Step.text : Step → String
  | .key name => "/" ++ String.ofList (name.toList.flatMap pointerChar)
  | .index n => "/" ++ toString n

/-- A path as a pointer; the whole document is the root. -/
def pointerText (path : List Step) : String :=
  if path.isEmpty then "(root)" else String.join (path.map Step.text)

def singleQuoted (text : String) : String := "'" ++ text ++ "'"

def Issue.message : Issue → String
  | .wrongKind value expected => value.compact ++ " is not of type \"" ++ expected ++ "\""
  | .missing key => stringText key ++ " is a required property"
  | .unexpected first [] =>
    "Additional properties are not allowed (" ++ singleQuoted first ++ " was unexpected)"
  | .unexpected first others =>
    "Additional properties are not allowed (" ++
      ", ".intercalate ((first :: others).map singleQuoted) ++ " were unexpected)"
  | .tooShort value => value.compact ++ " is shorter than 1 character"
  | .mismatch value pattern => value.compact ++ " does not match \"" ++ pattern ++ "\""
  | .noForm value =>
    value.compact ++ " is not valid under any of the schemas listed in the 'oneOf' keyword"

def Violation.message (violation : Violation) : String :=
  pointerText violation.path ++ ": " ++ violation.issue.message

/-- The violations of a document that should be a schema. -/
def structuralViolations (document : Value) : List Violation :=
  Shape.schema.violations [] document

end RpcSchema
