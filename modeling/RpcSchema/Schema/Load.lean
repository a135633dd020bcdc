import RpcSchema.Schema.Canonical
import RpcSchema.Schema.Decoding
import RpcSchema.Schema.Shape

/-!
Loading a schema: its text is read as JSON, checked for its form, decoded and brought into canonical
order. The first step that fails is the answer.
-/

namespace RpcSchema

open Json

/-- Why a schema cannot be loaded. -/
inductive LoadError
  /-- The file cannot be read. -/
  | unreadable (path : String)
  /-- The text is not JSON. -/
  | malformed (fault : Fault)
  /-- The document does not have the form of a schema. -/
  | structural (violations : List String)
  /-- The document cannot be decoded. -/
  | undecodable (fault : Fault)

/-- A mark under a place of the source. -/
structure Label where
  text : String
  offset : Nat
  length : Nat

namespace LoadError

def message : LoadError → String
  | .unreadable path => "failed to read '" ++ path ++ "'"
  | .malformed _ => "failed to parse schema"
  | .structural violations =>
    "validation failed:" ++
      String.join (violations.map fun violation => "\n  - " ++ violation)
  | .undecodable _ => "failed to decode schema"

def code : LoadError → String
  | .unreadable _ => "rpcgen::io"
  | .malformed _ => "rpcgen::parse_error"
  | .structural _ => "rpcgen::validation_error"
  | .undecodable _ => "rpcgen::decode_error"

def help? : LoadError → Option String
  | .unreadable _ => none
  | .malformed _ => some "the schema must be a JSON document"
  | .structural _ =>
    some "the schema does not match the expected structure; fix every listed violation"
  | .undecodable _ => none

/-- The fault of the text that is behind the error. -/
def fault? : LoadError → Option Fault
  | .malformed fault => some fault
  | .undecodable fault => some fault
  | _ => none

/-- What the label of the error says. -/
def labelText? : LoadError → Option String
  | .malformed _ => some "parse error here"
  | .undecodable fault => some fault.message
  | _ => none

end LoadError

/-- The byte offset of a line and column, found by walking the characters from a line and column,
both counted from zero here: it stops at the first character that is far enough on both. -/
def offsetFrom (target : Position) : List Char → Nat → Nat → Nat
  | [], _, _ => 0
  | c :: rest, line, column =>
    if target.line ≤ line + 1 && target.column ≤ column + 1 then 0
    else if c = '\n' then c.utf8Size + offsetFrom target rest (line + 1) 0
    else c.utf8Size + offsetFrom target rest line (column + 1)

/-- The byte offset of a position in a text. -/
def labelOffset (text : String) (position : Position) : Nat :=
  offsetFrom position text.toList 0 0

/-- The label that an error puts into the text it is about. -/
def LoadError.label? (source : String) (error : LoadError) : Option Label := do
  let text ← error.labelText?
  let fault ← error.fault?
  let position ← fault.position
  return ⟨text, labelOffset source position, 1⟩

/-- Loads a schema, its form judged by the given check. -/
def loadWith (check : Value → List String) (text : String) : Except LoadError Schema := do
  let document := Document.ofText text
  let value ← (document.decode .value).mapError .malformed
  let violations := check value
  if !violations.isEmpty then throw (.structural violations)
  let schema ← (document.decode Schema.decode).mapError .undecodable
  return schema.canonicalize

/-- Loads a schema. -/
def load (text : String) : Except LoadError Schema :=
  loadWith (fun document => (structuralViolations document).map Violation.message) text

/-- Loads a schema from what was read of a file; its bytes have to be UTF-8. -/
def loadFile (path : String) (content : Option ByteArray) : Except LoadError Schema :=
  match content.bind String.fromUTF8? with
  | some text => load text
  | none => .error (.unreadable path)

end RpcSchema
