import RpcSchema.Json.Printer
import RpcSchema.Schema.Field

/-!
Sentences about a field that follow its description.
-/

namespace RpcSchema

/-- Items in a sentence: commas, and `and` before the last. -/
def joinList : List String → String
  | [] => ""
  | [one] => one
  | [first, second] => first ++ " and " ++ second
  | items => ", ".intercalate items.dropLast ++ ", and " ++ items.getLastD ""

/-- Texts as JSON strings with commas between them. -/
def quotedList (values : List String) : String :=
  ", ".intercalate (values.map Json.stringText)

namespace Field

def attributes (field : Field) : List String :=
  (if field.required then ["required"] else []) ++ if field.readonly then ["read-only"] else []

def attributesSentence (field : Field) : String :=
  if field.attributes.isEmpty then "" else " This field is " ++ joinList field.attributes ++ "."

def enumSentence (field : Field) : String :=
  if field.enumValues.isEmpty then ""
  else " Must be one of: " ++ quotedList field.enumValues ++ "."

/-- What is said of a field behind its description. -/
def extra (field : Field) : String := field.attributesSentence ++ field.enumSentence

end Field

end RpcSchema
