import RpcSchema.Naming.Words

/-!
Identifiers whose last word is written in capitals when it is a known acronym.
-/

namespace RpcSchema.Naming

open Text

/-- A table of acronyms, capitalized. -/
structure Acronyms where
  entries : List String

namespace Acronyms

def standard : Acronyms :=
  ⟨["Api", "Id", "Http", "Https", "Pdf", "Ip", "Json", "Sql", "Vat", "Tcp", "Tls", "Udp", "Ui",
    "Uid", "Uuid", "Uri", "Url", "Utf8"]⟩

/-- The table of no acronyms. -/
def plain : Acronyms := ⟨[]⟩

/-- Of two entries the one that takes more bytes, of equals the second. -/
def longer (a b : String) : String := if a.utf8ByteSize ≤ b.utf8ByteSize then b else a

/-- The longest entry that a text ends with. -/
def ending? (acronyms : Acronyms) (text : String) : Option String :=
  (acronyms.entries.filter fun entry => entry.toList.isSuffixOf text.toList).foldl
    (fun found entry => some (found.elim entry fun best => longer best entry)) none

/-- The text with the acronym at its end in capitals. -/
def upcaseEnding (acronyms : Acronyms) (text : String) : String :=
  match acronyms.ending? text with
  | some entry =>
    String.ofList (text.toList.take (text.toList.length - entry.toList.length)) ++ upperText entry
  | none => text

/-- The name as an identifier that starts in upper case. -/
def exportedName (acronyms : Acronyms) (name : String) : String :=
  acronyms.upcaseEnding (pascalCase name)

/-- The name as an identifier that starts in lower case. -/
def memberName (acronyms : Acronyms) (name : String) : String :=
  match words name with
  | [] => ""
  | [word] => word
  | first :: rest => first ++ acronyms.upcaseEnding (String.join (rest.map capitalize))

end Acronyms

/-- The name as the anchor of a heading. -/
def anchorName (name : String) : String := snakeCase name

example : Acronyms.standard.exportedName "user_id" = "UserID" := by decide
example : Acronyms.standard.memberName "http_url" = "httpURL" := by decide

end RpcSchema.Naming
