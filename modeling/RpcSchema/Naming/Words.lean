import RpcSchema.Text.LetterCase

/-!
The words of a name.

A name is split where a character is neither letter nor digit, and before an upper-case letter that
follows a lower-case letter or a digit or that ends a run of upper-case letters. Words are in lower
case.
-/

namespace RpcSchema.Naming

open Text

/-- Whether an upper-case letter between two characters of a name starts a word. -/
def startsWord (before : Char) (after : Option Char) : Bool :=
  isLowercase before || isAsciiDigit before || (isUppercase before && after.any isLowercase)

/-- A word that ends here; an empty one is none. -/
def closeWord (word : List Char) : List (List Char) := if word.isEmpty then [] else [word]

/-- The words from a place inside a name on: the character before it, the word begun so far, and
the rest of the name. -/
def splitWords : Char → List Char → List Char → List (List Char)
  | _, word, [] => closeWord word
  | before, word, c :: rest =>
    if !isAlphanumeric c then closeWord word ++ splitWords c [] rest
    else if isUppercase c && !word.isEmpty && startsWord before rest.head? then
      word :: splitWords c (lowerChar c) rest
    else splitWords c (word ++ lowerChar c) rest

/-- The words of a name. -/
def words (name : String) : List String :=
  (splitWords ' ' [] name.toList).map String.ofList

/-- The text with its first character in upper case. -/
def capitalize (text : String) : String :=
  match text.toList with
  | [] => ""
  | c :: rest => String.ofList (upperChar c ++ rest)

/-- The words of a name, each capitalized, in one. -/
def pascalCase (name : String) : String := String.join ((words name).map capitalize)

/-- The words of a name with underscores between them. -/
def snakeCase (name : String) : String := "_".intercalate (words name)

example : words "getHTTPServer_v2Id" = ["get", "http", "server", "v2", "id"] := by decide

end RpcSchema.Naming
