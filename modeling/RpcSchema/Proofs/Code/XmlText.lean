import RpcSchema.Proofs.Code.DocBlocks

/-!
# XML text read back

In XML text an ampersand starts an entity, and angle brackets are markup. Escaping replaces the
three characters one after the other, the ampersand first, which comes to replacing each character
of the text once. A reader that goes through the text from left to right, and puts a character in
the place of each entity, finds the text that was escaped, also where that text has the form of
entities itself.
-/

namespace RpcSchema.CsCode

open Code

/-! ## One character after the other -/

/-- What is put in the place of a character: a text for one that is replaced. -/
def replacing (old : Char) (new : String) (c : Char) : List Char :=
  if c = old then new.toList else [c]

/-- A text with another text in each place of a character. -/
def replaceChar (old : Char) (new text : String) : String :=
  String.ofList (text.toList.flatMap (replacing old new))

theorem replacing_of_ne {old c : Char} (other : c ≠ old) (new : String) :
    replacing old new c = [c] :=
  if_neg other

theorem toList_replaceChar (old : Char) (new text : String) :
    (replaceChar old new text).toList = text.toList.flatMap (replacing old new) :=
  String.toList_ofList

theorem xmlChar_eq_replacing (c : Char) :
    xmlChar c = (replacing '&' "&amp;" c).flatMap fun first =>
      (replacing '<' "&lt;" first).flatMap (replacing '>' "&gt;") := by
  unfold xmlChar
  split
  -- No entity has one of the characters that are replaced later.
  · rfl
  · rfl
  · rfl
  · next noAmpersand noLess noGreater =>
    rw [replacing_of_ne noAmpersand, List.flatMap_singleton, replacing_of_ne noLess,
      List.flatMap_singleton, replacing_of_ne noGreater]

/-- The ampersand comes first: what is put in the places of the others has ampersands. -/
theorem xmlEscape_eq_replaceChar (text : String) :
    xmlEscape text =
      replaceChar '>' "&gt;" (replaceChar '<' "&lt;" (replaceChar '&' "&amp;" text)) := by
  rw [← String.toList_inj, toList_replaceChar, toList_replaceChar, toList_replaceChar,
    List.flatMap_assoc, List.flatMap_assoc, xmlEscape, String.toList_ofList]
  exact List.flatMap_congr fun c _ => xmlChar_eq_replacing c

/-- With the ampersand last, an entity would be escaped once more. -/
example : replaceChar '&' "&amp;" (replaceChar '<' "&lt;" "<") = "&amp;lt;" := by decide

theorem xmlEscape_append (text other : String) :
    xmlEscape (text ++ other) = xmlEscape text ++ xmlEscape other := by
  rw [xmlEscape, String.toList_append, List.flatMap_append, String.ofList_append, xmlEscape,
    xmlEscape]

/-! ## Entities -/

/-- An entity that stands for a character which is no text by itself. -/
inductive Entity
  | ampersand
  | less
  | greater

namespace Entity

def char : Entity → Char
  | ampersand => '&'
  | less => '<'
  | greater => '>'

def name : Entity → String
  | ampersand => "amp"
  | less => "lt"
  | greater => "gt"

/-- The entity as it stands in XML text. -/
def reference (entity : Entity) : String := "&" ++ entity.name ++ ";"

end Entity

/-- The characters that XML text stands for. An ampersand that starts no entity stands as it is. -/
def readXmlChars : List Char → List Char
  | '&' :: 'a' :: 'm' :: 'p' :: ';' :: rest => '&' :: readXmlChars rest
  | '&' :: 'l' :: 't' :: ';' :: rest => '<' :: readXmlChars rest
  | '&' :: 'g' :: 't' :: ';' :: rest => '>' :: readXmlChars rest
  | c :: rest => c :: readXmlChars rest
  | [] => []

/-- The text that XML text stands for. -/
def readXml (text : String) : String := String.ofList (readXmlChars text.toList)

/-- An entity is read as its character, and reading goes on behind it. -/
theorem readXmlChars_reference (entity : Entity) (rest : List Char) :
    readXmlChars (entity.reference.toList ++ rest) = entity.char :: readXmlChars rest := by
  cases entity <;> rfl

theorem readXmlChars_cons_of_ne {c : Char} (other : c ≠ '&') (rest : List Char) :
    readXmlChars (c :: rest) = c :: readXmlChars rest := by
  rw [readXmlChars] <;> simp [other]

/-! ## Escaped text -/

/-- A character is escaped when it has an entity. -/
theorem xmlChar_cases (c : Char) :
    (∃ entity : Entity, c = entity.char ∧ xmlChar c = entity.reference.toList) ∨
      (c ≠ '&' ∧ xmlChar c = [c]) := by
  unfold xmlChar
  split
  · exact .inl ⟨.ampersand, rfl, rfl⟩
  · exact .inl ⟨.less, rfl, rfl⟩
  · exact .inl ⟨.greater, rfl, rfl⟩
  · next noAmpersand _ _ => exact .inr ⟨noAmpersand, rfl⟩

/-- Whatever is behind it, an escaped character is read as the character. -/
theorem readXmlChars_xmlChar (c : Char) (rest : List Char) :
    readXmlChars (xmlChar c ++ rest) = c :: readXmlChars rest := by
  rcases xmlChar_cases c with ⟨entity, rfl, escaped⟩ | ⟨noAmpersand, kept⟩
  · rw [escaped, readXmlChars_reference]
  · rw [kept, List.singleton_append, readXmlChars_cons_of_ne noAmpersand]

theorem readXmlChars_flatMap (chars : List Char) :
    readXmlChars (chars.flatMap xmlChar) = chars := by
  induction chars with
  | nil => rfl
  | cons c chars ih => rw [List.flatMap_cons, readXmlChars_xmlChar, ih]

theorem readXml_xmlEscape (text : String) : readXml (xmlEscape text) = text := by
  rw [readXml, xmlEscape, String.toList_ofList, readXmlChars_flatMap, String.ofList_toList]

theorem xmlEscape_injective : Function.Injective xmlEscape :=
  Function.LeftInverse.injective readXml_xmlEscape

theorem xmlEscape_char (entity : Entity) :
    xmlEscape (String.singleton entity.char) = entity.reference := by
  cases entity <;> rfl

/-- Of what has the form of an entity, the ampersand is escaped and the rest is as it was. -/
theorem xmlEscape_reference (entity : Entity) :
    xmlEscape entity.reference = "&amp;" ++ entity.name ++ ";" := by
  cases entity <;> rfl

/-- Escaping replaces the ampersand, then the angle brackets. The outcome is XML text, which is read
as the text that was escaped: no two texts are escaped as one, and what has the form of an entity is
read as it stands, and not as the character of the entity. -/
theorem escaped_text_reads_back :
    (∀ text, xmlEscape text =
        replaceChar '>' "&gt;" (replaceChar '<' "&lt;" (replaceChar '&' "&amp;" text))) ∧
      (∀ text, isXmlText (xmlEscape text).toList ∧ readXml (xmlEscape text) = text) ∧
      Function.Injective xmlEscape ∧
      ∀ (entity : Entity) (front rest : String),
        xmlEscape (front ++ entity.reference ++ rest) =
            xmlEscape front ++ ("&amp;" ++ entity.name ++ ";") ++ xmlEscape rest ∧
          readXml (xmlEscape (front ++ entity.reference ++ rest)) =
            front ++ entity.reference ++ rest ∧
          readXml (xmlEscape front ++ entity.reference ++ xmlEscape rest) =
            front ++ String.singleton entity.char ++ rest := by
  refine ⟨xmlEscape_eq_replaceChar, fun text => ⟨?_, readXml_xmlEscape text⟩,
    xmlEscape_injective, fun entity front rest => ⟨?_, readXml_xmlEscape _, ?_⟩⟩
  · rw [xmlEscape, String.toList_ofList]
    exact isXmlText_flatMap text.toList
  · rw [xmlEscape_append, xmlEscape_append, xmlEscape_reference]
  · rw [← xmlEscape_char, ← xmlEscape_append, ← xmlEscape_append, readXml_xmlEscape]

example : readXml "&amp;lt;&lt;&gt;" = "&lt;<>" := by decide

end RpcSchema.CsCode
