/-!
White space of all scripts, and text without it at its ends.
-/

namespace RpcSchema.Text

/-- The characters with the Unicode property White_Space. -/
def isBlank (c : Char) : Bool :=
  let code := c.toNat
  (0x9 ≤ code && code ≤ 0xd) || code == 0x20 || code == 0x85 || code == 0xa0 || code == 0x1680 ||
    (0x2000 ≤ code && code ≤ 0x200a) || code == 0x2028 || code == 0x2029 || code == 0x202f ||
    code == 0x205f || code == 0x3000

def dropBlanks (chars : List Char) : List Char := chars.dropWhile isBlank

def dropTrailingBlanks (chars : List Char) : List Char := (dropBlanks chars.reverse).reverse

/-- The text without white space at its start. -/
def trimStart (text : String) : String := String.ofList (dropBlanks text.toList)

/-- The text without white space at its end. -/
def trimEnd (text : String) : String := String.ofList (dropTrailingBlanks text.toList)

/-- The text without white space at either end. -/
def trim (text : String) : String := String.ofList (dropTrailingBlanks (dropBlanks text.toList))

/-- Whether the text is empty or all white space. -/
def isBlankText (text : String) : Bool := text.toList.all isBlank

end RpcSchema.Text
