/-!
Paths as text, and the steps they stand for.
-/

namespace RpcSchema.Files

/-- A path, read. -/
structure Path where
  /-- Whether it starts at the root, and not at the working directory. -/
  isAbsolute : Bool
  /-- Names, and `..` for a step outwards. -/
  steps : List String
  /-- Whether it can only be a directory: it ends in a slash or a dot. -/
  isOpen : Bool
deriving DecidableEq

/-- The parts of a text between slashes. -/
def splitSlashes : List Char → List (List Char)
  | [] => [[]]
  | c :: rest =>
    if c = '/' then [] :: splitSlashes rest
    else
      match splitSlashes rest with
      | [] => [[c]]
      | part :: parts => (c :: part) :: parts

/-- Whether a part of a path leads nowhere: it is empty or a dot. -/
def isIdle (part : List Char) : Bool := part.isEmpty || part == ['.']

def Path.ofText (text : String) : Path :=
  let parts := splitSlashes text.toList
  { isAbsolute := text.toList.head? == some '/'
    steps := (parts.filter fun part => !isIdle part).map String.ofList
    isOpen := (parts.getLast?.map isIdle).getD true }

/-- Whether a text is short enough to be followed as a path, and has no NUL in it. -/
def isFollowed (text : String) : Bool := text.utf8ByteSize < 4096 && !text.toList.contains '\x00'

/-- The text of the directory around what a path leads to. -/
def parentText (path : String) : String :=
  let parts := (splitSlashes path.toList).reverse.dropWhile isIdle
  "/".intercalate (((parts.drop 1).dropWhile isIdle).reverse.map String.ofList)

/-- The text of a path inside a directory; an absolute path stays as it is. -/
def join (directory path : String) : String :=
  if path.toList.head? = some '/' then path
  else if directory.isEmpty || directory.toList.getLast? == some '/' then directory ++ path
  else directory ++ "/" ++ path

example : join "./out/" "a.md" = "./out/a.md" := by decide
example : Path.ofText "./a//b/" = ⟨false, ["a", "b"], true⟩ := by decide
example : parentText "/a/./b//" = "/a" := by decide

end RpcSchema.Files
