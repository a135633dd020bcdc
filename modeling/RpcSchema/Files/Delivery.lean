import RpcSchema.Files.Tree
import RpcSchema.Generate.File

/-!
Writing generated files into a directory.
-/

namespace RpcSchema

open Files

/-- What became of a generated file. -/
inductive Delivery
  | written
  /-- The file was there, and stays as it was. -/
  | kept
  | failed
deriving DecidableEq

namespace GeneratedFile

/-- Where the file goes. -/
def destination (directory : String) (file : GeneratedFile) : String := join directory file.path

/-- Whether the file stays unwritten because something is in its place. -/
def isKept (file : GeneratedFile) (isThere : Bool) : Bool := file.overwrite == .ifMissing && isThere

/-- Writes the file below a directory. -/
def deliver (directory : String) (file : GeneratedFile) (tree : Tree) : Delivery × Tree :=
  let path := file.destination directory
  if file.isKept (tree.contains path) then (.kept, tree)
  else
    let (done, tree) := tree.write path file.content.toUTF8
    (if done then .written else .failed, tree)

end GeneratedFile

/-- What is said when a file cannot be written. -/
def unwritableMessage (path : String) : String := "failed to write " ++ path

end RpcSchema
