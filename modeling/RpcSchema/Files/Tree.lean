import RpcSchema.Files.Path

/-!
Directory trees.

A tree is a table from locations to files and directories. Walking a path resolves it to a location
one step at a time; a step outwards is taken from where the walk stands.
-/

namespace RpcSchema.Files

/-- A place in a tree: the names from the root inwards. -/
abbrev Location := List String

inductive Entry
  | file (content : ByteArray)
  | directory

def Entry.isDirectory : Entry → Bool
  | .file _ => false
  | .directory => true

structure Tree where
  /-- What is at each location; the root is a directory without an entry. -/
  entries : List (Location × Entry) := []
  /-- Where paths start that are not absolute. -/
  working : Location := []

/-- Whether a directory can hold an entry of a name. -/
def isName (name : String) : Bool := name.utf8ByteSize ≤ 255

/-- Where a step leads; the root is the outermost directory. -/
def Location.advance (location : Location) (step : String) : Location :=
  if step = ".." then location.dropLast else location ++ [step]

/-- Replaces the entry of a location, or adds one. -/
def putEntry (location : Location) (entry : Entry) :
    List (Location × Entry) → List (Location × Entry)
  | [] => [(location, entry)]
  | (other, old) :: rest =>
    if other = location then (location, entry) :: rest
    else (other, old) :: putEntry location entry rest

namespace Tree

def entry? (tree : Tree) (location : Location) : Option Entry :=
  if location.isEmpty then some .directory else tree.entries.lookup location

def put (tree : Tree) (location : Location) (entry : Entry) : Tree :=
  { tree with entries := putEntry location entry tree.entries }

def isDirectory (tree : Tree) (location : Location) : Bool :=
  ((tree.entry? location).map Entry.isDirectory).getD false

def start (tree : Tree) (path : Path) : Location := if path.isAbsolute then [] else tree.working

/-- The location at the end of a walk. Every step starts in a directory and leads to something. -/
def walk (tree : Tree) : Location → List String → Option Location
  | location, [] => some location
  | location, step :: rest =>
    let next := location.advance step
    if tree.isDirectory location && (tree.entry? next).isSome then tree.walk next rest else none

/-- What a path leads to. -/
def find? (tree : Tree) (path : String) : Option Entry := do
  guard (isFollowed path)
  let path := Path.ofText path
  let location ← tree.walk (tree.start path) path.steps
  let entry ← tree.entry? location
  if path.isOpen && !entry.isDirectory then none else some entry

def contains (tree : Tree) (path : String) : Bool := (tree.find? path).isSome

/-- The content of a file. -/
def read? (tree : Tree) (path : String) : Option ByteArray :=
  match tree.find? path with
  | some (.file content) => some content
  | _ => none

/-- Makes the directories along a walk that are missing. It stops at a file, and at a name that no
directory can hold; what was made until then stays. -/
def makeDirectories (tree : Tree) : Location → List String → Option Location × Tree
  | location, [] => (some location, tree)
  | location, step :: rest =>
    let next := location.advance step
    match tree.entry? next with
    | some .directory => tree.makeDirectories next rest
    | some (.file _) => (none, tree)
    | none =>
      if isName step then (tree.put next .directory).makeDirectories next rest else (none, tree)

/-- Makes a directory, and those around it. -/
def makeDirectory (tree : Tree) (path : String) : Tree :=
  let path := Path.ofText path
  (tree.makeDirectories (tree.start path) path.steps).2

/-- Puts a file into a directory, unless a directory is in its place. -/
def putFile (tree : Tree) (directory : Location) (name : String) (content : ByteArray) :
    Bool × Tree :=
  let location := directory ++ [name]
  if name = ".." || !isName name || tree.isDirectory location then (false, tree)
  else (true, tree.put location (.file content))

/-- Writes a file, and makes the directories around it. Tells whether the file was written. Of a path
that cannot be followed the directories may still be made. -/
def write (tree : Tree) (path : String) (content : ByteArray) : Bool × Tree :=
  if !isFollowed (parentText path) then (false, tree)
  else
    let target := Path.ofText path
    match tree.makeDirectories (tree.start target) target.steps.dropLast with
    | (none, tree) => (false, tree)
    | (some directory, tree) =>
      match isFollowed path && !target.isOpen, target.steps.getLast? with
      | true, some name => tree.putFile directory name content
      | _, _ => (false, tree)

/-- The files of a tree. -/
def files (tree : Tree) : List (Location × ByteArray) :=
  tree.entries.filterMap fun (location, entry) =>
    match entry with
    | .file content => some (location, content)
    | .directory => none

end Tree

end RpcSchema.Files
