import RpcSchema.CommandLine.Command
import RpcSchema.Files.Delivery
import RpcSchema.Pipeline.Run
import RpcSchema.Schema.Load

/-!
Running a command on a directory tree.

A command comes to a plan before anything is written: a text to print, or files for a directory. So
whatever fails up to there leaves the tree as it was.
-/

namespace RpcSchema.CommandLine

open Files

inductive CommandError
  | usage
  | load (error : LoadError)
  /-- The lints refuse the schema. -/
  | rejected (path report : String)
  | generate (backend : String) (error : GenerateError)
  /-- Several files, and no directory to put them into. -/
  | needsDirectory (backend : String) (count : Nat)
  | unwritable (path : String)

namespace CommandError

def exitCode : CommandError → Nat
  | .usage => 2
  | _ => 1

/-- The code of an error of loading. -/
def code? : CommandError → Option String
  | .load error => some error.code
  | _ => none

/-- What is reported, from the outermost message inwards. -/
def messages : CommandError → List String
  | .usage => []
  | .load _ => []
  | .rejected path report => [path ++ " is invalid", report]
  | .generate backend error => [backend ++ " failed", error.message]
  | .needsDirectory backend count =>
    [backend ++ " writes " ++ toString count ++ " files; pass --output <dir>"]
  | .unwritable path => [unwritableMessage path]

end CommandError

/-- The schema of a source, of whose file the content was read. -/
def SchemaSource.load (source : SchemaSource) (content : Option ByteArray) :
    Except CommandError Schema :=
  match loadFile source.path content with
  | .error error => .error (.load error)
  | .ok schema =>
    let pipeline : Pipeline := ⟨ValidatePhase.standard.groupPolicy source.policy, []⟩
    match pipeline.run schema with
    | .ok context => .ok context.schema
    | .error report => .error (.rejected source.path report)

/-- A count with its noun. -/
def counted (count : Nat) (noun : String) : String :=
  toString count ++ " " ++ noun ++ if count = 1 then "" else "s"

/-- What is said of a schema without errors. -/
def summary (path : String) (schema : Schema) : String :=
  "✓ " ++ path ++ " is valid\n\n" ++
    "  " ++ schema.name ++ " v" ++ schema.version ++ "\n" ++
    (if schema.description.isEmpty then "\n" else "  " ++ schema.description ++ "\n\n") ++
    "  " ++ counted schema.groups.length "group" ++ "\n" ++
    "  " ++ counted schema.methods.length "method" ++ "\n" ++
    "  " ++ counted schema.types.length "type" ++ "\n"

def versionText : String := "rpcgen 0.1.0\n"

/-- What a command comes to before anything is written. -/
inductive Plan
  | print (text : String)
  | write (directory : String) (files : List GeneratedFile)

/-- Files go below the directory that is given; without one, a single file is printed. -/
def Plan.ofFiles (backend : String) (output : Option String) (files : List GeneratedFile) :
    Except CommandError Plan :=
  match output, files with
  | some directory, files => .ok (.write directory files)
  | none, [file] => .ok (.print file.content)
  | none, files => .error (.needsDirectory backend files.length)

/-- The file that a command reads. -/
def Command.schemaPath? : Command → Option String
  | .version => none
  | .check source => some source.path
  | .generate source _ _ => some source.path

/-- The plan of a command, when the content of the schema's file was read. -/
def Command.plan (content : Option ByteArray) : Command → Except CommandError Plan
  | .version => .ok (.print versionText)
  | .check source => do
    let schema ← source.load content
    return .print (summary source.path schema)
  | .generate source output backend => do
    let schema ← source.load content
    let files ← ((backend.generate schema).files backend.name).mapError (.generate backend.name)
    Plan.ofFiles backend.name output files

/-- What is printed about a file that was written or kept. -/
def deliveryLine (path : String) : Delivery → String
  | .written => "  + " ++ path ++ "\n"
  | .kept => "  = " ++ path ++ " (exists, kept)\n"
  | .failed => ""

/-- What a run prints, and why it failed when it did. -/
structure Report where
  output : String := ""
  error : Option CommandError := none

namespace Report

def exitCode (report : Report) : Nat := (report.error.map CommandError.exitCode).getD 0

/-- The report with more text in front of it. -/
def after (text : String) (report : Report) : Report :=
  { report with output := text ++ report.output }

end Report

/-- Writes files one after another; the first that cannot be written is the last that is tried. -/
def deliverAll (directory : String) : List GeneratedFile → Tree → Report × Tree
  | [], tree => ({}, tree)
  | file :: rest, tree =>
    let path := file.destination directory
    match file.deliver directory tree with
    | (.failed, tree) => ({ error := some (.unwritable path) }, tree)
    | (delivery, tree) =>
      let (report, tree) := deliverAll directory rest tree
      (report.after (deliveryLine path delivery), tree)

def Plan.run : Plan → Tree → Report × Tree
  | .print text, tree => ({ output := text }, tree)
  | .write directory files, tree => deliverAll directory files tree

/-- Runs a command on a tree. -/
def Command.run (command : Command) (tree : Tree) : Report × Tree :=
  match command.plan (command.schemaPath?.bind tree.read?) with
  | .ok plan => plan.run tree
  | .error error => ({ error := some error }, tree)

/-- Runs a command line on a tree. -/
def run (arguments : List String) (tree : Tree) : Report × Tree :=
  match Command.ofArguments? arguments with
  | some command => command.run tree
  | none => ({ error := some .usage }, tree)

end RpcSchema.CommandLine
