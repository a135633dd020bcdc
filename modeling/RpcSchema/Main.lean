import RpcSchema.CommandLine.Run

/-!
The command line on the files of the machine. Only reading, writing and printing happen here; what is
read, written and printed is decided by the plan of the command.
-/

namespace RpcSchema.CommandLine

/-- The content of a file, if it can be read. -/
def readContent (path : String) : IO (Option ByteArray) := do
  try
    return some (← IO.FS.readBinFile path)
  catch _ => return none

/-- Whether a path leads to anything. -/
def isThere (path : String) : IO Bool := do
  try
    discard (IO.FS.realPath path)
    return true
  catch _ => return false

def writeContent (path content : String) : IO Bool := do
  let parent := Files.parentText path
  if !Files.isFollowed parent then return false
  try
    if !parent.isEmpty then IO.FS.createDirAll parent
    IO.FS.writeFile path content
    return true
  catch _ => return false

def reportError (error : CommandError) : IO UInt32 := do
  match error with
  | .usage => IO.eprintln "usage: rpcgen <command> [options]"
  | .load error => IO.eprintln (error.code ++ ": " ++ error.message)
  | error => IO.eprintln ("\n".intercalate error.messages)
  return error.exitCode.toUInt32

def deliverFiles (directory : String) : List GeneratedFile → IO UInt32
  | [] => return 0
  | file :: rest => do
    let path := file.destination directory
    let delivery ←
      if file.isKept (← isThere path) then pure Delivery.kept
      else if ← writeContent path file.content then pure .written
      else pure .failed
    match delivery with
    | .failed => reportError (.unwritable path)
    | delivery =>
      IO.print (deliveryLine path delivery)
      deliverFiles directory rest

def runPlan : Plan → IO UInt32
  | .print text => do
    IO.print text
    return 0
  | .write directory files => deliverFiles directory files

def runArguments (arguments : List String) : IO UInt32 := do
  match Command.ofArguments? arguments with
  | none => reportError .usage
  | some command =>
    let content ←
      match command.schemaPath? with
      | some path => readContent path
      | none => pure none
    match command.plan content with
    | .ok plan => runPlan plan
    | .error error => reportError error

end RpcSchema.CommandLine

def main (arguments : List String) : IO UInt32 :=
  RpcSchema.CommandLine.runArguments arguments
