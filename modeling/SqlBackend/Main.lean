import SqlBackend.Embedded.Format
import SqlBackend.Embedded.Handle
import SqlBackend.Program

/-!
# The command line program

Reads the arguments, the environment, the configuration file and the file of the configured store,
carries out the command, and writes a changed store back.
-/

namespace SqlBackend

namespace CommandLine

/-- The contents of a file, where there is a readable one. -/
def readFile? (path : String) : IO (Option String) := do
  try
    return some (Text.decodeLossy (← IO.FS.readBinFile path).toList)
  catch _ => return none

/-- The variables of the environment. -/
def environment : IO (List (String × String)) := do
  let text ← readFile? "/proc/self/environ"
  return (Text.fields (Char.ofNat 0) (text.getD "").toList).filterMap fun entry =>
    (Text.cut '=' entry).map fun (name, value) => (String.ofList name, String.ofList value)

/-- The text of the configuration file. A missing file is created from the template. -/
def configText (home : String) (given : Option String) : IO (Option String) := do
  let path := given.getD (Config.defaultFile home)
  match ← readFile? path with
  | some text => return some text
  | none =>
    if given.isNone then IO.FS.createDirAll (Config.directory home)
    IO.FS.writeFile path Config.template
    return none

/-- The disk as far as the configured store needs it, with the path of the store and the text of
its file. -/
def loadDisk (config : Except ConfigError Config) :
    IO (Except String (Embedded.Disk × Option (String × String))) := do
  match config.toOption.bind Report.databaseFile with
  | none => return .ok ({}, none)
  | some path =>
    match ← readFile? path with
    | none => return .ok ({}, none)
    | some text =>
      match Embedded.Format.read text with
      | some d => return .ok (Files.single path d, some (path, text))
      | none => return .error (path ++ " is not a database file")

/-- Writes the file of the store when it has changed. -/
def saveDisk (disk : Embedded.Disk) : Option (String × String) → IO Unit
  | none => pure ()
  | some (path, text) =>
    match (disk.read? path).map Embedded.Format.write with
    | some changed => unless changed = text do IO.FS.writeFile path changed
    | none => pure ()

def print (out : Output) : IO UInt32 := do
  (← IO.getStdout).putStr out.stdout
  (← IO.getStderr).putStr out.stderr
  return UInt32.ofNat out.code

/-- Carries out an invocation. -/
def run (i : Invocation) : IO UInt32 := do
  let env ← environment
  let home := (env.lookup "HOME").getD "."
  let text ← configText home i.configFile
  let config := Config.load home text env
  match ← loadDisk config with
  | .error message => print (.ofFailure message)
  | .ok (disk, file) =>
    let (out, disk) := Program.run Embedded.platform Embedded.registry home config i disk
    saveDisk disk file
    print out

end CommandLine

end SqlBackend

open SqlBackend in
def main (args : List String) : IO UInt32 := do
  match Arguments.read args with
  | .error e => CommandLine.print { code := 2, stderr := unlines ["error: " ++ e.message] }
  | .ok i =>
    try CommandLine.run i
    catch e => CommandLine.print (.ofFailure (toString e))
