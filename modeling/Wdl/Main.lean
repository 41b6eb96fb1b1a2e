import Wdl.Command.Run

/-!
The command line program.

All files that a command may look at are read before it runs, so that the command itself is a
function of what they hold.
-/

namespace Wdl

/-- The names of the files that a command may look at. -/
def Invocation.fileNames (i : Invocation) (env : Config.Environment) : List String :=
  let documents := match i.command with
    | .check files _ _ _ => files
    | .eval _ _ => []
  documents ++ i.cfg.toList ++ Config.fileNames env none

/-- What a name stands for in the file system. -/
def lookAt (name : String) : IO Entry := do
  try
    return .file (← IO.FS.readBinFile name)
  catch e =>
    match e with
    | .inappropriateType .. => return .directory
    | _ => return .missing

/-- The files with the given names. -/
def lookAtAll (names : List String) : IO Files := do
  let cwd ← IO.currentDir
  let table ← names.mapM fun n => return (n, ← lookAt n)
  return { cwd := cwd.toString, entry := fun n => (table.lookup n).getD .missing }

/-- The variables of the environment of this process. -/
def environment : IO Config.Environment := do
  let bytes ← try IO.FS.readBinFile "/proc/self/environ" catch _ => return []
  match String.fromUTF8? bytes with
  | none => return []
  | some text =>
    return (Text.splitOn (Char.ofNat 0) text).filterMap fun entry =>
      match Command.splitValue entry.toList with
      | (name, some value) => some (String.ofList name, String.ofList value)
      | _ => none

/-- How to call the program. -/
def usage : String :=
  "usage: wdl check [--outline] [--json] [--strict] WDL_FILE...\n" ++
  "       wdl eval EXPR [NAME=JSON...]\n" ++
  "options: [--debug] [-v] [--log-json] [--cfg FILE]"

/-- The text for trouble that is passed on. -/
def Command.Trouble.text (t : Command.Trouble) : String :=
  match t.reported?, t with
  | some (line, _), _ => line
  | none, .file name t => name ++ ": " ++ t.message
  | none, .refused (.config (.missing m)) => m
  | none, .refused (.config (.value m)) => m
  | none, .refused (.config _) => "the configuration cannot be read"
  | none, .refused (.unsupportedVersion v) => Refusal.unsupported v
  | none, .refused (.noGrammar v) => "no grammar for version " ++ v
  | none, .refused (.rejected (.syntaxError e)) => e.text
  | none, .refused (.rejected (.fault f)) => f.message

/-- Runs a command and writes its report. -/
def runCommand (i : Invocation) : IO UInt32 := do
  let env ← environment
  let files ← lookAtAll (i.fileNames env)
  let stderr ← IO.getStderr
  let report := i.run env files (← stderr.isTty)
  IO.print report.stdout
  IO.eprint report.stderr
  match report.ending with
  | .exit status => return UInt32.ofNat status
  | .raised t =>
    IO.eprintln ("error: " ++ t.text)
    return 1

end Wdl

def main (args : List String) : IO UInt32 := do
  match Wdl.Invocation.ofArgs args with
  | .ok i => Wdl.runCommand i
  | .error .help =>
    IO.println Wdl.usage
    return 0
  | .error (.wrong message) =>
    IO.eprintln Wdl.usage
    IO.eprintln ("error: " ++ message)
    return 2
