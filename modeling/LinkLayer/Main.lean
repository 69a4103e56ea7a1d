/-
  LinkLayer.Main
  ──────────────
  **THE COMMAND LINE.**

  Reads the file and the random octets that a command needs, lets
  `LinkLayer.Program` decide, and prints what it decided.  A daemon is
  interrupted by the end of the standard input.  It runs on a host whose
  interfaces are down.
-/
import LinkLayer.Daemon.Program
import LinkLayer.Scenario.Folder
import LinkLayer.Scenario.Host

namespace LinkLayer.Main

/-- How the program is used. -/
def usage : List String :=
  ["Usage: [-v] [-c FILE] run [-l URI]... [-p URI]... [-i NAME]",
   "       [-v] [-c FILE] genkey",
   "       help [COMMAND]"]

/-- Print lines. -/
def printAll (lines : List String) : IO Unit := lines.forM IO.println

/-- Print the entries of a log that are to be shown. -/
def printLog (verbose : Bool) (log : List LogEntry) : IO Unit :=
  printAll (LogEntry.texts (log.filter (LogEntry.isShown verbose)))

/-- The cause of a failure to read a file. -/
def causeOf : IO.Error → FileError
  | .noFileOrDirectory .. => .notFound
  | .inappropriateType .. => .isADirectory
  | e => .other (toString e)

/-- Read the file that a command line names. -/
def readConfig : Option String → IO (Except String String)
  | none => return .ok ""
  | some path => do
      match ← (IO.FS.readBinFile path).toBaseIO with
      | .error e => return .error (causeOf e).message
      | .ok bytes =>
          match utf8Decode? bytes.toList with
          | some cs => return .ok (String.ofList cs)
          | none => return .error FileError.notText.message

/-- A key from random octets. -/
def freshKey : IO PrivateKey := do
  let octets ← IO.getRandomBytes seedLength.toUSize
  match PrivateKey.ofBytes .ed25519 octets.toList with
  | .ok key => return key
  | .error e => throw (IO.userError e.message)

/-- Wait for the end of the standard input. -/
partial def waitForEnd (input : IO.FS.Stream) : IO Unit := do
  if (← input.getLine).isEmpty then return
  waitForEnd input

/-- Run a daemon until it is interrupted. -/
def runDaemon (verbose : Bool) (log : List LogEntry) (daemon : Daemon Host) : IO Unit := do
  let (work, daemon) := daemon.work Host.machine
  printLog verbose (log ++ work)
  waitForEnd (← IO.getStdin)
  printLog verbose (Program.farewell Host.machine daemon)

/-- Do what was decided; the result is the exit code. -/
def carryOut (verbose : Bool) : Program.Outset Host → IO UInt32
  | .keyMade key => do
      printAll (Program.keyLines key)
      return 0
  | .failed log cause => do
      printLog verbose log
      IO.eprintln s!"Error: {cause.message}"
      return 1
  | .notStarted log => do
      printLog verbose log
      return 1
  | .running log daemon => do
      runDaemon verbose log daemon
      return 0

/-- Refuse a command line, or show the help that it asks for. -/
def refuse (cause : CommandLine.Refusal) : IO UInt32 := do
  match cause with
  | .version => printAll cause.lines
  | .help => printAll usage
  | _ => usage.forM IO.eprintln
  return cause.exitCode.toUInt32

end LinkLayer.Main

/-- Carries out the command line. -/
def main (args : List String) : IO UInt32 := do
  match LinkLayer.CommandLine.parse args with
  | .error cause => LinkLayer.Main.refuse cause
  | .ok c =>
      let content ← LinkLayer.Main.readConfig c.config
      let fresh ← LinkLayer.Main.freshKey
      LinkLayer.Main.carryOut c.verbose
        (LinkLayer.Program.outset LinkLayer.Host.machine c (fun _ => content) fresh {})
