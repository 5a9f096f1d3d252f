import Std.Time.DateTime.Timestamp
import SplitTest.CommandLine.Report

/-! The program: looks at a manifest of experiments from the command line. -/
namespace SplitTest.Program
open SplitTest.CommandLine

def readFile (path : FilePath) : IO (Except FileError (List UInt8)) := do
  try
    return .ok (← IO.FS.readBinFile path.text).toList
  catch
    | .noFileOrDirectory _ _ _ => return .error .notFound
    | .inappropriateType _ code _ =>
      return .error <|
        if some code.toNat = FileError.isDirectory.number? then .isDirectory else .notDirectory
    | e => throw e

/-- The variables that are set, of those that settings are read from. -/
def environment : IO Variables := do
  let names := Settings.fieldNames.map fun name => (Settings.namespaceOfVariables ++ name).toUpper
  names.filterMapM fun name => do
    return (← IO.getEnv name).map (name, ·)

/-- The text of the file of variables, if there is one. -/
def variableFile : IO (Option String) := do
  match ← readFile (.ofText ".env") with
  | .ok bytes =>
    match Encoding.utf8.decode bytes with
    | .ok text => return some (String.ofList text)
    | .error e => throw (IO.userError e.message)
  | .error _ => return none

def settings : IO (Checked Settings) := do
  return Settings.load (← environment) (← variableFile)

def now : IO Double := do
  let time ← Std.Time.Timestamp.now
  return .ofRat false ((time.toNanosecondsSinceUnixEpoch.val : Rat) / 1000000000)

def abort (a : Abort) : IO Nat := do
  IO.eprintln a.message
  return ExitCode.failure.number

/-- Carries out what a command line asks for, and gives the exit code. -/
def run (i : Invocation) : IO Nat := do
  let settings ← if (i.manifest.getD "").isEmpty then settings else pure (Settings.load [] none)
  match Report.manifestPath i.manifest settings with
  | .error a => abort a
  | .ok path =>
    let reading := ManifestReading.ofFile path (← readFile path)
    let report := Report.ofReading reading (← now) i.command
    IO.print report.output
    match report.outcome with
    | .ok code => return code.number
    | .error a => abort a

end SplitTest.Program

def main (words : List String) : IO UInt32 := do
  match SplitTest.CommandLine.Invocation.ofWords words with
  | .error refusal => return UInt32.ofNat refusal.exitCode
  | .ok i => return UInt32.ofNat (← SplitTest.Program.run i)
