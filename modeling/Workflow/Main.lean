import Workflow.Command

/-!
# The program

Carries the plan of a command out: reads and writes files, prints, and exits with one for a
command that has failed and two for a line that asks for nothing.
-/

namespace Workflow.Program

/-- Why reading or writing a file has failed. -/
def fileFault : IO.Error → FileFault
  | .noFileOrDirectory .. => .missing
  | .permissionDenied .. => .denied
  | .inappropriateType _ 20 _ => .notFolder
  | .inappropriateType .. => .isFolder
  | .invalidArgument _ 36 _ => .nameTooLong
  | e => .other (toString e)

/-- Reads the text of a file. -/
def readText (path : String) : IO (Except FileFault String) := do
  match ← (IO.FS.readBinFile path).toBaseIO with
  | .error e => return .error (fileFault e)
  | .ok bytes =>
    match String.fromUTF8? bytes with
    | some text => return .ok text
    | none => return .error .notText

/-- Writes a text to a file. -/
def writeText (path contents : String) : IO (Except FileFault Unit) := do
  match ← (IO.FS.writeFile path contents).toBaseIO with
  | .error e => return .error (fileFault e)
  | .ok _ => return .ok ()

/-- Makes a remark of a command that began at a given time. -/
def remark (began : Nat) : Remark → IO Unit
  | .line text => IO.eprintln text
  | .timed text => do
    let spent := (← IO.monoMsNow) - began
    IO.eprintln (text ++ " in " ++ toString spent ++ "ms")

end Workflow.Program

open Workflow in
/-- Does what the words of a line ask for. -/
def main (words : List String) : IO UInt32 := do
  let began ← IO.monoMsNow
  match Command.ofWords words with
  | none =>
    Command.usage.forM (IO.eprintln ·)
    return 2
  | some command =>
    let ending ← command.plan.run Program.readText Program.writeText
    ending.printed.forM (IO.println ·)
    ending.remarks.forM (Program.remark began)
    return if ending.failed then 1 else 0
