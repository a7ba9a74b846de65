/-!
# Plans

What a command does, as a value: which file it reads, which one it writes, and how it ends.
How files are really read and written is left to whoever carries the plan out.

## Main results

* `run_reading_error`: a file that cannot be read ends a plan, whatever it would have done.
-/

namespace Workflow

/-- Why a file could not be read or written. -/
inductive FileFault where
  /-- There is no such file, or no such folder to write it to. -/
  | missing
  /-- It is not allowed. -/
  | denied
  /-- A part of the path is no folder. -/
  | notFolder
  /-- The path is that of a folder. -/
  | isFolder
  /-- The path is too long, or a name in it. -/
  | nameTooLong
  /-- The file holds no text. -/
  | notText
  /-- Anything else. -/
  | other (message : String)
  deriving DecidableEq

/-- The wording of a file fault. -/
def FileFault.message : FileFault → String
  | missing => "No such file or directory (os error 2)"
  | denied => "Permission denied (os error 13)"
  | notFolder => "Not a directory (os error 20)"
  | isFolder => "Is a directory (os error 21)"
  | nameTooLong => "File name too long (os error 36)"
  | notText => "stream did not contain valid UTF-8"
  | other message => message

/-- A remark for the user beside what a command prints. -/
inductive Remark where
  /-- A line. -/
  | line (text : String)
  /-- A line to which the time that was needed is added. -/
  | timed (text : String)
  deriving DecidableEq

/-- How a command ends. -/
structure Ending where
  /-- The lines it prints. -/
  printed : List String := []
  /-- What it remarks. -/
  remarks : List Remark := []
  /-- Whether it has failed. -/
  failed : Bool := false
  deriving DecidableEq

/-- What a command does. -/
inductive Plan where
  /-- It reads the text of a file and goes on. -/
  | read (path : String) (next : Except FileFault String → Plan)
  /-- It writes a text to a file and goes on. -/
  | write (path contents : String) (next : Except FileFault Unit → Plan)
  /-- It ends. -/
  | done (ending : Ending)

namespace Plan

/-- Carries a plan out, given how files are read and written. -/
def run {m : Type → Type} [Monad m] (read : String → m (Except FileFault String))
    (write : String → String → m (Except FileFault Unit)) : Plan → m Ending
  | .read path next => do (next (← read path)).run read write
  | .write path contents next => do (next (← write path contents)).run read write
  | .done ending => pure ending

/-- Ends with an error. -/
def fail (message : String) : Plan :=
  .done { remarks := [.line "", .line ("Error: " ++ message)], failed := true }

/-- Reads a file; a file that cannot be read is an error. -/
def reading (path : String) (next : String → Plan) : Plan :=
  .read path fun
    | .ok text => next text
    | .error fault => fail ("Failed to read '" ++ path ++ "': " ++ fault.message)

/-- A file that cannot be read ends a plan, whatever it would have done. -/
theorem run_reading_error {m : Type → Type} [Monad m] [LawfulMonad m]
    {read : String → m (Except FileFault String)}
    {write : String → String → m (Except FileFault Unit)} {path : String} {fault : FileFault}
    (unreadable : read path = pure (.error fault)) (next : String → Plan) :
    (reading path next).run read write =
      (fail ("Failed to read '" ++ path ++ "': " ++ fault.message)).run read write := by
  simp [reading, run, unreadable]

/-- Writes a text to a file if one is named, else prints it, and ends with a remark. -/
def delivering (out? : Option String) (contents : String) (remark : Remark) : Plan :=
  match out? with
  | none => .done { printed := [contents], remarks := [remark] }
  | some path =>
    .write path contents fun
      | .ok _ => .done { remarks := [remark] }
      | .error fault => fail ("Failed to write '" ++ path ++ "': " ++ fault.message)

end Plan

end Workflow
