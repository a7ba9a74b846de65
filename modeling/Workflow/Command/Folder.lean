import Workflow.Command.Path
import Workflow.Command.Plan

/-!
# Folders in memory

A folder of text files in which a plan can be carried out without a disk. A path is walked part
by part, from the folder itself or, if it starts with a slash, from the root; the first part
that cannot be entered ends the walk, whatever follows it:

* a file cannot be entered, not even by a single dot or by a slash at the end;
* nor can what does not exist;
* a name has at most 255 bytes and a path at most 4095, whether or not they exist.

Two dots lead out of the folder. Nothing is known of what lies outside but its folders and the
null device: no other file is found there, and what is written there is not seen again.
-/

namespace Workflow

/-- The files of a folder: the path of each from the folder, and its text. -/
abbrev Folder := List (String × String)

namespace Folder

/-- How many bytes a name may have. -/
def maxName : Nat := 255

/-- How many bytes a path may have. -/
def maxPath : Nat := 4095

/-- A file outside that is always empty. -/
def nullDevice : String := "/dev/null"

/-- Where a path leads. -/
inductive Place where
  /-- To a folder, by the names that lead to it. -/
  | folder (names : List String)
  /-- To a folder outside. -/
  | outside
  /-- To a file. -/
  | file (path text : String)
  /-- To nothing yet, in a folder; inside, with the path that a new file has there. -/
  | vacant (path? : Option String)
  deriving DecidableEq

/-- The path that these names make up. -/
def joined (names : List String) : String :=
  "/".intercalate names

/-- Whether these names lead to a folder: to the folder itself or one on the way to a file. -/
def isFolder (f : Folder) (names : List String) : Bool :=
  names.isEmpty || f.any fun file => (joined names ++ "/").toList.isPrefixOf file.1.toList

/-- What a name stands for in the folder that `names` lead to. -/
def named (f : Folder) (names : List String) (name : String) : Place :=
  let path := joined (names ++ [name])
  match f.lookup path with
  | some text => .file path text
  | none => if f.isFolder (names ++ [name]) then .folder (names ++ [name]) else .vacant path

/-- Whether a part of a path is made of dots that name no entry of a folder. -/
def isDots (part : List Char) : Bool :=
  part = ['.'] || part = ['.', '.']

/-- Follows one part of a path. -/
def enter (f : Folder) (place : Place) (part : List Char) : Except FileFault Place :=
  let name := String.ofList part
  match place with
  | .file .. => .error .notFolder
  | .vacant _ => .error .missing
  | .folder names =>
    if part = ['.', '.'] then .ok (if names.isEmpty then .outside else .folder names.dropLast)
    else if !Path.leads part then .ok place
    else if maxName < name.utf8ByteSize then .error .nameTooLong
    else .ok (f.named names name)
  | .outside =>
    if isDots part || !Path.leads part then .ok place
    else if maxName < name.utf8ByteSize then .error .nameTooLong
    else .ok (.vacant none)

/-- Follows the parts of a path. -/
def walk (f : Folder) (place : Place) (parts : List (List Char)) : Except FileFault Place :=
  parts.foldlM f.enter place

/-- Where the walk along a path starts, unless the path leads nowhere by its length alone. -/
def start (path : String) : Except FileFault Place :=
  if path.isEmpty then .error .missing
  else if maxPath < path.utf8ByteSize then .error .nameTooLong
  else if path.toList.head? = some '/' then .ok .outside
  else .ok (.folder [])

/-- The text of the file that a path leads to. -/
def read (f : Folder) (path : String) : Except FileFault String := do
  if path = nullDevice then return ""
  match ← f.walk (← start path) (Path.parts path.toList) with
  | .file _ text => return text
  | .vacant _ => .error .missing
  | .folder _ | .outside => .error .isFolder

/-- The folder after a text has been written to the file that a path leads to, or would lead to
if it was there. The folder above the file has to exist. A slash at the end is taken for a
folder's without a look at what stands before it. -/
def write (f : Folder) (path contents : String) : Except FileFault Folder := do
  if path = nullDevice then return f
  let origin ← start path
  let parts := Path.parts path.toList
  let backwards := parts.reverse.dropWhile List.isEmpty
  let last := backwards.headD []
  -- the empty part behind the others can be followed in a folder only
  let above ← f.walk origin (backwards.tail.reverse ++ [[]])
  if parts.getLast? = some [] ∨ isDots last then .error .isFolder
  match ← f.enter above last with
  | .file path _ | .vacant (some path) => return f.filter (·.1 ≠ path) ++ [(path, contents)]
  | .vacant none => return f
  | .folder _ | .outside => .error .isFolder

/-- Carries a plan out in a folder: how it ends, and the folder after it. -/
def carryOut (f : Folder) (plan : Plan) : Ending × Folder :=
  let write (path contents : String) : StateM Folder (Except FileFault Unit) := do
    match (← get).write path contents with
    | .ok g => set g; return .ok ()
    | .error fault => return .error fault
  (plan.run (fun path => return (← get).read path) write).run f

end Folder

end Workflow
