/-!
# File names

The stem of a path: the name of the file it leads to, without its extension. Empty parts and
single dots in a path lead nowhere; a path that ends with two dots, or leads nowhere at all,
names no file. An extension starts at the last dot of a name, unless nothing stands before it.
-/

namespace Workflow.Path

/-- The parts of a path between the slashes. -/
def parts : List Char → List (List Char)
  | [] => [[]]
  | c :: cs =>
    match parts cs with
    | [] => [[c]]
    | part :: rest => if c = '/' then [] :: part :: rest else (c :: part) :: rest

/-- Whether a part of a path leads somewhere. -/
def leads (part : List Char) : Bool :=
  part ≠ [] && part ≠ ['.']

/-- The name of the file that a path leads to. -/
def fileName? (path : String) : Option (List Char) :=
  (((parts path.toList).filter leads).getLast?).filter (· ≠ ['.', '.'])

/-- A name without its extension. -/
def stemOf (name : List Char) : List Char :=
  match (name.reverse.dropWhile (· ≠ '.')).drop 1 with
  | [] => name
  | before => before.reverse

/-- The stem of a path. -/
def stem? (path : String) : Option String :=
  (fileName? path).map fun name => String.ofList (stemOf name)

end Workflow.Path
