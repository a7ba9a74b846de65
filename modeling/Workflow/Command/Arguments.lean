/-!
# Arguments

How the words of a command line are read. A word is an operand unless it starts with a hyphen
and goes on. An option has a long name, which two hyphens introduce, and may have a short one,
which one hyphen introduces. The value of an option is the word behind it, or stands in the
same word: behind an equals sign, and behind a short name also without one. A word behind an
option is not taken for its value if it looks like an option itself. Everything behind two
hyphens alone is an operand.

An option that is unknown, comes twice, lacks its value or has one it does not take makes the
whole line unreadable.

## Main results

* `read_separator`: behind two hyphens every word is an operand.
-/

namespace Workflow.Arguments

/-- An option. -/
structure Switch where
  /-- The long name. -/
  long : String
  /-- The short name, if it has one. -/
  short? : Option Char := none
  /-- Whether a value belongs to it. -/
  takesValue : Bool := true
  deriving DecidableEq

/-- What a line has given so far. -/
structure Given where
  /-- The operands in order. -/
  operands : List String := []
  /-- The long names of the options that were given, with their values. -/
  settings : List (String × String) := []
  deriving DecidableEq

namespace Given

/-- The value of an option, if it was given. -/
def value? (g : Given) (long : String) : Option String :=
  g.settings.lookup long

/-- One more operand. -/
def push (g : Given) (operand : String) : Given :=
  { g with operands := g.operands ++ [operand] }

/-- One more option, unless it was given before. -/
def set? (g : Given) (long value : String) : Option Given :=
  if (g.value? long).isSome then none
  else some { g with settings := g.settings ++ [(long, value)] }

end Given

/-! ### Words -/

/-- What a word looks like. -/
inductive Word where
  /-- No option. -/
  | operand (text : String)
  /-- Two hyphens alone. -/
  | separator
  /-- A long name, perhaps with a value. -/
  | long (name : String) (value? : Option String)
  /-- A short name, and what follows it in the word. -/
  | short (name : Char) (rest : List Char)
  deriving DecidableEq

/-- What follows the first equals sign. -/
def attached? (cs : List Char) : Option String :=
  match cs.dropWhile (· ≠ '=') with
  | [] => none
  | _ :: value => some (String.ofList value)

/-- What a word looks like. -/
def Word.ofText (text : String) : Word :=
  match text.toList with
  | ['-', '-'] => .separator
  | '-' :: '-' :: cs => .long (String.ofList (cs.takeWhile (· ≠ '='))) (attached? cs)
  | '-' :: c :: cs => .short c cs
  | _ => .operand text

/-- The value that a short option has in its own word. -/
def shortValue? : List Char → Option String
  | [] => none
  | '=' :: cs => some (String.ofList cs)
  | cs => some (String.ofList cs)

/-- The word behind an option as its value. -/
def nextValue? (text : String) : Option String :=
  match Word.ofText text with
  | .operand value => some value
  | _ => none

/-- The option that a word names, and the value it has in the same word. -/
def Word.switch? (switches : List Switch) : Word → Option (Switch × Option String)
  | .long name value? => (switches.find? (·.long == name)).map (·, value?)
  | .short name rest => (switches.find? (·.short? == some name)).map (·, shortValue? rest)
  | _ => none

/-! ### Lines -/

/-- Reads words one after the other. -/
def readFrom (switches : List Switch) : List String → Given → Option Given
  | [], g => some g
  | text :: rest, g =>
    match Word.ofText text with
    | .operand value => readFrom switches rest (g.push value)
    | .separator => some { g with operands := g.operands ++ rest }
    | word =>
      match word.switch? switches with
      | none => none
      | some (s, some value) =>
        if s.takesValue then (g.set? s.long value).bind (readFrom switches rest) else none
      | some (s, none) =>
        if s.takesValue then
          match rest with
          | [] => none
          | next :: others =>
            (nextValue? next).bind fun value =>
              (g.set? s.long value).bind (readFrom switches others)
        else (g.set? s.long "").bind (readFrom switches rest)

/-- Reads the words of a line. -/
def read (switches : List Switch) (words : List String) : Option Given :=
  readFrom switches words {}

/-- Behind two hyphens every word is an operand. -/
theorem read_separator (switches : List Switch) (words : List String) :
    read switches ("--" :: words) = some ⟨words, []⟩ := by
  have word : Word.ofText "--" = .separator := by decide
  simp [read, readFrom, word]

end Workflow.Arguments
