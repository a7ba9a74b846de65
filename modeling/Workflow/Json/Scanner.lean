import Workflow.Json.Scanned
import Workflow.Json.Numeral
import Workflow.Json.StringLiteral

/-!
# Scanning JSON

From a text to its scanned tree. Containers nest at most 127 deep for a reader; deeper ones
are only skipped, by a walk that keeps the open brackets in a list.

The scan is bounded by a count that is taken once from the length of the text: each step
consumes a character or goes from a container to its first item, so the count never runs out
before the text does.

## Main results

* `dropBlank_cons`: white space between tokens is no part of any value.
-/

namespace Workflow.Json

/-- How deep arrays and objects may nest for a reader. -/
def maxNesting : Nat := 127

/-- White space between the tokens of a text. -/
def isSpace (c : Char) : Bool :=
  c == ' ' || c == '\n' || c == '\t' || c == '\r'

/-- The text without white space in front. -/
def dropBlank (cs : List Char) : List Char :=
  cs.dropWhile isSpace

/-- White space in front of a text does not count. -/
theorem dropBlank_cons (c : Char) (cs : List Char) (h : isSpace c = true) :
    dropBlank (c :: cs) = dropBlank cs := by
  simp [dropBlank, List.dropWhile, h]

/-- The fault of a text that goes on in a way it should not, or not at all. -/
def unexpected : List Char → Fault
  | [] => .truncated
  | _ => .malformed

/-- The rest of a literal name. -/
def literal : List Char → List Char → Except Fault (List Char)
  | [], cs => .ok cs
  | _ :: _, [] => .error .truncated
  | w :: ws, c :: cs => if w = c then literal ws cs else .error .malformed

/-! ### Values that nobody reads -/

/-- What a skipping walk expects next. -/
inductive Expect where
  /-- A value. -/
  | value
  /-- A key with its colon, and then its value. -/
  | key
  /-- A comma or a closing bracket, or the end of the walk. -/
  | next

/-- The bracket that closes a container. -/
def Bracket.closing : Bracket → Char
  | .square => ']'
  | .curly => '\x7d'

/-- What the entries of a container start with. -/
def Bracket.entry : Bracket → Expect
  | .square => .value
  | .curly => .key

/-- What follows a value that has no parts. -/
def skipAtom (cs : List Char) : Except Fault (List Char) :=
  match cs with
  | [] => .error .truncated
  | 'n' :: cs => literal ['u', 'l', 'l'] cs
  | 't' :: cs => literal ['r', 'u', 'e'] cs
  | 'f' :: cs => literal ['a', 'l', 's', 'e'] cs
  | '"' :: cs => StringLiteral.skip cs
  | c :: cs =>
    if c = '-' ∨ c.isDigit then
      match Numeral.scan (c :: cs) with
      | .ok (_, rest) => .ok rest
      | .error (_, onSkip) => .error onSkip
    else .error .malformed

/-- Skips what is expected and then whatever the open brackets still need. -/
def skip : Nat → Expect → List Bracket → List Char → Except Fault (List Char)
  | 0, _, _, _ => .error .malformed
  | fuel + 1, .value, stack, cs =>
    let enter (bracket : Bracket) (cs : List Char) :=
      match dropBlank cs with
      | [] => Except.error Fault.truncated
      | c :: rest =>
        if c = bracket.closing then skip fuel .next stack rest
        else skip fuel bracket.entry (bracket :: stack) (c :: rest)
    match dropBlank cs with
    | '[' :: rest => enter .square rest
    | '\x7b' :: rest => enter .curly rest
    | cs =>
      match skipAtom cs with
      | .ok rest => skip fuel .next stack rest
      | .error fault => .error fault
  | fuel + 1, .key, stack, cs =>
    match dropBlank cs with
    | '"' :: cs =>
      match StringLiteral.skip cs with
      | .error fault => .error fault
      | .ok rest =>
        match dropBlank rest with
        | ':' :: rest => skip fuel .value stack rest
        | rest => .error (unexpected rest)
    | cs => .error (unexpected cs)
  | _ + 1, .next, [], cs => .ok cs
  | fuel + 1, .next, bracket :: stack, cs =>
    match dropBlank cs with
    | [] => .error .truncated
    | c :: rest =>
      if c = ',' then skip fuel bracket.entry (bracket :: stack) rest
      else if c = bracket.closing then skip fuel .next stack rest
      else .error .malformed

/-- What follows a container whose opening bracket has been taken. -/
def skipContainer (fuel : Nat) (bracket : Bracket) (cs : List Char) : Except Fault (List Char) :=
  match dropBlank cs with
  | [] => .error .truncated
  | c :: rest =>
    if c = bracket.closing then .ok rest else skip fuel bracket.entry [bracket] (c :: rest)

/-! ### Values that may be read -/

/-- A scanned part of a text, and what follows it unless nothing can follow. -/
abbrev Step (α : Type) := α × Option (List Char)

/-- A string, after its opening quote. -/
def quoted (cs : List Char) : Step Scanned :=
  match StringLiteral.read cs, StringLiteral.skip cs with
  | .ok s, .ok rest => (.str s, some rest)
  | .error onRead, .ok rest => (.broken .text onRead none, some rest)
  | .ok _, .error onSkip => (.broken .text onSkip (some onSkip), none)
  | .error onRead, .error onSkip => (.broken .text onRead (some onSkip), none)

/-- A literal name that stands for `s`; a text that fails to spell it out starts like
`start`. -/
def named (start : Fragment) (s : Scanned) (name cs : List Char) : Step Scanned :=
  match literal name cs with
  | .ok rest => (s, some rest)
  | .error fault => (.broken start fault (some fault), none)

/-- A number. -/
def number (cs : List Char) : Step Scanned :=
  match Numeral.scan cs with
  | .error (onRead, onSkip) => (.broken .scalar onRead (some onSkip), none)
  | .ok (n, rest) =>
    match n.value? with
    | some v => (.num v, some rest)
    | none => (.broken .scalar .malformed none, some rest)

/-- A container below the nesting limit. -/
def tooDeep (fuel : Nat) (bracket : Bracket) (cs : List Char) : Step Scanned :=
  match skipContainer fuel bracket cs with
  | .ok rest => (.deep bracket none, some rest)
  | .error fault => (.deep bracket (some fault), none)

/-- A place where a value should stand and none does. -/
def noValue (cs : List Char) : Step Scanned :=
  (.broken .nothing (unexpected cs) (some (unexpected cs)), none)

/-- A place where a key should stand and none does. -/
def noKey (cs : List Char) : Key :=
  ⟨.error (unexpected cs), some (unexpected cs)⟩

/-- A key, after its opening quote. -/
def scanKey (cs : List Char) : Step Key :=
  match StringLiteral.skip cs with
  | .ok rest => (⟨StringLiteral.read cs, none⟩, some rest)
  | .error fault => (⟨StringLiteral.read cs, some fault⟩, none)

mutual

/-- The value at the front of a text, inside `depth` containers. -/
def scanValue : Nat → Nat → List Char → Step Scanned
  | 0, _, _ => (.broken .nothing .malformed (some .malformed), none)
  | fuel + 1, depth, cs =>
    match dropBlank cs with
    | 'n' :: cs => named .null .null ['u', 'l', 'l'] cs
    | 't' :: cs => named .scalar (.bool true) ['r', 'u', 'e'] cs
    | 'f' :: cs => named .scalar (.bool false) ['a', 'l', 's', 'e'] cs
    | '"' :: cs => quoted cs
    | '[' :: cs =>
      if maxNesting ≤ depth then tooDeep fuel .square cs
      else
        match dropBlank cs with
        | [] => (.arr [] (some .truncated), none)
        | ']' :: rest => (.arr [] none, some rest)
        | cs =>
          match scanItems fuel (depth + 1) cs with
          | ((items, unclosed), rest) => (.arr items unclosed, rest)
    | '\x7b' :: cs =>
      if maxNesting ≤ depth then tooDeep fuel .curly cs
      else
        match dropBlank cs with
        | [] => (.obj [] (some .truncated), none)
        | '\x7d' :: rest => (.obj [] none, some rest)
        | cs =>
          match scanFields fuel (depth + 1) cs with
          | ((fields, unclosed), rest) => (.obj fields unclosed, rest)
    | c :: cs => if c = '-' ∨ c.isDigit then number (c :: cs) else noValue (c :: cs)
    | [] => noValue []

/-- One item and all that follow it, up to the end of the array. -/
def scanItems : Nat → Nat → List Char → Step (List Scanned × Option Fault)
  | 0, _, _ => (([], some .malformed), none)
  | fuel + 1, depth, cs =>
    match scanValue fuel depth cs with
    | (item, none) => (([item], none), none)
    | (item, some rest) =>
      match dropBlank rest with
      | ',' :: rest =>
        match scanItems fuel depth rest with
        | ((items, unclosed), rest) => ((item :: items, unclosed), rest)
      | ']' :: rest => (([item], none), some rest)
      | rest => (([item], some (unexpected rest)), none)

/-- One entry and all that follow it, up to the end of the object. -/
def scanFields : Nat → Nat → List Char → Step (List (Key × Scanned) × Option Fault)
  | 0, _, _ => (([], some .malformed), none)
  | fuel + 1, depth, cs =>
    match dropBlank cs with
    | '"' :: cs =>
      match scanKey cs with
      | (key, none) => (([(key, .null)], none), none)
      | (key, some rest) =>
        match dropBlank rest with
        | ':' :: rest =>
          match scanValue fuel depth rest with
          | (v, none) => (([(key, v)], none), none)
          | (v, some rest) =>
            match dropBlank rest with
            | ',' :: rest =>
              match scanFields fuel depth rest with
              | ((fields, unclosed), rest) => (((key, v) :: fields, unclosed), rest)
            | '\x7d' :: rest => (([(key, v)], none), some rest)
            | rest => (([(key, v)], some (unexpected rest)), none)
        | rest => (([(key, (noValue rest).1)], none), none)
    | cs => (([(noKey cs, .null)], none), none)

end

/-- A whole text: its value, and the fault of what stands after it. -/
structure Page where
  /-- The value. -/
  root : Scanned
  /-- Whether something but white space follows. -/
  trailing : Bool

/-- Scans a whole text. -/
def scan (text : String) : Page :=
  let cs := text.toList
  match scanValue (2 * cs.length + 2) 0 cs with
  | (root, none) => { root, trailing := false }
  | (root, some rest) => { root, trailing := !(dropBlank rest).isEmpty }

/-- The page of a value in memory. -/
def Page.ofValue (v : Value) : Page :=
  { root := Scanned.ofValue v, trailing := false }

end Workflow.Json
