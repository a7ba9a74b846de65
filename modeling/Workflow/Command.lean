import Workflow.Command.Arguments
import Workflow.Command.Folder
import Workflow.Command.Path
import Workflow.Command.Plan
import Workflow.Canvas.Codec
import Workflow.Compile
import Workflow.Graph.Codec
import Workflow.Load
import Workflow.Scope

/-!
# The command line

The commands of the program: what the words of a line ask for, and the plan by which it is
answered. All commands work with the built-in node types and the default depth limit.
-/

namespace Workflow

open Arguments (Switch)

/-- What the user asks for. -/
inductive Command where
  /-- Compile a canvas file to a document. -/
  | compile (canvas : String) (out? name? : Option String) (id : String)
  /-- Load a document into a graph, or into a canvas file. -/
  | load (document : String) (out? : Option String) (asCanvas : Bool)
  /-- Check a document. -/
  | check (document : String)
  /-- List what a node may refer to. -/
  | vars (canvas node : String)
  /-- List the node types, perhaps of one category only. -/
  | templates (category? : Option String)
  /-- Tell the version of the program. -/
  | version
  deriving DecidableEq

namespace Command

/-! ### Words -/

/-- Where to write what comes out. -/
def outSwitch : Switch := { long := "out", short? := some 'o' }

/-- The name of the bot. -/
def nameSwitch : Switch := { long := "name" }

/-- The identity of the bot. -/
def idSwitch : Switch := { long := "id" }

/-- Whether a graph is written as a canvas file. -/
def canvasSwitch : Switch := { long := "editor", takesValue := false }

/-- The category that is listed. -/
def categorySwitch : Switch := { long := "category", short? := some 'c' }

/-- The identity of a bot that is given none. -/
def defaultId : String := "bot"

/-- The name of a bot that is given none, when its canvas has no file name either. -/
def defaultName : String := "bot"

/-- The command that the words of a line ask for. Whoever asks for the version first is told it,
whatever else the line says. -/
def ofWords : List String → Option Command
  | "compile" :: words => do
    let g ← Arguments.read [outSwitch, nameSwitch, idSwitch] words
    let [canvas] := g.operands | none
    return compile canvas (g.value? "out") (g.value? "name") ((g.value? "id").getD defaultId)
  | "load" :: words => do
    let g ← Arguments.read [outSwitch, canvasSwitch] words
    let [document] := g.operands | none
    return load document (g.value? "out") (g.value? "editor").isSome
  | "check" :: words => do
    let g ← Arguments.read [] words
    let [document] := g.operands | none
    return check document
  | "vars" :: words => do
    let g ← Arguments.read [] words
    let [canvas, node] := g.operands | none
    return vars canvas node
  | "templates" :: words => do
    let g ← Arguments.read [categorySwitch] words
    let [] := g.operands | none
    return templates (g.value? "category")
  | word :: _ =>
    match Arguments.Word.ofText word with
    | .long "version" none | .short 'V' _ => some version
    | _ => none
  | [] => none

/-- The lines that explain the command line. -/
def usage : List String :=
  ["Usage:",
    "  compile [--out FILE] [--name NAME] [--id ID] CANVAS",
    "  load [--out FILE] [--editor] DOCUMENT",
    "  check DOCUMENT",
    "  vars CANVAS NODE",
    "  templates [--category CATEGORY]",
    "  --version"]

/-! ### Answers -/

/-- A text filled up with spaces to a width. -/
def padded (width : Nat) (text : String) : String :=
  text ++ String.ofList (List.replicate (width - text.length) ' ')

/-- Remarks on errors: a heading with their number, and each on a line. -/
def listed (heading : String) (messages : List String) : List Remark :=
  [.line "", .line (heading ++ ": " ++ Decimal.natText messages.length ++ " error(s)")]
    ++ messages.map fun message => .line ("  - " ++ message)

/-- Ends with errors. -/
def refused (heading : String) (messages : List String) : Plan :=
  .done { remarks := listed heading messages, failed := true }

/-- Reads a canvas file and goes on with its graph. -/
def withGraph (canvas : String) (next : Graph → Plan) : Plan :=
  .reading canvas fun text =>
    match Canvas.parse text with
    | .error fault => .fail ("Failed to parse editor JSON: " ++ Fault.message fault)
    | .ok c =>
      match c.toGraph .builtin with
      | .error e => .fail ("Failed to convert editor document: " ++ e.message)
      | .ok g => next g

/-- The remark on a graph that was compiled. -/
def compiledRemark (g : Graph) (d : Document) : Remark :=
  .timed ("Compiled " ++ Decimal.natText g.nodes.length ++ " node(s) into '" ++ d.bot.name
    ++ "' (" ++ Decimal.natText d.nodes.length ++ " top-level)")

/-- Compiles a graph; without a name the bot is called as the file of its canvas. -/
def compilePlan (canvas : String) (out? name? : Option String) (id : String) : Plan :=
  withGraph canvas fun g =>
    let name := name?.getD ((Path.stem? canvas).getD defaultName)
    match g.compile (.standard { id, name }) with
    | .error errors => refused "Compilation failed" (errors.map (·.message))
    | .ok d => .delivering out? d.print (compiledRemark g d)

/-- Loads a document. -/
def loadPlan (document : String) (out? : Option String) (asCanvas : Bool) : Plan :=
  .reading document fun text =>
    match Document.loadText text .builtin Graph.defaultMaxDepth with
    | .error errors => refused "Load failed" (errors.map (·.message))
    | .ok g =>
      let rendered := if asCanvas then (Canvas.ofGraph g).toValue else g.toValue
      .delivering out? rendered.toPretty
        (.line ("Loaded " ++ Decimal.natText g.nodes.length ++ " node(s) and "
          ++ Decimal.natText g.edges.length ++ " edge(s)"))

/-- The line on a document that passed the check. -/
def validLine (d : Document) (warnings : Nat) : String :=
  "'" ++ d.bot.name ++ "' is valid (" ++ Decimal.natText d.walk.length ++ " node(s), "
    ++ Decimal.natText warnings ++ " warning(s))"

/-- Checks a document. Warnings are printed in any case. -/
def checkPlan (document : String) : Plan :=
  .reading document fun text =>
    match Document.parse text with
    | .error fault => .fail ("Failed to parse document: " ++ Fault.message fault)
    | .ok d =>
      let report := d.check .builtin Graph.defaultMaxDepth
      let warnings := report.warnings.map fun w => "warning: " ++ w.message
      if report.isOk then .done { printed := warnings ++ [validLine d warnings.length] }
      else
        .done
          { printed := warnings
            remarks := listed "Check failed" (report.errors.map (·.message))
            failed := true }

/-- The line on an output that a node may refer to. -/
def offerLine (o : VisibleOutput) : String :=
  padded 40 o.expression ++ " " ++ o.type.name ++ " " ++ o.description

/-- The line on a reference that names no visible output. -/
def unresolvedLine (u : Graph.Unresolved) : String :=
  "unresolved: " ++ u.expression ++ " (in '" ++ u.configKey ++ "')"

/-- Lists what a node may refer to, and the references that name nothing. -/
def varsPlan (canvas node : String) : Plan :=
  withGraph canvas fun g =>
    match g.visibleOutputs .builtin node, g.unresolved .builtin node with
    | .ok offers, .ok unresolved =>
      let offered :=
        if offers.isEmpty then ["No upstream outputs are visible to '" ++ node ++ "'."]
        else offers.map offerLine
      .done { printed := offered ++ unresolved.map unresolvedLine }
    | .error e, _ | _, .error e => .fail e.message

/-- The lines on the node types of a category. -/
def categoryLines (c : Category) : List String :=
  ("[" ++ c.name ++ "]") :: (Registry.builtin.ofCategory c).map fun t =>
    "  " ++ padded 28 t.type ++ " " ++ t.label ++ if isContainer t.type then " (container)" else ""

/-- Lists node types. -/
def templatesPlan : Option String → Plan
  | none => .done { printed := Registry.builtin.categories.flatMap categoryLines }
  | some name =>
    match Category.ofName? name with
    | some c => .done { printed := categoryLines c }
    | none => .fail (Category.unknownMessage name)

/-- The name of the program and its version. -/
def versionLine : String := "botflow 0.1.0"

/-- The plan of a command. -/
def plan : Command → Plan
  | compile canvas out? name? id => compilePlan canvas out? name? id
  | load document out? asCanvas => loadPlan document out? asCanvas
  | check document => checkPlan document
  | vars canvas node => varsPlan canvas node
  | templates category? => templatesPlan category?
  | version => .done { printed := [versionLine] }

end Command

end Workflow
