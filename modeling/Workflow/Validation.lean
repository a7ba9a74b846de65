import Workflow.Registry
import Workflow.Text.Blank
import Workflow.Node

/-!
# Validating configurations

A configuration is checked field by field against the schema of its template. A field that is
hidden is not looked at, a key that the schema does not declare is ignored, and a value that
is empty counts as absent.
-/

namespace Workflow

open Json

/-! ### Issues -/

/-- A problem with one field of a configuration. -/
inductive FieldIssue where
  /-- A required field has no value. -/
  | missing (field : String)
  /-- A value has the wrong shape. -/
  | wrongShape (field expected actual : String)
  deriving DecidableEq

/-- The field an issue is about. -/
def FieldIssue.field : FieldIssue → String
  | missing field => field
  | wrongShape field _ _ => field

/-- The wording of an issue. -/
def FieldIssue.message : FieldIssue → String
  | missing field => "Required field '" ++ field ++ "' is missing or empty"
  | wrongShape field expected actual =>
    "Field '" ++ field ++ "' expected " ++ expected ++ ", but found " ++ actual

/-! ### Values -/

/-- `null`, blank texts and empty arrays count as no value. -/
def isEmptyValue : Value → Bool
  | .null => true
  | .str s => Text.isBlank s
  | .arr items => items.isEmpty
  | _ => false

/-- Whether a text holds the mark with which a reference starts. -/
def holdsReferenceMark : List Char → Bool
  | '$' :: '\x7b' :: _ => true
  | _ :: rest => holdsReferenceMark rest
  | [] => false

/-- Whether a value is a text with a reference in it. -/
def isExpression : Value → Bool
  | .str s => holdsReferenceMark s.toList
  | _ => false

/-- What a message calls a value. -/
def kindWords : Value → String
  | .null => "null"
  | .bool _ => "a boolean"
  | .num _ => "a number"
  | .str _ => "a string"
  | .arr _ => "an array"
  | .obj _ => "an object"

/-- Whether a value is a text. -/
def isText : Value → Bool
  | .str _ => true
  | _ => false

/-- Whether a value is a number. -/
def isNumber : Value → Bool
  | .num _ => true
  | _ => false

/-- Whether a value is a truth value. -/
def isBoolean : Value → Bool
  | .bool _ => true
  | _ => false

/-- Whether a value is one of the options. -/
def isOption (options : List String) : Value → Bool
  | .str s => options.contains s
  | _ => false

/-- Whether a value is an array of objects. -/
def isObjectList : Value → Bool
  | .arr items => items.all Value.isObject
  | _ => false

/-- Whether a value has the shape that a field of this kind wants, references apart. -/
def FieldKind.fits : FieldKind → Value → Bool
  | text, v | textarea, v | password, v => isText v
  | number, v => isNumber v
  | boolean, v => isBoolean v
  | select options, v => isOption options v
  | formBuilder, v | validationBuilder, v => isObjectList v
  | json, _ => true

/-- Whether a reference may stand in place of a value of this kind. A text may hold one
anyway; lists of objects may not be replaced. -/
def FieldKind.replaceable : FieldKind → Bool
  | number | boolean | select _ => true
  | _ => false

/-- What a message says was found. For a choice the text itself is shown. -/
def FieldKind.actual : FieldKind → Value → String
  | select _, .str s => "'" ++ s ++ "'"
  | _, v => kindWords v

/-! ### Fields -/

/-- Whether a field is shown. The deciding field falls back to its default when the
configuration has no value for it. -/
def Template.isVisible (t : Template) (config : Fields) (f : ConfigField) : Bool :=
  match f.visibleWhen with
  | none => true
  | some rule =>
    match (config.get? rule.field).or ((t.field? rule.field).bind (·.default)) with
    | none => false
    | some held =>
      -- an array lists the values for which the field is shown
      match rule.value with
      | .arr allowed => allowed.any (·.same held)
      | expected => expected.same held

/-- The issue of a value under a field that is shown. -/
def ConfigField.shapeIssue? (f : ConfigField) (v : Value) : Option FieldIssue :=
  if f.kind.fits v || (f.supportsExpressions && f.kind.replaceable && isExpression v) then none
  else some (.wrongShape f.name f.kind.expected (f.kind.actual v))

/-- The value of a field, unless it counts as absent. -/
def ConfigField.given? (f : ConfigField) (config : Fields) : Option Value :=
  (config.get? f.name).filter fun v => !isEmptyValue v

/-- The issue of one field, if it has any. -/
def Template.fieldIssue? (t : Template) (config : Fields) (f : ConfigField) : Option FieldIssue :=
  if t.isVisible config f then
    match f.given? config with
    | some v => f.shapeIssue? v
    | none => if f.required then some (.missing f.name) else none
  else none

/-- The issues of a configuration, in the order of the schema. -/
def Template.validate (t : Template) (config : Fields) : List FieldIssue :=
  t.fields.filterMap (t.fieldIssue? config)

/-- The issues of a node under the template of its type. -/
def Registry.validate (r : Registry) (n : Node) : Except RegistryError (List FieldIssue) := do
  let t ← r.lookup n.type
  return t.validate n.config

end Workflow
