import Workflow.Category

/-!
# Templates

The description of a node type: its place in the catalogue, the fields of its configuration,
the outputs it has at run time, and the configuration a new node starts with.
-/

namespace Workflow

open Json

/-! ### Fields -/

/-- How a field is edited, and with that the shape of its value. -/
inductive FieldKind where
  | text
  | textarea
  | number
  | boolean
  | password
  /-- One of the `options`. -/
  | select (options : List String)
  /-- A list of form fields that the user defines. -/
  | formBuilder
  /-- A list of rules. -/
  | validationBuilder
  /-- Any value. -/
  | json
  deriving DecidableEq, Repr

/-- What a message says a field of this kind should hold. -/
def FieldKind.expected : FieldKind → String
  | text | textarea | password => "a string"
  | number => "a number"
  | boolean => "a boolean"
  | select options => "one of [" ++ ", ".intercalate options ++ "]"
  | formBuilder => "a list of form field objects"
  | validationBuilder => "a list of validation rule objects"
  | json => "any JSON value"

/-- Shows a field only while the field named `field` holds `value`, or one of its items if
`value` is an array. -/
structure VisibleWhen where
  /-- The name of the deciding field. -/
  field : String
  /-- The value, or the list of values, it must hold. -/
  value : Value

/-- One field of a configuration. -/
structure ConfigField where
  /-- The key in the configuration. -/
  name : String
  /-- The label shown to the user. -/
  label : String
  /-- The shape of its value. -/
  kind : FieldKind
  /-- Whether a visible field must have a value. -/
  required : Bool := false
  /-- The value a new node starts with. -/
  default : Option Value := none
  /-- A hint shown in the empty field. -/
  placeholder : Option String := none
  /-- Whether a reference to another node may stand in place of the value. -/
  supportsExpressions : Bool := false
  /-- When the field is shown; without a rule it always is. -/
  visibleWhen : Option VisibleWhen := none

namespace ConfigField

/-- A line of text. -/
def text (name label : String) : ConfigField := { name, label, kind := .text }

/-- Text of several lines. -/
def textarea (name label : String) : ConfigField := { name, label, kind := .textarea }

/-- A number. -/
def number (name label : String) : ConfigField := { name, label, kind := .number }

/-- A truth value. -/
def boolean (name label : String) : ConfigField := { name, label, kind := .boolean }

/-- A text that is not shown. -/
def password (name label : String) : ConfigField := { name, label, kind := .password }

/-- One of several options. -/
def select (name label : String) (options : List String) : ConfigField :=
  { name, label, kind := .select options }

/-- A form that the user puts together. -/
def formBuilder (name label : String) : ConfigField := { name, label, kind := .formBuilder }

/-- A list of rules. -/
def validationBuilder (name label : String) : ConfigField :=
  { name, label, kind := .validationBuilder }

/-- Any value. -/
def json (name label : String) : ConfigField := { name, label, kind := .json }

/-- The field must have a value while it is visible. -/
def mandatory (f : ConfigField) : ConfigField := { f with required := true }

/-- A new node starts with this value. -/
def initially (f : ConfigField) (value : Value) : ConfigField := { f with default := some value }

/-- The empty field shows this hint. -/
def hint (f : ConfigField) (placeholder : String) : ConfigField :=
  { f with placeholder := some placeholder }

/-- A reference may stand in place of the value. -/
def interpolated (f : ConfigField) : ConfigField := { f with supportsExpressions := true }

/-- The field is shown only while another one holds a value. -/
def shownWhen (f : ConfigField) (field : String) (value : Value) : ConfigField :=
  { f with visibleWhen := some { field, value } }

end ConfigField

/-! ### Outputs -/

/-- The shape of an output. -/
inductive OutputType where
  | string
  | number
  | boolean
  | object
  | array
  | any
  deriving DecidableEq, Repr

/-- The name an output type is written by. -/
def OutputType.name : OutputType → String
  | string => "string"
  | number => "number"
  | boolean => "boolean"
  | object => "object"
  | array => "array"
  | any => "any"

/-- The output types in their fixed order. -/
def OutputType.all : List OutputType :=
  [string, number, boolean, object, array, any]

/-- A value that a node produces at run time. -/
structure OutputField where
  /-- The name it is referred to by. -/
  name : String
  /-- Its shape. -/
  type : OutputType
  /-- What it is. -/
  description : String
  /-- A value it might have. -/
  example? : Option Value := none

namespace OutputField

/-- An output without an example. -/
def output (name : String) (type : OutputType) (description : String) : OutputField :=
  { name, type, description }

/-- The output with an example. -/
def showing (o : OutputField) (value : Value) : OutputField := { o with example? := some value }

end OutputField

/-! ### Templates -/

/-- The description of one node type. -/
structure Template where
  /-- The type, such as `control.if`. -/
  type : String
  /-- The category. -/
  category : Category
  /-- The name shown to the user. -/
  label : String
  /-- What a node of this type does. -/
  description : String
  /-- The fields of the configuration, in the order they are shown. -/
  fields : List ConfigField
  /-- The outputs, if any are declared. -/
  outputs : Option (List OutputField)
  /-- The configuration a new node starts with. -/
  defaultConfig : Fields

namespace Template

/-- The configuration that holds the defaults of the fields. -/
def seeded (fields : List ConfigField) : Fields :=
  Fields.ofEntries (fields.filterMap fun f => f.default.map fun value => (f.name, value))

/-- A template whose starting configuration holds the defaults of its fields. -/
def make (type : String) (category : Category) (label description : String)
    (fields : List ConfigField) (outputs : Option (List OutputField)) : Template :=
  { type, category, label, description, fields, outputs, defaultConfig := seeded fields }

/-- The template with one more entry in the starting configuration. -/
def withDefault (t : Template) (key : String) (value : Value) : Template :=
  { t with defaultConfig := Fields.insert key value t.defaultConfig }

/-- The first field with this name. -/
def field? (t : Template) (name : String) : Option ConfigField :=
  t.fields.find? (·.name == name)

/-- The outputs; none if none are declared. -/
def outputList (t : Template) : List OutputField :=
  t.outputs.getD []

end Template

end Workflow
