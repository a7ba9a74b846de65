import Workflow.Json.Decoder

/-!
# Categories

The fifteen groups that node types fall into. A category is written by its name.

## Main results

* `ofName?_name`, `ofName?_eq_some_iff`: names and categories determine each other.
-/

namespace Workflow

open Json

/-- The group of a node type. -/
inductive Category where
  | trigger
  | web
  | desktop
  | files
  | excel
  | email
  | api
  | database
  | document
  | ai
  | python
  | control
  | logging
  | security
  | human
  deriving DecidableEq, Repr

namespace Category

/-- The categories in their fixed order. -/
def all : List Category :=
  [trigger, web, desktop, files, excel, email, api, database, document, ai, python, control,
    logging, security, human]

/-- The name a category is written by. -/
def name : Category → String
  | trigger => "trigger"
  | web => "web"
  | desktop => "desktop"
  | files => "files"
  | excel => "excel"
  | email => "email"
  | api => "api"
  | database => "database"
  | document => "document"
  | ai => "ai"
  | python => "python"
  | control => "control"
  | logging => "logging"
  | security => "security"
  | human => "human"

/-- The category with this name. -/
def ofName? (name : String) : Option Category :=
  all.find? (·.name == name)

/-- Why a text names no category. -/
def unknownMessage (name : String) : String :=
  "unknown node category '" ++ name ++ "'"

/-- Every category is found by its name. -/
theorem ofName?_name (c : Category) : ofName? c.name = some c := by
  cases c <;> rfl

/-- A text is the name of the category it is found by. -/
theorem ofName?_eq_some_iff (name : String) (c : Category) :
    ofName? name = some c ↔ c.name = name := by
  constructor
  · intro h
    have found := List.find?_some h
    simpa using found
  · rintro rfl
    exact ofName?_name c

/-- Reads a category. -/
def decoder : Decoder Category :=
  Decoder.oneOf (all.map fun c => (c.name, c))

/-- Writes a category. -/
def toValue (c : Category) : Value :=
  .str c.name

end Category

end Workflow
