import Workflow.Template

/-!
# Templates as JSON

How templates are written and read. A field kind is written as an object with the name of the
kind under `kind`, and the options of a choice beside it.

## Main results

* `FieldKind.decode_toValue`: a field kind is read back from what it is written as.
-/

namespace Workflow

open Json

/-! ### Field kinds -/

namespace FieldKind

/-- The name a kind is written by. -/
def name : FieldKind → String
  | text => "text"
  | textarea => "textarea"
  | number => "number"
  | boolean => "boolean"
  | password => "password"
  | select _ => "select"
  | formBuilder => "form-builder"
  | validationBuilder => "validation-builder"
  | json => "json"

/-- Writes a field kind. -/
def toValue : FieldKind → Value
  | select options => .obj [("kind", .str "select"), ("options", .ofTexts options)]
  | k => .obj [("kind", .str k.name)]

/-- The kinds by name; a choice is still without its options. -/
def alternatives : List (String × FieldKind) :=
  [text, textarea, number, boolean, password, select [], formBuilder, validationBuilder, json].map
    fun k => (k.name, k)

/-- Reads the name of a kind. -/
def tag : Decoder FieldKind
  | .str name => Decoder.nameOf alternatives name
  | s => Decoder.refuse "variant identifier" s

/-- What messages call a choice without its options. -/
def selectTitle : String := "struct variant FieldType::Select"

/-- Reads the options of a choice from the entries beside its name. -/
def options (rest : List (String × Value)) : Except Fault FieldKind :=
  ((Record.required "options" (Decoder.list Decoder.text)).map FieldKind.select).read selectTitle
    (Scanned.plain rest)

/-- Reads the options of a choice from what follows its name in an array. -/
def listedOptions : List Value → Except Fault FieldKind
  | [] => .error (.mismatch (.wrongLength 0 (selectTitle ++ " with 1 element")))
  | v :: more => do
    let found ← ofValue (Decoder.list Decoder.text) v
    match more with
    | [] => return select found
    | _ => .error (.mismatch (.wrongLength (more.length + 1) "1 element in sequence"))

/-- Collects the entries of an object: the kind under `kind`, and the others as they are. -/
def collect : List (Key × Scanned) → Option FieldKind → List (String × Value) →
    Except Fault (Option FieldKind × List (String × Value))
  | [], kind, rest => .ok (kind, rest.reverse)
  | (k, s) :: more, kind, rest => do
    let name ← k.read
    if name = "kind" then
      match kind with
      | some _ => .error (.mismatch (.duplicateField "kind"))
      | none =>
        let found ← tag s
        collect more (some found) rest
    else
      let v ← s.value
      collect more kind ((name, v) :: rest)

/-- Reads a kind that is written as an array: its name, and then its parts. -/
def listed : List Scanned → Option Fault → Except Fault FieldKind
  | [], some fault => .error fault
  | [], none => .error (.mismatch (.missingField "kind"))
  | s :: more, unclosed => do
    let kind ← tag s
    let rest ← Scanned.values more
    let rest ← Scanned.close unclosed rest
    match kind, rest with
    | select _, rest => listedOptions rest
    | kind, [] => return kind
    | _, rest => .error (.mismatch (.wrongLength rest.length "0 elements in sequence"))

/-- Reads a field kind. -/
def decoder : Decoder FieldKind
  | .obj fields unclosed => do
    let found ← collect fields none []
    let (kind, rest) ← Scanned.close unclosed found
    match kind with
    | none => .error (.mismatch (.missingField "kind"))
    | some (select _) => options rest
    | some kind => return kind
  | .arr items unclosed => listed items unclosed
  | .deep _ _ => .error .malformed
  | s => Decoder.refuse "internally tagged enum FieldType" s

/-- Texts are read back from an array of them. -/
theorem list_text_ofTexts (texts : List String) :
    ofValue (Decoder.list Decoder.text) (Value.ofTexts texts) = .ok texts :=
  Decoder.list_ofItems texts fun _ _ => rfl

/-- A field kind is read back from what it is written as. -/
theorem decode_toValue (k : FieldKind) : ofValue decoder k.toValue = .ok k := by
  cases k with
  | select texts =>
    have stored : Scanned.value (Scanned.ofValue (Value.ofTexts texts))
        = .ok (Value.ofTexts texts) := by
      apply Scanned.value_ofValue
      have items : ∀ ts : List String, Value.WellKeyedItems (ts.map Value.str) := by
        intro ts
        induction ts with
        | nil => simp [Value.WellKeyedItems]
        | cons t rest ih => simp [Value.WellKeyedItems, Value.WellKeyed, ih]
      simpa [Value.ofTexts, Value.WellKeyed] using items texts
    have read := list_text_ofTexts texts
    simp only [ofValue] at read
    have kindTag : tag (.str "select") = .ok (select []) := rfl
    have found : options [("options", Value.ofTexts texts)] = .ok (select texts) := by
      rw [options, Record.read_ofFields]
      simp [Record.map, Record.required, Record.field, Record.fromNamed, Record.occurrences,
        Scanned.ofFields, Scanned.key, Record.Key.isOneOf, read, Record.settle, Except.map]
    simp [ofValue, toValue, Scanned.ofValue, Scanned.ofFields, decoder, collect, Scanned.key,
      stored, kindTag, found, Scanned.close, bind, Except.bind]
  | _ => rfl

end FieldKind

/-! ### Fields and outputs -/

/-- Reads a visibility rule. -/
def VisibleWhen.decoder : Decoder VisibleWhen :=
  Record.read "struct VisibleWhen"
    (VisibleWhen.mk <$> Record.required "field" Decoder.text
      <*> Record.required "value" Decoder.value)

/-- Writes a visibility rule. -/
def VisibleWhen.toValue (rule : VisibleWhen) : Value :=
  .obj [("field", .str rule.field), ("value", rule.value)]

/-- Reads a field. -/
def ConfigField.decoder : Decoder ConfigField :=
  Record.read "struct ConfigFieldDef"
    (ConfigField.mk <$> Record.required "name" Decoder.text
      <*> Record.required "label" Decoder.text
      <*> Record.required "type" FieldKind.decoder
      <*> Record.optional "required" Decoder.bool false
      <*> Record.nullable "default" Decoder.value
      <*> Record.nullable "placeholder" Decoder.text
      <*> Record.optional "supportsExpressions" Decoder.bool false
      <*> Record.nullable "visibleWhen" VisibleWhen.decoder)

/-- Writes a field; what is not set is left out. -/
def ConfigField.toValue (f : ConfigField) : Value :=
  .obj ([("name", .str f.name), ("label", .str f.label), ("type", f.kind.toValue),
      ("required", .bool f.required)]
    ++ entryIf "default" f.default
    ++ entryIf "placeholder" (f.placeholder.map .str)
    ++ [("supportsExpressions", .bool f.supportsExpressions)]
    ++ entryIf "visibleWhen" (f.visibleWhen.map VisibleWhen.toValue))

/-- Reads an output type. -/
def OutputType.decoder : Decoder OutputType :=
  Decoder.oneOf (OutputType.all.map fun t => (t.name, t))

/-- Reads an output. -/
def OutputField.decoder : Decoder OutputField :=
  Record.read "struct OutputFieldDef"
    (OutputField.mk <$> Record.required "name" Decoder.text
      <*> Record.required "type" OutputType.decoder
      <*> Record.required "description" Decoder.text
      <*> Record.nullable "example" Decoder.value)

/-- Writes an output. -/
def OutputField.toValue (o : OutputField) : Value :=
  .obj ([("name", .str o.name), ("type", .str o.type.name), ("description", .str o.description)]
    ++ entryIf "example" o.example?)

/-! ### Templates -/

/-- Reads a template. -/
def Template.decoder : Decoder Template :=
  Record.read "struct NodeTemplate"
    (Template.mk <$> Record.required "type" Decoder.text
      <*> Record.required "category" Category.decoder
      <*> Record.required "label" Decoder.text
      <*> Record.required "description" Decoder.text
      <*> Record.required "configSchema" (Decoder.list ConfigField.decoder)
      <*> Record.nullable "outputSchema" (Decoder.list OutputField.decoder)
      <*> Record.optional "defaultConfig" Decoder.fields [])

/-- Writes a template. -/
def Template.toValue (t : Template) : Value :=
  .obj ([("type", .str t.type), ("category", t.category.toValue), ("label", .str t.label),
      ("description", .str t.description),
      ("configSchema", .arr (t.fields.map ConfigField.toValue))]
    ++ entryIf "outputSchema" (t.outputs.map fun os => .arr (os.map OutputField.toValue))
    ++ [("defaultConfig", .obj t.defaultConfig)])

end Workflow
