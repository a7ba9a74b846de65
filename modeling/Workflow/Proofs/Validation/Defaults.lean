import Workflow.Proofs.Json.Equality
import Workflow.Proofs.Keyed
import Workflow.Validation

/-!
# Defaults that are written and defaults that are assumed

A default reaches the rule that hides a field in two ways. It is written into the starting
configuration when the template is made, and it is assumed when the rule finds nothing under its
key. With distinct field names the two sources say the same about every key, of the schema or not,
so whether a default has been written makes no difference to a rule: what a rule looks at is the
value that `held?` gives, and writing defaults leaves that unchanged.

## Main results

* `Template.make_seeds`: the starting configuration and the schema have the same defaults.
* `Template.get?_fill`: what a configuration holds after defaults were written.
* `Template.isVisible_fill`: **writing defaults neither shows a field nor hides one.**
-/

namespace Workflow

open Json

namespace Template

variable {t : Template} {config : Fields}

/-! ### The two sources of a default -/

/-- The default that the schema has for a key. -/
def assumed? (t : Template) (key : String) : Option Value :=
  (t.field? key).bind (·.default)

/-- The starting configuration holds the defaults of the schema and nothing else. -/
def Seeds (t : Template) : Prop :=
  ∀ key, t.defaultConfig.get? key = t.assumed? key

/-- Fields with distinct names have defaults under distinct names. -/
theorem nodup_keys_defaults {fields : List ConfigField} (distinct : (fields.map (·.name)).Nodup) :
    ((fields.filterMap fun f => f.default.map fun value => (f.name, value)).map (·.1)).Nodup := by
  refine distinct.sublist ?_
  clear distinct
  induction fields with
  | nil => exact .slnil
  | cons f rest ih =>
    rw [List.filterMap_cons]
    cases f.default with
    | none => exact ih.cons _
    | some value => exact ih.cons_cons _

/-- **The starting configuration holds the defaults** of the fields, each under the name of its
field, when no two fields share a name. -/
theorem get?_seeded_eq_some_iff {fields : List ConfigField}
    (distinct : (fields.map (·.name)).Nodup) {key : String} {value : Value} :
    Fields.get? key (seeded fields) = some value ↔
      ∃ f ∈ fields, f.default = some value ∧ f.name = key := by
  have keys := nodup_keys_defaults distinct
  rw [seeded, Fields.ofEntries_eq_self _ keys, Fields.get?_eq_some_iff keys, List.mem_filterMap]
  simp only [Option.map_eq_some_iff, Prod.mk.injEq]
  constructor
  · rintro ⟨f, hf, _, default, name, rfl⟩
    exact ⟨f, hf, default, name⟩
  · rintro ⟨f, hf, default, name⟩
    exact ⟨f, hf, value, default, name, rfl⟩

/-- **The two sources agree** when no two fields share a name. -/
theorem make_seeds {type : String} {category : Category} {label description : String}
    {fields : List ConfigField} {outputs : Option (List OutputField)}
    (distinct : (fields.map (·.name)).Nodup) :
    (make type category label description fields outputs).Seeds := by
  intro key
  ext value
  rw [make, get?_seeded_eq_some_iff distinct, assumed?, field?, Option.bind_eq_some_iff]
  simp only [find?_key_eq_some_iff distinct]
  constructor
  · rintro ⟨f, hf, default, name⟩
    exact ⟨f, ⟨hf, name⟩, default⟩
  · rintro ⟨f, ⟨hf, name⟩, default⟩
    exact ⟨f, hf, default, name⟩

/-! ### What a rule looks at -/

/-- The value under a key for a rule: the one that is held, else the one that is assumed. -/
def held? (t : Template) (config : Fields) (key : String) : Option Value :=
  (config.get? key).or (t.assumed? key)

/-- A rule looks at nothing but the value it finds under its key. -/
theorem isVisible_eq_of_held? {config' : Fields}
    (eq : ∀ key, t.held? config key = t.held? config' key) (f : ConfigField) :
    t.isVisible config f = t.isVisible config' f := by
  cases ruled : f.visibleWhen with
  | none => simp only [isVisible, ruled]
  | some rule =>
    have here := eq rule.field
    rw [held?, held?, assumed?] at here
    simp only [isVisible, ruled, here]

/-! ### Writing defaults -/

/-- Writes the default under a key, unless the configuration has a value there. -/
def fillKey (t : Template) (config : Fields) (key : String) : Fields :=
  match config.get? key, t.defaultConfig.get? key with
  | none, some value => Fields.insert key value config
  | _, _ => config

/-- Writes the defaults under some keys, one after the other. -/
def fill (t : Template) (config : Fields) (keys : List String) : Fields :=
  keys.foldl t.fillKey config

/-- One default is written: where a value was missing, and nowhere else. -/
theorem get?_fillKey (key other : String) :
    (t.fillKey config key).get? other =
      (config.get? other).or (if other = key then t.defaultConfig.get? other else none) := by
  rw [fillKey]
  split
  · next value absent seed =>
    rw [Fields.get?_insert]
    by_cases here : key = other
    · subst here
      simp [absent, seed]
    · simp [here, Ne.symm here]
  · next stays =>
    by_cases here : other = key
    · subst here
      -- the key is taken, or there is no default for it
      cases held : config.get? other with
      | some _ => simp
      | none =>
        cases seed : t.defaultConfig.get? other with
        | none => simp
        | some value => exact (stays value held seed).elim
    · simp [here]

/-- **What a configuration holds after defaults were written**: what it held, and where it held
nothing under one of the keys, the default. -/
theorem get?_fill (keys : List String) (other : String) :
    (t.fill config keys).get? other =
      (config.get? other).or (if other ∈ keys then t.defaultConfig.get? other else none) := by
  induction keys generalizing config with
  | nil => simp [fill]
  | cons key rest ih =>
    rw [fill, List.foldl_cons, ← fill, ih, get?_fillKey, Option.or_assoc]
    by_cases here : other = key
    · -- what the rest would write here is written already
      subst here
      by_cases later : other ∈ rest <;> simp [later]
    · simp [here]

/-- All defaults written into nothing are what a new node starts with. -/
theorem get?_fill_nil (id label key : String) :
    (t.fill [] t.defaultConfig.keys).get? key = (Node.ofTemplate id t label).config.get? key := by
  rw [get?_fill, Fields.get?, Option.none_or, Node.ofTemplate]
  split
  · rfl
  · next unseeded =>
    rw [← Fields.get?_isSome_iff, Option.not_isSome_iff_eq_none] at unseeded
    exact unseeded.symm

/-- A default that is written was assumed before. -/
theorem held?_fill (seeds : t.Seeds) (keys : List String) (key : String) :
    t.held? (t.fill config keys) key = t.held? config key := by
  rw [held?, held?, get?_fill, Option.or_assoc]
  split
  · rw [seeds key, Option.or_self]
  · rw [Option.none_or]

/-- **Writing defaults neither shows a field nor hides one**, whichever of them are written and
whatever the configuration holds already. In particular a new node, which starts with all of them,
shows what an empty configuration does. -/
theorem isVisible_fill {type : String} {category : Category} {label description : String}
    {fields : List ConfigField} {outputs : Option (List OutputField)}
    (distinct : (fields.map (·.name)).Nodup) (t : Template)
    (made : t = .make type category label description fields outputs) :
    (∀ config keys,
      (∀ key, (t.fill config keys).get? key =
        (config.get? key).or (if key ∈ keys then t.defaultConfig.get? key else none))
        ∧ ∀ f ∈ t.fields, t.isVisible (t.fill config keys) f = t.isVisible config f)
      ∧ ∀ id name, ∀ f ∈ t.fields,
        t.isVisible (Node.ofTemplate id t name).config f = t.isVisible [] f := by
  have seeds : t.Seeds := made ▸ make_seeds distinct
  refine ⟨fun config keys => ⟨get?_fill keys, fun f _ => ?_⟩, fun id name f _ => ?_⟩
  · exact isVisible_eq_of_held? (held?_fill seeds keys) f
  · refine isVisible_eq_of_held? (fun key => ?_) f
    have filled : t.held? (t.fill [] t.defaultConfig.keys) key = t.held? [] key :=
      held?_fill seeds _ key
    rw [← filled, held?, held?, get?_fill_nil id name]

/-- Fields whose rules look at a choice that starts empty, at a list, at a field without a default
and at one that is not there. -/
def requestFields : List ConfigField :=
  [ConfigField.select "auth" "Authentication" ["basic", "token"] |>.initially .null,
    ConfigField.text "user" "User" |>.shownWhen "auth" (.str "basic"),
    ConfigField.text "notice" "Notice" |>.shownWhen "auth" (.arr [.null, .str "none"]),
    ConfigField.json "scopes" "Scopes" |>.initially (.arr []),
    ConfigField.text "reason" "Reason" |>.shownWhen "scopes" (.arr [.arr []]),
    ConfigField.boolean "audit" "Audit" |>.shownWhen "user" (.str "root"),
    ConfigField.number "limit" "Limit" |>.shownWhen "region" (.str "eu")]

/-- A request with these fields. -/
def requestTemplate : Template :=
  .make "api.request" .api "Request" "Send a request" requestFields none

/-- A request by its user, to whom the choice that is still missing is added. -/
theorem isVisible_fill_requestTemplate :
    (requestFields.map (·.name)).Nodup
      ∧ ∀ f ∈ requestTemplate.fields,
        requestTemplate.isVisible (requestTemplate.fill [("user", .str "root")] ["auth"]) f =
          requestTemplate.isVisible [("user", .str "root")] f := by
  have distinct : (requestFields.map (·.name)).Nodup := by decide
  exact ⟨distinct, ((isVisible_fill distinct requestTemplate rfl).1 _ _).2⟩

-- of a repeated name the last default is written and the first one assumed
example :
    let t : Template := .make "api.twice" .api "Twice" "A name is used twice"
      [ConfigField.boolean "on" "On" |>.initially (.bool true),
        ConfigField.boolean "on" "Off" |>.initially (.bool false),
        ConfigField.text "note" "Note" |>.shownWhen "on" (.bool true)] none
    t.fields.map (t.isVisible []) = [true, true, true]
      ∧ t.fields.map (t.isVisible (Node.ofTemplate "n" t "Name").config) = [true, true, false] := by
  decide +kernel

end Template

end Workflow
