import Workflow.Proofs.Json.Equality
import Workflow.Validation

/-!
# What a validation looks at

A configuration is validated by what it holds under the keys that rules name and under the names of
the fields that are shown. What it holds under any other key, in a hidden field or in none, has no
influence, and neither has the order of its keys. Two configurations are compared here that hold
equal values under those keys: whatever is asked of a value, equal values answer the same.

## Main results

* `ConfigField.shapeIssue?_congr`: equal values have the same issue.
* `Template.isVisible_congr`: a field is shown by the value under the key that its rule names.
* `validate_decided_by_shown`: **configurations that agree on the keys of rules and on the fields
  that are shown have the same issues.**
-/

namespace Workflow

open Json

/-! ### Equal values -/

section Values

variable {v w : Value}

/-- Equal values are both empty, or neither is. -/
theorem isEmptyValue_congr (h : v.same w = true) : isEmptyValue v = isEmptyValue w := by
  rcases Value.same_cases h with rfl | ⟨a, b, rfl, rfl, -⟩ | ⟨xs, ys, rfl, rfl, eq⟩ |
    ⟨xs, ys, rfl, rfl⟩
  · rfl
  · rfl
  · cases eq <;> rfl
  · rfl

/-- Equal values are both texts with a reference, or neither is. -/
theorem isExpression_congr (h : v.same w = true) : isExpression v = isExpression w := by
  rcases Value.same_cases h with rfl | ⟨a, b, rfl, rfl, -⟩ | ⟨xs, ys, rfl, rfl, -⟩ |
    ⟨xs, ys, rfl, rfl⟩ <;> rfl

/-- Equal values are both objects, or neither is. -/
theorem isObject_congr (h : v.same w = true) : v.isObject = w.isObject := by
  rcases Value.same_cases h with rfl | ⟨a, b, rfl, rfl, -⟩ | ⟨xs, ys, rfl, rfl, -⟩ |
    ⟨xs, ys, rfl, rfl⟩ <;> rfl

/-- Arrays that are equal item by item both hold nothing but objects, or neither does. -/
theorem all_isObject_congr {xs ys : List Value}
    (h : List.Forall₂ (fun v w => v.same w = true) xs ys) :
    xs.all Value.isObject = ys.all Value.isObject := by
  induction h with
  | nil => rfl
  | cons here _ ih => rw [List.all_cons, List.all_cons, isObject_congr here, ih]

/-- Equal values fit the same kinds of fields. -/
theorem FieldKind.fits_congr (h : v.same w = true) (k : FieldKind) : k.fits v = k.fits w := by
  rcases Value.same_cases h with rfl | ⟨a, b, rfl, rfl, -⟩ | ⟨xs, ys, rfl, rfl, eq⟩ |
    ⟨xs, ys, rfl, rfl⟩
  · rfl
  · cases k <;> rfl
  · cases k with
    | formBuilder | validationBuilder => exact all_isObject_congr eq
    | _ => rfl
  · cases k <;> rfl

/-- Of equal values a message says the same. -/
theorem FieldKind.actual_congr (h : v.same w = true) (k : FieldKind) :
    k.actual v = k.actual w := by
  rcases Value.same_cases h with rfl | ⟨a, b, rfl, rfl, -⟩ | ⟨xs, ys, rfl, rfl, -⟩ |
    ⟨xs, ys, rfl, rfl⟩ <;> cases k <;> rfl

/-- **Equal values have the same issue** under a field. -/
theorem ConfigField.shapeIssue?_congr (h : v.same w = true) (f : ConfigField) :
    f.shapeIssue? v = f.shapeIssue? w := by
  rw [shapeIssue?, shapeIssue?, FieldKind.fits_congr h, FieldKind.actual_congr h,
    isExpression_congr h]

end Values

/-! ### Configurations that agree -/

/-- Two configurations hold equal values under a key, or neither holds one. -/
def AgreeOn (config config' : Fields) (key : String) : Prop :=
  Option.Rel (fun v w => v.same w = true) (config.get? key) (config'.get? key)

/-- Values that may be missing are compared as soon as values are. -/
instance decidableOptionRel {α β : Type} (r : α → β → Prop) [∀ a b, Decidable (r a b)]
    (a? : Option α) (b? : Option β) : Decidable (Option.Rel r a? b?) :=
  match a?, b? with
  | none, none => .isTrue .none
  | some a, some b => decidable_of_iff (r a b) ⟨.some, fun | .some related => related⟩
  | none, some _ => .isFalse nofun
  | some _, none => .isFalse nofun

instance (config config' : Fields) (key : String) : Decidable (AgreeOn config config' key) :=
  decidableOptionRel _ _ _

section Agree

variable {t : Template} {config config' : Fields} {f : ConfigField}

/-- Configurations that agree on a key both hold nothing under it, or equal values. -/
theorem AgreeOn.cases {key : String} (agree : AgreeOn config config' key) :
    (config.get? key = none ∧ config'.get? key = none)
      ∨ ∃ v w, config.get? key = some v ∧ config'.get? key = some w ∧ v.same w = true := by
  rw [AgreeOn] at agree
  generalize config.get? key = held at agree ⊢
  generalize config'.get? key = held' at agree ⊢
  cases agree with
  | none => exact .inl ⟨rfl, rfl⟩
  | some eq => exact .inr ⟨_, _, rfl, rfl, eq⟩

/-- A value of a configuration that repeats no key repeats none. -/
theorem wellKeyed_of_get? (keyed : (Value.obj config).WellKeyed) {key : String} {v : Value}
    (found : config.get? key = some v) : v.WellKeyed := by
  rw [Value.WellKeyed, Value.wellKeyedEntries_iff] at keyed
  exact keyed.2 _ (Fields.mem_of_get?_eq_some found)

/-- **Whether a field is shown** is decided by the value under the key that its rule names. -/
theorem Template.isVisible_congr (keyed : (Value.obj config).WellKeyed)
    (agree : ∀ rule ∈ f.visibleWhen, AgreeOn config config' rule.field) :
    t.isVisible config f = t.isVisible config' f := by
  cases ruled : f.visibleWhen with
  | none => simp only [isVisible, ruled]
  | some rule =>
    rcases (agree rule ruled).cases with ⟨absent, absent'⟩ | ⟨v, w, held, held', eq⟩
    · simp only [isVisible, ruled, absent, absent']
    · have exchanged := Value.same_congr_right (wellKeyed_of_get? keyed held) eq
      simp only [isVisible, ruled, held, held', Option.some_or, exchanged]

/-- The issue of a field is decided by whether it is shown and, if so, by its value. -/
theorem Template.fieldIssue?_congr (visible : t.isVisible config f = t.isVisible config' f)
    (agree : t.isVisible config f = true → AgreeOn config config' f.name) :
    t.fieldIssue? config f = t.fieldIssue? config' f := by
  rw [fieldIssue?, fieldIssue?, ← visible]
  split
  · next shown =>
    rcases (agree shown).cases with ⟨absent, absent'⟩ | ⟨v, w, held, held', eq⟩
    · rw [ConfigField.given?, ConfigField.given?, absent, absent']
    · rw [ConfigField.given?, ConfigField.given?, held, held', Option.filter_some,
        Option.filter_some, isEmptyValue_congr eq]
      cases isEmptyValue w
      · exact ConfigField.shapeIssue?_congr eq f
      · rfl
  · rfl

end Agree

/-! ### Validation -/

/-- **What a validation looks at.** Let two nodes hold equal values, or both none, under every key
that a rule of the schema names and in every field that is shown by the first. Then the same fields
are shown by both, and they have the same issues in the same order, whatever else they hold. -/
theorem validate_decided_by_shown {t : Template} {n m : Node}
    (keyed : (Value.obj n.config).WellKeyed)
    (rules : ∀ f ∈ t.fields, ∀ rule ∈ f.visibleWhen, AgreeOn n.config m.config rule.field)
    (shown : ∀ f ∈ t.fields, t.isVisible n.config f = true → AgreeOn n.config m.config f.name) :
    (∀ f ∈ t.fields, t.isVisible n.config f = t.isVisible m.config f)
      ∧ t.validate n.config = t.validate m.config := by
  have visible : ∀ f ∈ t.fields, t.isVisible n.config f = t.isVisible m.config f :=
    fun f hf => Template.isVisible_congr keyed (rules f hf)
  refine ⟨visible, ?_⟩
  rw [Template.validate, Template.validate]
  exact List.filterMap_congr fun f hf => Template.fieldIssue?_congr (visible f hf) (shown f hf)

/-- A call with a body that only some methods have. -/
def callTemplate : Template :=
  .make "api.call" .api "Call" "Call an endpoint"
    [ConfigField.select "method" "Method" ["GET", "POST", "PUT"] |>.initially (.str "GET"),
      ConfigField.text "url" "URL" |>.mandatory,
      ConfigField.formBuilder "body" "Body" |>.mandatory
        |>.shownWhen "method" (.ofTexts ["POST", "PUT"]),
      ConfigField.number "headers" "Headers"]
    none

/-- A call without a method, so that its body is hidden. -/
def staleCall : Node :=
  { id := "stale", type := "api.call", label := "Call", category := .api,
    config := [("body", .str "draft"), ("url", .str " "),
      ("headers", .obj [("accept", .null), ("age", .num (.float 0))])] }

/-- A call with the same in other words, with another body and with a note. -/
def freshCall : Node :=
  { id := "fresh", type := "api.call", label := "Call", category := .api,
    config := [("headers", .obj [("age", .num (.float (-0))), ("accept", .null)]), ("note", .null),
      ("url", .str " "), ("body", .arr [])] }

/-- Neither the hidden body nor the note nor the order of keys has a say in what is wrong. -/
theorem validate_decided_by_shown_staleCall :
    (Value.obj staleCall.config).WellKeyed
      ∧ (∀ f ∈ callTemplate.fields, ∀ rule ∈ f.visibleWhen,
        AgreeOn staleCall.config freshCall.config rule.field)
      ∧ (∀ f ∈ callTemplate.fields, callTemplate.isVisible staleCall.config f = true →
        AgreeOn staleCall.config freshCall.config f.name)
      ∧ callTemplate.validate staleCall.config = callTemplate.validate freshCall.config := by
  have keyed : (Value.obj staleCall.config).WellKeyed := by
    simp [staleCall, Value.WellKeyed, Value.WellKeyedEntries]
  have rules : ∀ f ∈ callTemplate.fields, ∀ rule ∈ f.visibleWhen,
      AgreeOn staleCall.config freshCall.config rule.field := by decide +kernel
  have shown : ∀ f ∈ callTemplate.fields, callTemplate.isVisible staleCall.config f = true →
      AgreeOn staleCall.config freshCall.config f.name := by decide +kernel
  exact ⟨keyed, rules, shown, (validate_decided_by_shown keyed rules shown).2⟩

-- the draft would be no list, but it is not looked at
example : callTemplate.validate staleCall.config =
    [.missing "url", .wrongShape "headers" "a number" "an object"] := by decide +kernel

end Workflow
