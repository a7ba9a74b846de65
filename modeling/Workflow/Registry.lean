import Workflow.Catalog.Builtin
import Workflow.Occurrence

/-!
# Registries

The node types that are known, each with its template. No type is registered twice, and the
order of registration is kept.

## Main results

* `ofList_eq_ok_iff`: a list of templates is a registry exactly if no type repeats.
* `find?_eq_some_iff`: a template is found by its type and by no other.
-/

namespace Workflow

/-- Why a registry cannot be built or does not answer. -/
inductive RegistryError where
  | unknownType (type : String)
  | duplicateType (type : String)
  deriving DecidableEq

/-- The wording of a registry error. -/
def RegistryError.message : RegistryError → String
  | unknownType type => "Node type '" ++ type ++ "' is not registered"
  | duplicateType type => "Node type '" ++ type ++ "' is registered more than once"

/-- The known node types. -/
structure Registry where
  /-- The templates in the order of registration. -/
  templates : List Template
  /-- No type is registered twice. -/
  distinct : (templates.map (·.type)).Nodup

namespace Registry

/-- The built-in templates. -/
def builtin : Registry :=
  ⟨Catalog.builtin, by decide +kernel⟩

/-- The registry of these templates; the first type that comes again is reported. -/
def ofList (templates : List Template) : Except RegistryError Registry :=
  match h : again [] (templates.map (·.type)) with
  | [] => .ok ⟨templates, again_nil_eq_nil_iff.1 h⟩
  | type :: _ => .error (.duplicateType type)

/-- The template of a type. -/
def find? (r : Registry) (type : String) : Option Template :=
  r.templates.find? (·.type == type)

/-- The template of a type, or the error that there is none. -/
def lookup (r : Registry) (type : String) : Except RegistryError Template :=
  match r.find? type with
  | some t => .ok t
  | none => .error (.unknownType type)

/-- Whether a type is registered. -/
def contains (r : Registry) (type : String) : Bool :=
  (r.find? type).isSome

/-- The templates of a category, in the order of registration. -/
def ofCategory (r : Registry) (c : Category) : List Template :=
  r.templates.filter (·.category = c)

/-- The categories that have a template. -/
def categories (r : Registry) : List Category :=
  Category.all.filter fun c => r.templates.any (·.category = c)

/-- A list of templates is a registry exactly if no type repeats. -/
theorem ofList_eq_ok_iff (templates : List Template) :
    (∃ r, ofList templates = .ok r ∧ r.templates = templates)
      ↔ (templates.map (·.type)).Nodup := by
  rw [← again_nil_eq_nil_iff]
  unfold ofList
  split
  · next h => exact ⟨fun _ => h, fun _ => ⟨_, rfl, rfl⟩⟩
  · next type rest h => simp [h]

/-- A template is found by its type and by no other. -/
theorem find?_eq_some_iff (r : Registry) (type : String) (t : Template) :
    r.find? type = some t ↔ t ∈ r.templates ∧ t.type = type := by
  constructor
  · intro h
    exact ⟨List.mem_of_find?_eq_some h, by simpa using List.find?_some h⟩
  · rintro ⟨ht, rfl⟩
    obtain ⟨templates, distinct⟩ := r
    simp only [find?] at ht ⊢
    induction templates with
    | nil => cases ht
    | cons u rest ih =>
      rw [List.map_cons, List.nodup_cons, List.mem_map] at distinct
      rcases List.mem_cons.1 ht with rfl | hr
      · simp
      · have apart : u.type ≠ t.type := fun e => distinct.1 ⟨t, hr, e.symm⟩
        simpa [apart] using ih distinct.2 hr

end Registry

end Workflow
