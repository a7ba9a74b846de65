import Workflow.Agent
import Workflow.Proofs.Keyed
import Workflow.Proofs.Text

/-!
# References of agents

A reference is a setting, so that white space around the id it names does not count. Whether the
references of agents are in order depends on which nodes there are, and not on how they are
ordered: where ids are distinct, the node that a reference means is the same in any order.

## Main results

* `modelFault?_eq_none_iff`, `embeddingsFault?_eq_none_iff`: which references are in order.
* `agentFaults_eq_nil_iff`: no reference is broken exactly if those of every agent are in order.
* `agree_agentFaults`: the broken references agree in any order of nodes.
* `agentFaults_eq_nil_of_perm`: references that are in order stay in order when the nodes are
  reordered.
-/

namespace Workflow

open Json

variable {profiles others : List Profile}

/-! ### References that are in order -/

/-- A setting is what is left of a text that is not blank without the white space around it. -/
theorem setting?_eq_some_iff {config : Fields} {key s : String} :
    setting? config key = some s ↔
      ∃ raw, config.get? key = some (.str raw) ∧ Text.isBlank raw = false ∧ Text.trim raw = s := by
  have visible : ∀ raw, Text.isBlank raw = false ↔ Text.trim raw ≠ "" := by
    intro raw
    rw [Ne, Text.trim_eq_empty_iff, Bool.not_eq_true]
  constructor
  · intro made
    obtain ⟨ink, raw, held, rfl⟩ := setting?_trimmed made
    exact ⟨raw, held, (visible raw).2 ink, rfl⟩
  · rintro ⟨raw, held, ink, rfl⟩
    simp [setting?, held, Value.text?, (visible raw).1 ink]

/-- With distinct ids, the type of an id is that of the node with the id. -/
theorem typeOf?_eq_some_iff (distinct : (profiles.map (·.id)).Nodup) {id type : String} :
    typeOf? profiles id = some type ↔ ∃ p ∈ profiles, p.id = id ∧ p.type = type := by
  have turned : (profiles.reverse.map (·.id)).Nodup :=
    (profiles.reverse_perm.map _).nodup_iff.2 distinct
  simp only [typeOf?, Option.map_eq_some_iff, find?_key_eq_some_iff turned, List.mem_reverse,
    and_assoc]

/-- A reference is in order exactly if the id it names is of the type that is wanted. -/
theorem referenceFault?_eq_none_iff {key target wanted : String} :
    referenceFault? profiles key target wanted = none ↔
      typeOf? profiles target = some wanted := by
  rw [referenceFault?]
  cases typeOf? profiles target <;> simp

/-- **The model of an agent** is in order exactly if a text names one. -/
theorem modelFault?_eq_none_iff {config : Fields} :
    modelFault? profiles config = none ↔
      ∃ raw, config.get? "model" = some (.str raw) ∧ Text.isBlank raw = false
        ∧ typeOf? profiles (Text.trim raw) = some modelType := by
  rw [modelFault?]
  constructor
  · intro clean
    cases made : setting? config "model" with
    | none =>
      rw [made] at clean
      cases clean
    | some target =>
      rw [made] at clean
      obtain ⟨raw, held, ink, rfl⟩ := setting?_eq_some_iff.1 made
      exact ⟨raw, held, ink, referenceFault?_eq_none_iff.1 clean⟩
  · rintro ⟨raw, held, ink, named⟩
    rw [setting?_eq_some_iff.2 ⟨raw, held, ink, rfl⟩]
    exact referenceFault?_eq_none_iff.2 named

/-- **The embeddings of an agent** are in order exactly if a text that is not blank names some. -/
theorem embeddingsFault?_eq_none_iff {config : Fields} :
    embeddingsFault? profiles config = none ↔
      ∀ raw, config.get? "embeddings" = some (.str raw) → Text.isBlank raw = false →
        typeOf? profiles (Text.trim raw) = some embeddingsType := by
  rw [embeddingsFault?]
  constructor
  · intro clean raw held ink
    rw [setting?_eq_some_iff.2 ⟨raw, held, ink, rfl⟩] at clean
    exact referenceFault?_eq_none_iff.1 clean
  · intro named
    cases made : setting? config "embeddings" with
    | none => rfl
    | some target =>
      obtain ⟨raw, held, ink, rfl⟩ := setting?_eq_some_iff.1 made
      exact referenceFault?_eq_none_iff.2 (named raw held ink)

/-- A node with this id is of this type. -/
def HasProfile (profiles : List Profile) (id type : String) : Prop :=
  ∃ m ∈ profiles, m.id = id ∧ m.type = type

/-- A text that names a node is not blank, as no id is. -/
theorem HasProfile.visible {raw type : String}
    (visible : ∀ m ∈ profiles, Text.isBlank m.id = false)
    (named : HasProfile profiles (Text.trim raw) type) : Text.isBlank raw = false := by
  obtain ⟨m, hm, same, -⟩ := named
  rw [← Bool.not_eq_true, ← Text.trim_eq_empty_iff]
  intro nothing_left
  have seen := visible m hm
  rw [same, nothing_left] at seen
  cases seen

/-- The model of an agent is in order exactly if a text, trimmed, is the id of a model node. -/
theorem modelFault?_eq_none_iff_hasProfile (visible : ∀ m ∈ profiles, Text.isBlank m.id = false)
    (distinct : (profiles.map (·.id)).Nodup) {config : Fields} :
    modelFault? profiles config = none ↔
      ∃ raw, config.get? "model" = some (.str raw)
        ∧ HasProfile profiles (Text.trim raw) modelType := by
  simp only [modelFault?_eq_none_iff, typeOf?_eq_some_iff distinct]
  refine exists_congr fun raw => and_congr_right fun _ => and_iff_right_of_imp ?_
  exact HasProfile.visible visible

/-- The embeddings of an agent are in order exactly if a text that is not blank is, trimmed, the id
of an embeddings node. -/
theorem embeddingsFault?_eq_none_iff_hasProfile (distinct : (profiles.map (·.id)).Nodup)
    {config : Fields} :
    embeddingsFault? profiles config = none ↔
      ∀ raw, config.get? "embeddings" = some (.str raw) → Text.isBlank raw = false →
        HasProfile profiles (Text.trim raw) embeddingsType := by
  simp only [embeddingsFault?_eq_none_iff, typeOf?_eq_some_iff distinct, HasProfile]

/-- **No reference is broken** exactly if those of every agent are in order. -/
theorem agentFaults_eq_nil_iff :
    agentFaults profiles = [] ↔ ∀ p ∈ profiles, p.type = agentType →
      modelFault? profiles p.config = none ∧ embeddingsFault? profiles p.config = none := by
  simp only [agentFaults, List.flatMap_eq_nil_iff, List.map_eq_nil_iff, faultsOf,
    ite_eq_right_iff, List.append_eq_nil_iff, Option.toList_eq_nil_iff]

/-! ### The order of nodes -/

/-- The type of an id is the same in any order. -/
theorem typeOf?_of_perm (distinct : (profiles.map (·.id)).Nodup) (perm : profiles.Perm others) :
    typeOf? profiles = typeOf? others := by
  funext id
  have turned : profiles.reverse.Perm others.reverse :=
    (profiles.reverse_perm.trans perm).trans others.reverse_perm.symm
  have distinct' : (profiles.reverse.map (·.id)).Nodup :=
    (profiles.reverse_perm.map _).nodup_iff.2 distinct
  rw [typeOf?, typeOf?, find?_key_of_perm distinct' turned]

/-- The references of a node are judged by the types of ids alone. -/
theorem faultsOf_of_typeOf? (same : typeOf? profiles = typeOf? others) (p : Profile) :
    faultsOf profiles p = faultsOf others p := by
  simp only [faultsOf, modelFault?, embeddingsFault?, referenceFault?, same]

/-- The broken references that are found agree in any order of nodes. -/
theorem agree_agentFaults (distinct : (profiles.map (·.id)).Nodup)
    (perm : profiles.Perm others) :
    Agree Prod.fst (agentFaults profiles) (agentFaults others) := by
  have same : agentFaults others
      = others.flatMap fun p => (faultsOf profiles p).map fun fault => (p.id, fault) := by
    simp only [agentFaults, faultsOf_of_typeOf? (typeOf?_of_perm distinct perm)]
  rw [same, agentFaults]
  refine agree_flatMap distinct perm ?_
  intro p found listed
  obtain ⟨fault, -, rfl⟩ := List.mem_map.1 listed
  rfl

/-- References that are in order stay in order when the nodes are reordered. -/
theorem agentFaults_eq_nil_of_perm (distinct : (profiles.map (·.id)).Nodup)
    (perm : profiles.Perm others) (clean : agentFaults profiles = []) :
    agentFaults others = [] := by
  have same := (agree_agentFaults distinct perm).perm
  rw [clean] at same
  exact same.nil_eq.symm

end Workflow
