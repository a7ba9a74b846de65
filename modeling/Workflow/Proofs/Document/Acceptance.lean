import Workflow.Proofs.Agent
import Workflow.Proofs.Document.Valid
import Workflow.Proofs.Tree.Level

/-!
# Which documents the check accepts

`Valid` says what the check finds nothing wrong with, but still counts levels and judges references
of agents as the check does. Here both are put in terms of the nodes: a level is where a node
stands, and a reference is in order if it is the id of a node of the right type.

The check trims what an agent names but takes ids as they are. It looks through all nodes that its
bounded walk has met, and that these are all of them is part of the statement.

## Main results

* `agentFaults_allProfiles_iff`: no reference is broken exactly if every agent names a model, and
  embeddings if any, that are nodes of the document.
* `check_accepts_iff`: **the check accepts exactly the valid documents**, told by their nodes.
-/

namespace Workflow.Document

open Json

variable {d : Document} {r : Registry} {maxDepth : Nat}

/-- A node of the document, at whatever level, has this id and is of this type. -/
def HasNode (d : Document) (id type : String) : Prop :=
  ∃ t ∈ Tree.forestPreorder d.nodes, t.value.id = id ∧ t.value.type = type

/-- An agent names a model that is a node of the document. -/
def NamesModel (d : Document) (config : Fields) : Prop :=
  ∃ raw, config.get? "model" = some (.str raw) ∧ d.HasNode (Text.trim raw) modelType

/-- The embeddings that an agent names, if it names any, are a node of the document. -/
def NamesEmbeddings (d : Document) (config : Fields) : Prop :=
  ∀ raw, config.get? "embeddings" = some (.str raw) → Text.isBlank raw = false →
    d.HasNode (Text.trim raw) embeddingsType

/-- What the agent checks look at has the ids of the nodes. -/
theorem map_id_allProfiles (d : Document) : d.allProfiles.map (·.id) = d.nodeIds := by
  simp [allProfiles, nodeIds, Tree.forestKeys]

/-- What the agent checks look at has a node exactly if the document does. -/
theorem hasProfile_allProfiles_iff {id type : String} :
    HasProfile d.allProfiles id type ↔ d.HasNode id type := by
  simp [HasProfile, allProfiles, HasNode]

/-- **No reference is broken** exactly if every agent names a model, and embeddings if any, that
are nodes of the document. -/
theorem agentFaults_allProfiles_iff (distinct : d.nodeIds.Nodup)
    (visible : ∀ t ∈ Tree.forestPreorder d.nodes, Text.isBlank t.value.id = false) :
    agentFaults d.allProfiles = [] ↔
      ∀ t ∈ Tree.forestPreorder d.nodes, t.value.type = agentType →
        d.NamesModel t.value.config ∧ d.NamesEmbeddings t.value.config := by
  have distinct' : (d.allProfiles.map (·.id)).Nodup := by rwa [map_id_allProfiles]
  have visible' : ∀ m ∈ d.allProfiles, Text.isBlank m.id = false := by
    rwa [allProfiles, List.forall_mem_map]
  simp only [agentFaults_eq_nil_iff, modelFault?_eq_none_iff_hasProfile visible' distinct',
    embeddingsFault?_eq_none_iff_hasProfile distinct', hasProfile_allProfiles_iff]
  simp only [allProfiles, List.forall_mem_map, NamesModel, NamesEmbeddings]

/-- **The check accepts exactly the valid documents**: no node stands deeper than `maxDepth`; ids
are visible and distinct; types are registered, and only containers hold nodes; outputs, the start
node and the triggers lead to nodes, at whatever level; every agent names a model, and embeddings
if any, that are nodes of the right type. -/
theorem check_accepts_iff :
    (d.check r maxDepth).errors = [] ↔
      (∀ level t, Tree.StandsAt d.nodes level t → level ≤ maxDepth)
        ∧ (∀ t ∈ Tree.forestPreorder d.nodes, Text.isBlank t.value.id = false)
        ∧ d.nodeIds.Nodup
        ∧ (∀ t ∈ Tree.forestPreorder d.nodes, r.contains t.value.type = true)
        ∧ (∀ t ∈ Tree.forestPreorder d.nodes, t.children ≠ [] →
          isContainer t.value.type = true)
        ∧ (∀ t ∈ Tree.forestPreorder d.nodes, ∀ handle target,
          t.value.outputs.get handle = .node target → target ∈ d.nodeIds)
        ∧ (∀ id, d.startNode? = some id → id ∈ d.nodeIds)
        ∧ (∀ id ∈ d.triggers, id ∈ d.nodeIds)
        ∧ ∀ t ∈ Tree.forestPreorder d.nodes, t.value.type = agentType →
          d.NamesModel t.value.config ∧ d.NamesEmbeddings t.value.config := by
  have levels : Tree.forestHeight d.nodes ≤ maxDepth + 1 ↔
      ∀ level t, Tree.StandsAt d.nodes level t → level ≤ maxDepth := by
    simp only [Tree.forestHeight_le_iff_standsAt, Nat.lt_succ_iff]
  rw [check_errors_eq_nil_iff_valid, ← levels]
  constructor
  · intro valid
    exact ⟨valid.shallow, valid.visible, valid.distinct, valid.registered, valid.contain,
      valid.attached, valid.start, valid.triggers,
      (agentFaults_allProfiles_iff valid.distinct valid.visible).1 valid.agents⟩
  · rintro ⟨shallow, visible, distinct, registered, contain, attached, start, triggers, agents⟩
    exact
      { shallow, visible, contain, registered, distinct, attached, start, triggers
        agents := (agentFaults_allProfiles_iff distinct visible).2 agents }

end Workflow.Document
