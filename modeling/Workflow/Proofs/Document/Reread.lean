import Workflow.Proofs.Agent
import Workflow.Proofs.Compile.Sentinel
import Workflow.Proofs.Document.Reading
import Workflow.Proofs.Document.Valid

/-!
# What is read back is valid

Reading a document back changes numbers, and takes a node `END` that something leads to for the
end of the flow. Neither is anything that the check of a document looks at: references of agents
are texts, and an output that leads nowhere needs no node.

## Main results

* `setting?_rereadFields`: settings of agents are read back.
* `Document.Valid.reread`: **what a valid document is read as is valid.**
-/

namespace Workflow

open Json

variable {read? : NumberReading}

/-! ### Settings -/

/-- What stands under a key is read back. -/
theorem Fields.get?_rereadFields (key : String) (fields : Fields) :
    Fields.get? key (Value.rereadFields read? fields)
      = (Fields.get? key fields).map (Value.reread read?) := by
  induction fields with
  | nil => rfl
  | cons e rest ih =>
    obtain ⟨k, v⟩ := e
    rw [Value.rereadFields, Fields.get?, Fields.get?]
    split
    · rfl
    · exact ih

/-- A text is read back, and nothing else is read as one. -/
theorem text?_reread (v : Value) : (v.reread read?).text? = v.text? := by
  cases v <;> rfl

/-- Settings are read back. -/
theorem setting?_rereadFields (config : Fields) (key : String) :
    setting? (Value.rereadFields read? config) key = setting? config key := by
  have same : ((Fields.get? key config).map (Value.reread read?)).bind Value.text?
      = (Fields.get? key config).bind Value.text? := by
    cases Fields.get? key config with
    | none => rfl
    | some v => exact text?_reread v
  rw [setting?, Fields.get?_rereadFields, same, setting?]

/-- What the checks look at, as it is read back. -/
def Profile.reread (read? : NumberReading) (p : Profile) : Profile :=
  { p with config := Value.rereadFields read? p.config }

/-- The references of agents are judged by ids, types and settings alone. -/
theorem agentFaults_map (profiles : List Profile) {f : Profile → Profile}
    (id : ∀ p, (f p).id = p.id) (type : ∀ p, (f p).type = p.type)
    (setting : ∀ p key, setting? (f p).config key = setting? p.config key) :
    agentFaults (profiles.map f) = agentFaults profiles := by
  have types : typeOf? (profiles.map f) = typeOf? profiles := by
    funext wanted
    rw [typeOf?, typeOf?, ← List.map_reverse, List.find?_map, Option.map_map]
    have found : (fun p : Profile => p.id == wanted) ∘ f = fun p => p.id == wanted :=
      funext fun p => by rw [Function.comp_apply, id]
    have kept : (fun p : Profile => p.type) ∘ f = fun p => p.type :=
      funext fun p => by rw [Function.comp_apply, type]
    rw [found, kept]
  rw [agentFaults, List.flatMap_map, agentFaults]
  refine List.flatMap_congr fun p _ => ?_
  rw [faultsOf_of_typeOf? types, id]
  simp only [faultsOf, modelFault?, embeddingsFault?, type, setting]

/-! ### Documents -/

namespace Document

variable {d : Document} {r : Registry} {maxDepth : Nat}

/-- The ids of what is read are those of the document. -/
theorem nodeIds_reread (read? : NumberReading) (d : Document) :
    (d.reread read?).nodeIds = d.nodeIds :=
  Tree.forestKeys_map Block.id (Block.reread read?) d.nodes

/-- What the agent checks look at is read back, but for numbers. -/
theorem allProfiles_reread (read? : NumberReading) (d : Document) :
    (d.reread read?).allProfiles = d.allProfiles.map (Profile.reread read?) := by
  rw [allProfiles, reread, Tree.forestPreorder_map, List.map_map, allProfiles, List.map_map]
  refine List.map_congr_left fun t _ => ?_
  simp only [Function.comp_apply, Tree.value_map]
  rfl

/-- **What a valid document is read as is valid.** -/
theorem Valid.reread (valid : d.Valid r maxDepth) : (d.reread read?).Valid r maxDepth := by
  have ids := nodeIds_reread read? d
  -- every tree that is read is that of a tree of the document
  have trees : ∀ t ∈ Tree.forestPreorder (d.reread read?).nodes,
      ∃ u ∈ Tree.forestPreorder d.nodes, u.map (Block.reread read?) = t :=
    fun t => Tree.mem_forestPreorder_map.1
  constructor
  case shallow =>
    rw [Document.reread, Tree.forestHeight_map]
    exact valid.shallow
  case visible =>
    intro t ht
    obtain ⟨u, hu, rfl⟩ := trees t ht
    rw [Tree.value_map]
    exact valid.visible u hu
  case contain =>
    intro t ht some_inside
    obtain ⟨u, hu, rfl⟩ := trees t ht
    rw [Tree.value_map]
    exact valid.contain u hu (mt Tree.children_map_eq_nil_iff.2 some_inside)
  case registered =>
    intro t ht
    obtain ⟨u, hu, rfl⟩ := trees t ht
    rw [Tree.value_map]
    exact valid.registered u hu
  case distinct => exact ids ▸ valid.distinct
  case attached =>
    intro t ht handle target leads
    obtain ⟨u, hu, rfl⟩ := trees t ht
    rw [Tree.value_map] at leads
    have written : Target.ofText (u.value.outputs.get handle).text = .node target := by
      cases handle <;> exact leads
    rw [ids]
    exact valid.attached u hu handle target (Target.ofText_text_eq_node_iff.1 written).2
  case start => exact ids ▸ valid.start
  case triggers => exact ids ▸ valid.triggers
  case agents =>
    have same : agentFaults (d.allProfiles.map (Profile.reread read?))
        = agentFaults d.allProfiles :=
      agentFaults_map _ (fun _ => rfl) (fun _ => rfl) fun p => setting?_rereadFields p.config
    rw [allProfiles_reread, same]
    exact valid.agents

end Document

end Workflow
