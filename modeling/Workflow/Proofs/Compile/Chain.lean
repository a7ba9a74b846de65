import Workflow.Proofs.Compile.Acceptance

/-!
# Chains of containers

The deepest graph there is with so many nodes: containers, each of which stands in the one before
it. All that can keep a chain from being compiled is its length.

## Main results

* `wellFormed_chain`, `depth_chain`: a chain is well formed, and a node stands in all before it.
* `exists_compile_chain_iff`: **a chain is compiled** exactly if it has no more than one node more
  than a node may stand in containers.
-/

namespace Workflow.Graph

/-- The id of a link of the chain. -/
def linkId (i : Nat) : String :=
  numberedId "n" i

/-- What a link of the chain stands in. -/
def linkParent? : Nat → Option String
  | 0 => none
  | i + 1 => some (linkId i)

/-- A link of the chain. -/
def link (i : Nat) : Node :=
  { id := linkId i, type := "control.parallel", label := linkId i, category := .control,
    parent? := linkParent? i }

/-- `n` containers, each of which stands in the one before it. -/
def chain (n : Nat) : Graph :=
  .ofLists ((List.range n).map link) []

variable {n : Nat}

/-- The nodes of a chain are its links. -/
theorem mem_nodes_chain {m : Node} : m ∈ (chain n).nodes ↔ ∃ i < n, link i = m := by
  simp [chain, ofLists]

/-- What holds of all nodes of a chain holds of every link. -/
theorem forall_nodes_chain {p : Node → Prop} :
    (∀ m ∈ (chain n).nodes, p m) ↔ ∀ i < n, p (link i) := by
  simp [chain, ofLists]

/-- No two links have the same id. -/
theorem nodup_nodeIds_chain (n : Nat) : (chain n).nodeIds.Nodup := by
  have ids : (chain n).nodeIds = (List.range n).map linkId := by
    simp [nodeIds, chain, ofLists, Function.comp_def, link]
  rw [ids]
  exact List.nodup_range.map (numberedId_injective "n")

/-- The id of a link is not blank. -/
theorem isBlank_linkId (i : Nat) : Text.isBlank (linkId i) = false := by
  have first : (linkId i).toList = 'n' :: '-' :: (Decimal.natText i).toList := by
    simp [linkId, numberedId]
  rw [Text.isBlank, first]
  rfl

/-- The parents of a link end at the first one. -/
theorem rooted_link {i : Nat} (hi : i < n) : Rooted (chain n) (link i) := by
  induction i with
  | zero => exact .top (mem_nodes_chain.2 ⟨0, hi, rfl⟩) rfl
  | succ i ih =>
    have above : i < n := by omega
    exact .child (mem_nodes_chain.2 ⟨i + 1, hi, rfl⟩) rfl (ih above)

/-- **A chain is well formed.** -/
theorem wellFormed_chain (n : Nat) : (chain n).WellFormed where
  nodeIdsVisible := forall_nodes_chain.2 fun i _ => isBlank_linkId i
  nodeIdsDistinct := nodup_nodeIds_chain n
  edgeIdsDistinct := List.nodup_nil
  edgesAttached := by rintro e ⟨⟩
  handlesDistinct := List.nodup_nil
  parentsContain := by
    refine forall_nodes_chain.2 fun i hi p hp => ?_
    cases i with
    | zero => cases hp
    | succ i =>
      have above : i < n := by omega
      exact ⟨link i, mem_nodes_chain.2 ⟨i, above, rfl⟩, Option.some.inj hp, rfl⟩
  rooted := forall_nodes_chain.2 fun _ hi => rooted_link hi

/-- **A link stands in all links before it.** -/
theorem depth_chain {i : Nat} (hi : i < n) : (chain n).depth (link i) = i := by
  induction i with
  | zero => exact depth_eq_zero (nodup_nodeIds_chain n) (mem_nodes_chain.2 ⟨0, hi, rfl⟩) rfl
  | succ i ih =>
    have above : i < n := by omega
    rw [depth_eq_succ (wellFormed_chain n) (mem_nodes_chain.2 ⟨i + 1, hi, rfl⟩)
      (mem_nodes_chain.2 ⟨i, above, rfl⟩) rfl, ih above]

/-- Nothing is wrong with a chain, its depth apart. -/
theorem problems_chain (n : Nat) : (chain n).problems .builtin = [] := by
  have first : nodeProblems .builtin (link 0) = [] := by decide +kernel
  obtain ⟨t, follows⟩ := nodeProblems_eq_nil_iff.1 first
  refine problems_eq_nil_iff_wellFormed.2 ⟨wellFormed_chain n, ?_, ?_⟩
  · -- the templates look at nothing in which a link differs from the first one
    exact forall_nodes_chain.2 fun i _ => ⟨t, follows.found, follows.category, follows.config⟩
  · rw [agentFaults, profiles, List.flatMap_map, List.flatMap_eq_nil_iff]
    exact forall_nodes_chain.2 fun i _ => rfl

/-- **A chain is compiled** exactly if it has no more than one node more than a node may stand in
containers. -/
theorem exists_compile_chain_iff {bot : Metadata} {vars : Variables} {maxDepth : Nat} :
    (∃ d, (chain n).compile ⟨bot, vars, .builtin, maxDepth⟩ = .ok d) ↔ n ≤ maxDepth + 1 := by
  have clean : (chain n).problems (⟨bot, vars, .builtin, maxDepth⟩ : Settings).registry = [] :=
    problems_chain n
  rw [exists_compile_iff_depth_le clean, forall_nodes_chain]
  constructor
  · intro within
    cases n with
    | zero => exact Nat.zero_le _
    | succ n =>
      have last := within n n.lt_succ_self
      rw [depth_chain n.lt_succ_self] at last
      exact Nat.succ_le_succ last
  · intro short i hi
    rw [depth_chain hi]
    exact Nat.le_of_lt_succ (Nat.lt_of_lt_of_le hi short)

end Workflow.Graph
