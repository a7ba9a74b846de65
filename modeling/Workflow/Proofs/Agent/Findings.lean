import Workflow.Proofs.RoundTrip

/-!
# Findings about agents, in any order

A graph is checked in the order in which its nodes were created, the document it is compiled to in
pre-order. The checks of agents look up the type of an id in the list they are given, so that they
could find different things in the two. They do not: with distinct ids an id has one type, whatever
the order, and each node is given the same findings in the same order. Only the nodes change places.

## Main results

* `agree_agentWarnings`: the warnings agree in any order of nodes.
* `filterMap_agent?_check`: which warnings of a document check are about agents and models.
* `findings_decided`: **the findings do not depend on the order of nodes**, nor on whether they are
  those of a graph or of the document it is compiled to.
-/

namespace Workflow

/-! ### The findings of the checks -/

variable {profiles others : List Profile}

/-- The node a warning is about. -/
def AgentWarning.node : AgentWarning → String
  | defaultModel node => node
  | missingSetting node _ _ => node
  | memoryWithoutEmbeddings node => node

/-- Settings that are missing are missing from the node. -/
theorem node_of_mem_missingSettings {p : Profile} {needed : String → List String}
    {w : AgentWarning} (found : w ∈ missingSettings p needed) : w.node = p.id := by
  obtain ⟨key, -, rfl⟩ := List.mem_map.1 found
  rfl

/-- A warning about a node is about this node. -/
theorem node_of_mem_warningsOf {p : Profile} {w : AgentWarning} (found : w ∈ warningsOf p) :
    w.node = p.id := by
  rw [warningsOf] at found
  split at found
  · split at found
    · rw [List.mem_singleton.1 found]
      rfl
    · cases found
  · split at found
    · rcases List.mem_append.1 found with unnamed | missing
      · split at unnamed
        · rw [List.mem_singleton.1 unnamed]
          rfl
        · cases unnamed
      · exact node_of_mem_missingSettings missing
    · split at found
      · exact node_of_mem_missingSettings found
      · cases found

/-- The warnings that are given agree in any order of nodes. -/
theorem agree_agentWarnings (distinct : (profiles.map (·.id)).Nodup)
    (perm : profiles.Perm others) :
    Agree AgentWarning.node (agentWarnings profiles) (agentWarnings others) :=
  agree_flatMap distinct perm fun _ _ => node_of_mem_warningsOf

/-! ### A graph and the document it is compiled to -/

/-- What a warning says of an agent or a model, if it is about one. -/
def DocumentWarning.agent? : DocumentWarning → Option AgentWarning
  | .agent warning => some warning
  | _ => none

/-- The warnings of a document check about agents and models are those of the nodes it has met. -/
theorem filterMap_agent?_check {d : Document} {r : Registry} {maxDepth : Nat} :
    (d.check r maxDepth).warnings.filterMap DocumentWarning.agent?
      = agentWarnings (d.profiles maxDepth) := by
  have version : d.versionWarnings.filterMap DocumentWarning.agent? = [] := by
    rw [Document.versionWarnings]
    split <;> rfl
  simp [Document.filterMap_warnings_check, version, DocumentWarning.agent?]

/-- A compiled document has the nodes of its graph, in another order. -/
theorem profiles_perm_of_compile {g : Graph} {s : Graph.Settings} {d : Document}
    (compiled : g.compile s = .ok d) : (d.profiles s.maxDepth).Perm g.profiles := by
  have valid := Graph.valid_of_compile compiled
  have wf := Graph.wellFormed_of_compile compiled
  obtain ⟨forest, isForest, -, rfl⟩ := Graph.exists_forest_of_compile compiled
  have all : (g.assemble s (Tree.forestMap g.block forest)).profiles s.maxDepth
      = (g.assemble s (Tree.forestMap g.block forest)).allProfiles := by
    rw [Document.profiles, valid.visited_eq, Document.allProfiles]
  rw [all, Graph.allProfiles_assemble]
  exact (isForest.values_perm wf).map _

/-- **The findings do not depend on the order of nodes.** If ids are distinct, the same references
are broken and the same warnings are given in any order of the nodes, and what is found about one
node is found in the same order. So a graph that is compiled and its document agree: neither has
errors, and the document check gives the warnings about agents and models that the nodes of the
graph give, up to their order. -/
theorem findings_decided :
    (∀ profiles others : List Profile, (profiles.map (·.id)).Nodup → profiles.Perm others →
      Agree Prod.fst (agentFaults profiles) (agentFaults others)
        ∧ Agree AgentWarning.node (agentWarnings profiles) (agentWarnings others))
      ∧ ∀ (g : Graph) (s : Graph.Settings) (d : Document), g.compile s = .ok d →
        (d.check s.registry s.maxDepth).errors = [] ∧ agentFaults g.profiles = []
          ∧ Agree AgentWarning.node
            ((d.check s.registry s.maxDepth).warnings.filterMap DocumentWarning.agent?)
            (agentWarnings g.profiles) := by
  refine ⟨fun profiles others distinct perm =>
    ⟨agree_agentFaults distinct perm, agree_agentWarnings distinct perm⟩, ?_⟩
  intro g s d compiled
  have valid := Graph.valid_of_compile compiled
  have perm := profiles_perm_of_compile compiled
  obtain ⟨clean, -⟩ := Graph.compile_eq_ok_iff.1 compiled
  obtain ⟨wf, -, agents⟩ := Graph.problems_eq_nil_iff_wellFormed.1 clean
  have distinct : ((d.profiles s.maxDepth).map (·.id)).Nodup := by
    refine (perm.map _).nodup_iff.2 ?_
    rw [Graph.profiles, List.map_map]
    exact wf.nodeIdsDistinct
  rw [filterMap_agent?_check]
  exact ⟨Document.check_errors_eq_nil_iff_valid.2 valid, agents,
    agree_agentWarnings distinct perm⟩

/-- An agent that searches its memory, and its model, which was created before the container that
it stands in, so that the document has the two in the other order. -/
def adviceGraph : Graph :=
  .ofLists
    [{ id := "gpt", type := "ai.model", label := "Model", category := .ai, parent? := some "both" },
      { id := "agent", type := "ai.agent", label := "Agent", category := .ai,
        config := [("model", .str "gpt"), ("message", .str "Hello"), ("memory", .str "both")] },
      { id := "both", type := "control.parallel", label := "Both", category := .control }]
    []

/-- The document of the agent and its model is checked with the warnings that the graph gives, and
so are the nodes of the graph in reverse, as `findings_decided` says. -/
theorem findings_decided_adviceGraph :
    (agentWarnings adviceGraph.profiles).length = 3
      ∧ Agree AgentWarning.node (agentWarnings adviceGraph.profiles)
        (agentWarnings adviceGraph.profiles.reverse)
      ∧ ∃ d, adviceGraph.compile (.standard { id := "bot", name := "Bot" }) = .ok d
        ∧ (d.check .builtin Graph.defaultMaxDepth).errors = []
        ∧ Agree AgentWarning.node
          ((d.check .builtin Graph.defaultMaxDepth).warnings.filterMap DocumentWarning.agent?)
          (agentWarnings adviceGraph.profiles) := by
  have compiles : (adviceGraph.compile
      (.standard { id := "bot", name := "Bot" })).toOption.isSome = true := by decide +kernel
  obtain ⟨d, compiled⟩ := exists_eq_ok_of_toOption compiles
  obtain ⟨reordered, of_compile⟩ := findings_decided
  obtain ⟨-, turned⟩ := reordered adviceGraph.profiles adviceGraph.profiles.reverse (by decide)
    (adviceGraph.profiles.reverse_perm).symm
  obtain ⟨clean, -, agree⟩ := of_compile adviceGraph _ d compiled
  exact ⟨by decide +kernel, turned, d, compiled, clean, agree⟩

end Workflow
