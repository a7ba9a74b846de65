import Workflow.Proofs.Compile.Content
import Workflow.Proofs.Graph.Upstream
import Workflow.Proofs.Scope

/-!
# References in a bot that is opened again

A graph that is compiled and loaded comes back with its nodes in another order, with its edges in
another order and under other ids. The search for predecessors then discovers them in another
order too, so that what a node is offered is listed differently. It is offered the same outputs
nevertheless: which nodes lie upstream is a matter of the content of the graph, and so is what is
found under their ids. A reference resolves as soon as one of the outputs is meant by it, whichever
comes first; the references that are reported are therefore the same ones in the same order, which
is that of the configuration.

## Main results

* `SameContent.visibleOutputs_perm`: graphs of the same content offer a node the same outputs.
* `SameContent.unresolved_eq`: graphs of the same content report the same references.
* `references_of_load`: **no reference resolves or ceases to when a bot is saved and opened again.**
-/

namespace Workflow.Graph

variable {g g' : Graph} {r : Registry} {id : String} {offers : List VisibleOutput}

/-! ### The order of what is offered -/

/-- Whether a reference means one of the outputs does not depend on their order. -/
theorem isOffered_perm {offers' : List VisibleOutput} (perm : offers.Perm offers')
    (ref : Reference) : isOffered offers ref = isOffered offers' ref := by
  rw [Bool.eq_iff_iff, isOffered, isOffered, List.any_eq_true, List.any_eq_true]
  simp only [perm.mem_iff]

/-- The references that are reported do not depend on the order of the outputs. -/
theorem unresolvedIn_perm {offers' : List VisibleOutput} (perm : offers.Perm offers')
    (config : Json.Fields) : unresolvedIn offers config = unresolvedIn offers' config := by
  have offered : isOffered offers = isOffered offers' := funext (isOffered_perm perm)
  rw [unresolvedIn, unresolvedIn, offered]

/-! ### Graphs of the same content -/

/-- The ids are the same, in some order. -/
theorem SameContent.nodeIds_perm (same : SameContent g g') : g.nodeIds.Perm g'.nodeIds :=
  same.nodes.map _

/-- The same ids are known. -/
theorem SameContent.contains_eq (same : SameContent g g') (id : String) :
    g.contains id = g'.contains id := by
  rw [Bool.eq_iff_iff, contains_iff_mem_nodeIds, contains_iff_mem_nodeIds,
    same.nodeIds_perm.mem_iff]

/-- The same node is found under an id. -/
theorem SameContent.node?_eq (same : SameContent g g') (distinct : g.nodeIds.Nodup) :
    g.node? = g'.node? := by
  funext id
  rw [node?_eq_find?, node?_eq_find?]
  exact find?_key_of_perm distinct same.nodes id

/-- Edges lead from the same nodes to the same ids. -/
theorem SameContent.leadsTo_eq (same : SameContent g g') : g.LeadsTo = g'.LeadsTo := by
  funext source target
  rw [eq_iff_iff, LeadsTo, LeadsTo, same.nodeIds_perm.mem_iff]
  simp only [same.links]

/-- The same nodes lie upstream, whatever the order in which they are discovered. -/
theorem SameContent.predecessors_perm (same : SameContent g g') (id : String) :
    (g.predecessors id).Perm (g'.predecessors id) := by
  rw [List.perm_ext_iff_of_nodup (g.nodup_predecessors id) (g'.nodup_predecessors id)]
  intro other
  rw [mem_predecessors_iff, mem_predecessors_iff, same.leadsTo_eq]

/-- **Graphs of the same content offer a node the same outputs**, in some order. -/
theorem SameContent.visibleOutputs_perm (same : SameContent g g') (distinct : g.nodeIds.Nodup)
    (seen : g.visibleOutputs r id = .ok offers) :
    ∃ offers', g'.visibleOutputs r id = .ok offers' ∧ offers'.Perm offers := by
  obtain ⟨known, rfl⟩ := visibleOutputs_eq_ok_iff.1 seen
  rw [same.contains_eq] at known
  refine ⟨_, visibleOutputs_eq_ok_iff.2 ⟨known, rfl⟩, ?_⟩
  rw [same.node?_eq distinct]
  exact ((same.predecessors_perm id).symm.filterMap _).flatMap_right _

/-- What is reported of a node that is found, with what it is offered. -/
theorem unresolved_eq_ok {n : Node} (found : g.node? id = some n)
    (seen : g.visibleOutputs r id = .ok offers) :
    g.unresolved r id = .ok (unresolvedIn offers n.config) := by
  rw [unresolved, found, seen]
  rfl

/-- A node that is found sees some outputs, be it none. -/
theorem exists_visibleOutputs {n : Node} (found : g.node? id = some n) (r : Registry) :
    ∃ offers, g.visibleOutputs r id = .ok offers := by
  obtain ⟨hn, rfl⟩ := mem_of_node?_eq_some found
  have known : g.contains n.id = true := (g.contains_iff_mem_nodeIds _).2 (List.mem_map_of_mem hn)
  exact ⟨_, visibleOutputs_eq_ok_iff.2 ⟨known, rfl⟩⟩

/-- **Graphs of the same content report the same references**, in the same order. -/
theorem SameContent.unresolved_eq (same : SameContent g g') (distinct : g.nodeIds.Nodup)
    (r : Registry) (id : String) : g'.unresolved r id = g.unresolved r id := by
  cases found : g.node? id with
  | none =>
    have missing : g'.node? id = none := same.node?_eq distinct ▸ found
    rw [unresolved, unresolved, found, missing]
  | some n =>
    have found' : g'.node? id = some n := same.node?_eq distinct ▸ found
    obtain ⟨offers, seen⟩ := exists_visibleOutputs found r
    obtain ⟨offers', seen', perm⟩ := same.visibleOutputs_perm distinct seen
    rw [unresolved_eq_ok found seen, unresolved_eq_ok found' seen', unresolvedIn_perm perm]

/-! ### Saving and opening again -/

/-- **No reference resolves or ceases to when a bot is saved and opened again.** Whatever a graph is
compiled to and loaded back as under the same settings, every node of it is offered the same
outputs, in some order, and the same references of it are reported, in the same order; and both
questions have an answer. -/
theorem references_of_load {s : Settings} {d : Document} (compiled : g.compile s = .ok d)
    (loaded : d.load s.registry s.maxDepth = .ok g') (r : Registry) {id : String}
    (node : id ∈ g.nodeIds) :
    ∃ offers offers' reports,
      g.visibleOutputs r id = .ok offers ∧ g'.visibleOutputs r id = .ok offers'
        ∧ offers'.Perm offers
        ∧ g.unresolved r id = .ok reports ∧ g'.unresolved r id = .ok reports := by
  obtain ⟨-, isGraph⟩ := Document.valid_of_load loaded
  have same : SameContent g g' := (sameContent_of_isGraphOf compiled isGraph).symm
  have distinct : g.nodeIds.Nodup := (wellFormed_of_compile compiled).nodeIds_nodup
  obtain ⟨n, hn, rfl⟩ := List.mem_map.1 node
  have found : g.node? n.id = some n := (node?_eq_some_iff distinct).2 ⟨hn, rfl⟩
  obtain ⟨offers, seen⟩ := exists_visibleOutputs found r
  obtain ⟨offers', seen', perm⟩ := same.visibleOutputs_perm distinct seen
  have reports := unresolved_eq_ok found seen
  exact ⟨offers, offers', _, seen, seen', perm, reports,
    (same.unresolved_eq distinct r n.id).trans reports⟩

/-- A reference to a node that does not exist. -/
def strayReference : String :=
  Reference.render "Nobody" "name"

/-- A message behind a trigger and behind the branches that the trigger starts. The edge from the
branches was drawn before those from the trigger, and one of the two references in the message
names nothing. -/
def reportGraph : Graph :=
  .ofLists
    [{ id := "start", type := "trigger.manual", label := "Start", category := .trigger },
      { id := "both", type := "control.parallel", label := "Both", category := .control },
      { id := "log", type := "logging.log", label := "Log", category := .logging,
        config :=
          [("message", .str (Reference.render "Both" "results[0]" ++ " for " ++ strayReference))] }]
    [.canonical "both" "log" .success, .canonical "start" "both" .success,
      .canonical "start" "log" .error]

/-- The message is offered the outputs in another order once the bot was opened again, and the
reference that names nothing is still the only one that is reported. -/
theorem references_of_load_reportGraph :
    ∃ d g', reportGraph.compile (.standard { id := "bot", name := "Bot" }) = .ok d
      ∧ d.load .builtin defaultMaxDepth = .ok g'
      ∧ ∃ offers offers', reportGraph.visibleOutputs .builtin "log" = .ok offers
        ∧ g'.visibleOutputs .builtin "log" = .ok offers'
        ∧ offers'.Perm offers ∧ offers' ≠ offers
        ∧ reportGraph.unresolved .builtin "log" = .ok [⟨"message", strayReference⟩]
        ∧ g'.unresolved .builtin "log" = .ok [⟨"message", strayReference⟩] := by
  have shown : (reportGraph.compile
      (.standard { id := "bot", name := "Bot" })).toOption.any (fun d =>
      (d.load .builtin defaultMaxDepth).toOption.any fun g' =>
        (g'.visibleOutputs .builtin "log").toOption
          != (reportGraph.visibleOutputs .builtin "log").toOption) = true := by
    decide +kernel
  have unmeant : (reportGraph.unresolved .builtin "log").toOption.any
      (· == [⟨"message", strayReference⟩]) = true := by
    decide +kernel
  have node : "log" ∈ reportGraph.nodeIds := by decide
  obtain ⟨d, compiled, shown⟩ := exists_eq_ok_of_any shown
  obtain ⟨g', loaded, moved⟩ := exists_eq_ok_of_any shown
  obtain ⟨reports, reported, same⟩ := exists_eq_ok_of_any unmeant
  obtain rfl := eq_of_beq same
  obtain ⟨offers, offers', _, seen, seen', perm, before, after⟩ :=
    references_of_load compiled loaded .builtin node
  cases before.symm.trans reported
  refine ⟨d, g', compiled, loaded, offers, offers', seen, seen', perm, ?_, before, after⟩
  rintro rfl
  rw [seen, seen'] at moved
  exact bne_iff_ne.1 moved rfl

end Workflow.Graph
