import Workflow.Proofs.Precedence
import Workflow.Proofs.RoundTrip

/-!
# What a compiled document depends on

Of the order of the nodes a document keeps only the order of siblings, of the edges only where
they start and where they lead. Two graphs that agree in this have the same content. They are
compiled alike, because all that the compiler looks up in them is the same: the children of a
node, the nodes at the top level, and where a node goes on. Conversely a document determines
the graph it is loaded as, and this graph has the content of every graph the document can have
been compiled from.

## Main results

* `SameContent.nest_eq`: graphs of the same content are nested alike.
* `SameContent.compile_eq_ok`: what one of them is compiled to, the other is.
* `sameContent_of_compile`: graphs that are compiled to the same document have the same content.
* `compile_by_content`: **the document depends on the content**, and on nothing else.
-/

namespace Workflow.Graph

variable {g g' : Graph} {s : Settings} {d : Document}

/-! ### Content -/

/-- Graphs of the same content: the same nodes, those with the same parent created in the same
order, and edges that lead from the same nodes by the same handles to the same nodes. -/
structure SameContent (g g' : Graph) : Prop where
  /-- The nodes are the same, in some order. -/
  nodes : g.nodes.Perm g'.nodes
  /-- Of nodes with the same parent, or both at the top level, the same one stands first. -/
  siblings : ∀ a ∈ g.nodes, ∀ b ∈ g.nodes, a.parent? = b.parent? →
    (Before g.nodes a b ↔ Before g'.nodes a b)
  /-- The edges lead the same way, whatever their order and their ids. -/
  links : ∀ link, link ∈ g.links ↔ link ∈ g'.links

/-- What has the same content has it in both directions. -/
theorem SameContent.symm (same : SameContent g g') : SameContent g' g where
  nodes := same.nodes.symm
  siblings a ha b hb parent :=
    (same.siblings a (same.nodes.mem_iff.2 ha) b (same.nodes.mem_iff.2 hb) parent).symm
  links link := (same.links link).symm

/-- Graphs with the content of a third one have the same content. -/
theorem SameContent.trans {g'' : Graph} (same : SameContent g g') (same' : SameContent g' g'') :
    SameContent g g'' where
  nodes := same.nodes.trans same'.nodes
  siblings a ha b hb parent :=
    (same.siblings a ha b hb parent).trans
      (same'.siblings a (same.nodes.mem_iff.1 ha) b (same.nodes.mem_iff.1 hb) parent)
  links link := (same.links link).trans (same'.links link)

/-- The order of siblings, told for all siblings at once. -/
theorem sameContent_of_filter (nodes : g.nodes.Perm g'.nodes)
    (siblings : ∀ parent?, g.nodes.filter (·.parent? == parent?)
      = g'.nodes.filter (·.parent? == parent?))
    (links : ∀ link, link ∈ g.links ↔ link ∈ g'.links) : SameContent g g' where
  nodes := nodes
  siblings a _ b _ parent := by
    have pa : (a.parent? == b.parent?) = true := beq_iff_eq.2 parent
    have pb : (b.parent? == b.parent?) = true := beq_self_eq_true b.parent?
    exact ⟨.of_filter_eq (siblings b.parent?) pa pb,
      .of_filter_eq (siblings b.parent?).symm pa pb⟩
  links := links

/-! ### Graphs of the same content -/

/-- The nodes with the same parent are the same, in the same order. -/
theorem SameContent.filter_nodes (same : SameContent g g') (distinct : g.nodeIds.Nodup)
    (parent? : Option String) :
    g.nodes.filter (·.parent? == parent?) = g'.nodes.filter (·.parent? == parent?) := by
  refine filter_eq_of_before distinct.of_map same.nodes fun a ha b hb pa pb => ?_
  rw [beq_iff_eq] at pa pb
  exact (same.siblings a ha b hb (pa.trans pb.symm)).2

/-- The children of a node are the same. -/
theorem SameContent.childrenOf_eq (same : SameContent g g') (distinct : g.nodeIds.Nodup)
    (id : String) : g.childrenOf id = g'.childrenOf id := by
  rw [childrenOf_eq_filter, childrenOf_eq_filter, same.filter_nodes distinct]

/-- The nodes at the top level are the same. -/
theorem SameContent.topLevel_eq (same : SameContent g g') (distinct : g.nodeIds.Nodup) :
    g.topLevel = g'.topLevel := by
  rw [topLevel_eq_filter, topLevel_eq_filter, same.filter_nodes distinct]

/-- A node is handed over as the same block. -/
theorem SameContent.block_eq (same : SameContent g g') (wf : g.WellFormed) (wf' : g'.WellFormed)
    (n : Node) : g.block n = g'.block n := by
  have target : ∀ handle, g.targetOf n.id handle = g'.targetOf n.id handle := by
    refine fun handle => Target.eq_of_node_iff fun id => ?_
    rw [targetOf_eq_node_iff wf.handlesDistinct, targetOf_eq_node_iff wf'.handlesDistinct]
    exact same.links _
  rw [block, block, target, target]

/-- **Graphs of the same content are nested alike.** The induction is on the levels. -/
theorem SameContent.nest_eq (same : SameContent g g') (wf : g.WellFormed) (wf' : g'.WellFormed)
    (maxDepth levels : Nat) : g.nest maxDepth levels = g'.nest maxDepth levels := by
  induction levels with
  | zero => rfl
  | succ levels ih =>
    funext n
    rw [nest, nest, ih, same.childrenOf_eq wf.nodeIds_nodup, same.block_eq wf wf']

/-- Nothing is wrong with a graph if nothing is wrong with one of the same content. -/
theorem SameContent.problems_eq_nil (same : SameContent g g') (wf' : g'.WellFormed)
    {r : Registry} (clean : g.problems r = []) : g'.problems r = [] := by
  obtain ⟨wf, follow, agents⟩ := problems_eq_nil_iff_wellFormed.1 clean
  refine problems_eq_nil_iff_wellFormed.2
    ⟨wf', fun n hn => follow n (same.nodes.mem_iff.2 hn), ?_⟩
  refine agentFaults_eq_nil_of_perm ?_ (same.nodes.map _) agents
  rw [List.map_map]
  exact wf.nodeIdsDistinct

/-- **What a graph is compiled to**, every graph of the same content is. -/
theorem SameContent.compile_eq_ok (same : SameContent g g') (wf' : g'.WellFormed)
    (compiled : g.compile s = .ok d) : g'.compile s = .ok d := by
  have wf := wellFormed_of_compile compiled
  obtain ⟨clean, ts, nested, rfl⟩ := compile_eq_ok_iff.1 compiled
  have top := same.topLevel_eq wf.nodeIds_nodup
  refine compile_eq_ok_iff.2 ⟨same.problems_eq_nil wf' clean, ts, ?_, ?_⟩
  · rwa [← top, ← same.nest_eq wf wf']
  · exact assemble_of_topLevel top.symm s ts

/-! ### Graphs of the same document -/

/-- **A compiled document determines the content of the graph**: what it is loaded as has the same
content. -/
theorem sameContent_of_isGraphOf (compiled : g.compile s = .ok d)
    (isGraph : Document.IsGraphOf s.registry d g') : SameContent g' g := by
  obtain ⟨clean, -⟩ := compile_eq_ok_iff.1 compiled
  obtain ⟨wf, follow, -⟩ := problems_eq_nil_iff_wellFormed.1 clean
  obtain ⟨forest, isForest, -, rfl⟩ := exists_forest_of_compile compiled
  have nodes := nodes_eq_forestValues follow isForest isGraph
  refine sameContent_of_filter (nodes ▸ isForest.values_perm wf) (fun parent? => ?_) fun link => ?_
  · rw [nodes]
    exact isForest.filter_values wf parent?
  · rw [isGraph.links]
    exact (links_assemble_perm wf isForest).mem_iff

/-- **Graphs that are compiled to the same document have the same content.** -/
theorem sameContent_of_compile (compiled : g.compile s = .ok d) (compiled' : g'.compile s = .ok d) :
    SameContent g g' := by
  obtain ⟨loaded, -, isGraph⟩ := (valid_of_compile compiled).load_ok
  exact (sameContent_of_isGraphOf compiled isGraph).symm.trans
    (sameContent_of_isGraphOf compiled' isGraph)

/-- **The document depends on the content of a graph**, and on nothing else: two graphs with which
nothing is wrong are both refused or compiled to one document if they have the same content,
whatever the order and the ids of their edges, and only graphs of the same content are compiled
to one document. -/
theorem compile_by_content (clean : g.violations = []) (clean' : g'.violations = []) :
    (SameContent g g' →
        (∃ errors errors', g.compile s = .error errors ∧ g'.compile s = .error errors')
          ∨ ∃ d, g.compile s = .ok d ∧ g'.compile s = .ok d)
      ∧ ∀ d, g.compile s = .ok d → g'.compile s = .ok d → SameContent g g' := by
  have wf := wellFormed_of_violations_eq_nil clean
  have wf' := wellFormed_of_violations_eq_nil clean'
  refine ⟨fun same => ?_, fun d => sameContent_of_compile⟩
  cases compiled : g.compile s with
  | ok d => exact .inr ⟨d, rfl, same.compile_eq_ok wf' compiled⟩
  | error errors =>
    cases compiled' : g'.compile s with
    | error errors' => exact .inl ⟨errors, errors', rfl, rfl⟩
    | ok d =>
      rw [same.symm.compile_eq_ok wf compiled'] at compiled
      cases compiled

/-- The trigger of a bot that runs over and over. -/
def startNode : Node :=
  { id := "start", type := "trigger.manual", label := "Start", category := .trigger }

/-- A container behind the trigger. -/
def branchNode : Node :=
  { id := "branch", type := "control.parallel", label := "Branch", category := .control }

/-- The node in the container. -/
def innerNode : Node :=
  { id := "inner", type := "control.stop", label := "Inner", category := .control,
    parent? := some "branch" }

/-- The bot as it was drawn from the outside to the inside. -/
def drawnOutside : Graph :=
  .ofLists [startNode, branchNode, innerNode]
    [.canonical "start" "branch" .success, .canonical "branch" "start" .success]

/-- The bot as it was drawn from the inside to the outside, with other edges. -/
def drawnInside : Graph :=
  .ofLists [innerNode, startNode, branchNode]
    [⟨"again", "branch", "start", .success⟩, ⟨"first", "start", "branch", .success⟩]

/-- However the bot is drawn, it is compiled to one document. -/
theorem compile_by_content_drawn :
    drawnOutside.violations = [] ∧ drawnInside.violations = []
      ∧ SameContent drawnOutside drawnInside
      ∧ ∃ d, drawnOutside.compile (.standard { id := "bot", name := "Bot" }) = .ok d
        ∧ drawnInside.compile (.standard { id := "bot", name := "Bot" }) = .ok d := by
  have clean : drawnOutside.violations = [] := by decide +kernel
  have clean' : drawnInside.violations = [] := by decide +kernel
  have compiles : (drawnOutside.compile
      (.standard { id := "bot", name := "Bot" })).toOption.isSome = true := by
    decide +kernel
  have same : SameContent drawnOutside drawnInside := by
    refine sameContent_of_filter ?_ (fun parent? => ?_) fun link => ?_
    · exact (List.perm_append_comm :
        ([startNode, branchNode] ++ [innerNode]).Perm ([innerNode] ++ [startNode, branchNode]))
    · by_cases top : parent? = none
      · subst top
        rfl
      · have outside : (none == parent?) = false := beq_eq_false_iff_ne.2 (Ne.symm top)
        simp [drawnOutside, drawnInside, ofLists, startNode, branchNode, innerNode,
          List.filter_cons, outside]
    · simp [links, drawnOutside, drawnInside, ofLists, Edge.canonical, or_comm]
  refine ⟨clean, clean', same, ?_⟩
  obtain ⟨errors, -, refused, -⟩ | both := (compile_by_content clean clean').1 same
  · rw [refused] at compiles
    cases compiles
  · exact both

end Workflow.Graph
