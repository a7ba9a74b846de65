import Workflow.Proofs.Agent
import Workflow.Proofs.Compile
import Workflow.Proofs.Document.Loading

/-!
# Loading and compiling undo each other

Loading takes the nodes of a document out of their containers, compiling puts them back. Both
sides agree on what is in order, except that a document may have configurations that do not
fit the schema of their type.

From a document to a graph and back, nodes are matched with blocks: the children of a node are
the nodes of the children of its block, in the same order, because the pre-order has kept it.
From a graph to a document and back, a graph is matched with its forest, which is what the
document has as its nodes.

## Main results

* `IsGraphOf.compile_ok`: the graph of a valid document with which nothing is wrong is
  compiled to the nodes of the document.
* `compile_of_load`: **what was loaded is compiled to the same nodes**, unless configurations
  are invalid.
* `valid_of_compile`: a compiled document is valid.
* `load_of_compile`: **what was compiled is loaded as the same graph**, up to the order of nodes
  and edges and the ids of edges, and compiled to the same document again.
-/

namespace Workflow

namespace Document

variable {d : Document} {r : Registry} {maxDepth : Nat} {g : Graph}

/-! ### Blocks and their nodes -/

/-- Blocks with distinct ids lead where the links of the document say. -/
theorem get_outputs_eq_node_iff (distinct : d.nodeIds.Nodup) {t : Tree Block}
    (ht : t ∈ Tree.forestPreorder d.nodes) {handle : Handle} {target : String} :
    t.value.outputs.get handle = .node target ↔ (t.value.id, handle, target) ∈ d.links := by
  rw [mem_links_iff]
  constructor
  · exact fun leads => ⟨t, ht, rfl, leads⟩
  · rintro ⟨t', ht', same, leads⟩
    rwa [List.inj_on_of_nodup_map distinct ht' ht same] at leads

/-- **The node of a block is handed over as the block.** -/
theorem IsGraphOf.block_eq (isGraph : IsGraphOf r d g) (distinct : d.nodeIds.Nodup)
    {t : Tree Block} (ht : t ∈ Tree.forestPreorder d.nodes) {parent? : Option Block} {n : Node}
    (isNode : IsNodeOf r (t.value, parent?) n) : g.block n = t.value := by
  have outputs : (g.block n).outputs = t.value.outputs := by
    refine Outputs.eq_of_get fun handle => Target.eq_of_node_iff fun target => ?_
    rw [Graph.get_outputs_block,
      Graph.targetOf_eq_node_iff isGraph.wellFormed.handlesDistinct, isGraph.links,
      get_outputs_eq_node_iff distinct ht, isNode.id]
  cases block : t.value with
  | mk id type config label position description? outputs' =>
    rw [block] at isNode outputs
    rw [Graph.block, Block.mk.injEq]
    exact ⟨isNode.id, isNode.type, isNode.config, isNode.label, isNode.position,
      isNode.description, outputs⟩

/-- The nodes with a parent are those of the blocks that stand under it, in order. -/
theorem IsGraphOf.filter_nodes (isGraph : IsGraphOf r d g) (parent? : Option String) :
    List.Forall₂ (IsNodeOf r) (Tree.under Block.id parent? (Tree.forestPlaced none d.nodes))
      (g.nodes.filter (·.parent? == parent?)) := by
  refine List.rel_filter ?_ isGraph.nodes
  intro e n isNode
  show (e.2.map Block.id == parent?) = true ↔ (n.parent? == parent?) = true
  rw [isNode.parent]

/-- The nodes at the top level are those of the outermost blocks. -/
theorem IsGraphOf.topLevel (isGraph : IsGraphOf r d g) :
    List.Forall₂ (fun t n => IsNodeOf r (t.value, none) n) d.nodes g.topLevel := by
  have outside : ∀ id ∈ Tree.forestKeys Block.id d.nodes,
      (none : Option Block).map Block.id ≠ some id := by simp
  have roots : Tree.under Block.id none (Tree.forestPlaced none d.nodes)
      = d.nodes.map fun t => (t.value, none) :=
    Tree.under_forestPlaced_roots outside
  have nodes := isGraph.filter_nodes none
  rw [roots, ← g.topLevel_eq_filter] at nodes
  exact List.forall₂_map_left_iff.1 nodes

/-- The children of a node are those of the children of its block. -/
theorem IsGraphOf.childrenOf (isGraph : IsGraphOf r d g) (distinct : d.nodeIds.Nodup)
    {t : Tree Block} (ht : t ∈ Tree.forestPreorder d.nodes) :
    List.Forall₂ (fun c n => IsNodeOf r (c.value, some t.value) n) t.children
      (g.childrenOf t.value.id) := by
  have nodes := isGraph.filter_nodes (some t.value.id)
  rw [Tree.under_forestPlaced (by simp) d.nodes distinct ht, ← g.childrenOf_eq_filter] at nodes
  exact List.forall₂_map_left_iff.1 nodes

/-! ### From a document and back -/

/-- Nodes of blocks are nested as the blocks are, if each one is. -/
theorem forall₂_nest_of_isNodeOf {levels : Nat} {parent? : Option Block} {ts : List (Tree Block)}
    {nodes : List Node}
    (same : List.Forall₂ (fun t n => IsNodeOf r (t.value, parent?) n) ts nodes)
    (single : ∀ t ∈ ts, ∀ n, IsNodeOf r (t.value, parent?) n →
      g.nest maxDepth levels n = .ok t) :
    List.Forall₂ (fun n t => g.nest maxDepth levels n = .ok t) nodes ts := by
  exact (forall₂_imp_of_mem same single).flip

/-- **The node of a block is nested as the block is**, if that is not too deep. The induction is
on the levels that are left. -/
theorem IsGraphOf.nest_eq (isGraph : IsGraphOf r d g) (valid : d.Valid r maxDepth) {levels : Nat}
    {t : Tree Block} (ht : t ∈ Tree.forestPreorder d.nodes) (shallow : t.height ≤ levels)
    {parent? : Option Block} {n : Node} (isNode : IsNodeOf r (t.value, parent?) n) :
    g.nest maxDepth levels n = .ok t := by
  induction levels generalizing t parent? n with
  | zero =>
    obtain ⟨v, cs⟩ := t
    cases shallow
  | succ levels ih =>
    have below := Tree.height_le_succ_iff.1 shallow
    have children := isGraph.childrenOf valid.distinct ht
    have inner : (g.childrenOf n.id).mapM (g.nest maxDepth levels) = .ok t.children := by
      rw [mapM_eq_ok_iff, isNode.id]
      exact forall₂_nest_of_isNodeOf children fun c hc m =>
        ih (Tree.mem_forestPreorder_of_mem_children ht hc) (below c hc)
    -- a block that holds others is a container, so that its node is not refused
    have contains : g.childrenOf n.id ≠ [] → isContainer n.type = true := by
      intro some_inside
      rw [isNode.type]
      refine valid.contain t ht fun childless => some_inside ?_
      rw [childless, List.forall₂_nil_left_iff] at children
      rw [isNode.id, children]
    rw [Graph.nest_succ contains, inner, isGraph.block_eq valid.distinct ht isNode]
    cases t
    rfl

/-- **The graph of a valid document** with which nothing is wrong is compiled to the nodes of
the document. -/
theorem IsGraphOf.compile_ok {s : Graph.Settings} (isGraph : IsGraphOf s.registry d g)
    (valid : d.Valid s.registry s.maxDepth) (clean : g.problems s.registry = []) :
    g.compile s = .ok (g.assemble s d.nodes) := by
  refine Graph.compile_eq_ok_iff.2 ⟨clean, d.nodes, ?_, rfl⟩
  refine forall₂_nest_of_isNodeOf isGraph.topLevel fun t ht n isNode => ?_
  exact isGraph.nest_eq valid (Tree.mem_forestPreorder_of_mem ht)
    (Tree.forestHeight_le_iff.1 valid.shallow t ht) isNode

/-- The agent checks of a document and of its graph look at the same. -/
theorem IsGraphOf.profiles_eq (isGraph : IsGraphOf r d g) : g.profiles = d.allProfiles := by
  have same : ∀ b parent? n, IsNodeOf r (b, parent?) n →
      (⟨n.id, n.type, n.config⟩ : Profile) = ⟨b.id, b.type, b.config⟩ := by
    intro b parent? n isNode
    rw [isNode.id, isNode.type, isNode.config]
  exact map_of_isNodeOf same isGraph.nodes

/-- All that can be wrong with the graph of a valid document are configurations. -/
theorem IsGraphOf.mem_problems (isGraph : IsGraphOf r d g) (valid : d.Valid r maxDepth)
    {e : CompileError} (he : e ∈ g.problems r) : ∃ node issue, e = .invalidConfig node issue := by
  have agents : agentFaults g.profiles = [] := isGraph.profiles_eq ▸ valid.agents
  rw [Graph.problems, isGraph.wellFormed.violations_eq_nil, agents] at he
  simp only [List.map_nil, List.nil_append, List.append_nil, List.mem_flatMap] at he
  obtain ⟨n, hn, he⟩ := he
  obtain ⟨placed, -, isNode⟩ := exists_of_mem_right isGraph.nodes hn
  obtain ⟨t, found, category⟩ := isNode.category
  rw [← isNode.type] at found
  simp only [Graph.nodeProblems, found, category, if_true, List.nil_append, List.mem_map] at he
  obtain ⟨issue, -, rfl⟩ := he
  exact ⟨n.id, issue, rfl⟩

/-- **What was loaded is compiled to the same nodes**, each with everything that stands in it
and in the same order, unless configurations are invalid: nothing else can be wrong. -/
theorem compile_of_load (loaded : d.load r maxDepth = .ok g) (bot : Metadata)
    (vars : Variables) :
    (∃ d', g.compile ⟨bot, vars, r, maxDepth⟩ = .ok d' ∧ d'.nodes = d.nodes)
      ∨ ∃ errors, g.compile ⟨bot, vars, r, maxDepth⟩ = .error errors ∧ errors ≠ []
        ∧ ∀ e ∈ errors, ∃ node issue, e = .invalidConfig node issue := by
  obtain ⟨valid, isGraph⟩ := valid_of_load loaded
  by_cases clean : g.problems r = []
  · exact .inl ⟨_, isGraph.compile_ok (s := ⟨bot, vars, r, maxDepth⟩) valid clean, rfl⟩
  · exact .inr ⟨_, Graph.compile_eq_error_of_problems clean, clean,
      fun e he => isGraph.mem_problems valid he⟩

/-- A notice in a guarded part, beside which another part of the bot runs. -/
def noticeDocument : Document :=
  { version := currentVersion, bot := { id := "bot", name := "Bot" },
    nodes :=
      [.node { id := "start", type := "trigger.manual", outputs := ⟨.node "both", .finish⟩ } [],
        .node { id := "both", type := "control.parallel", outputs := ⟨.node "stop", .finish⟩ }
          [.node { id := "guard", type := "control.try_catch", outputs := {} }
            [.node
              { id := "tell", type := "logging.log", config := [("message", .str "Done")],
                outputs := ⟨.finish, .node "stop"⟩ }
              []],
            .node { id := "halt", type := "control.stop", outputs := {} } []],
        .node { id := "stop", type := "control.stop", outputs := {} } []] }

/-- A trigger that leads to a loop with a node in it. Two configurations lack what the schema
asks for, so that it is loaded, and compiling the graph finds just that. -/
def loopDocument : Document :=
  { version := currentVersion, bot := { id := "bot", name := "Bot" },
    nodes :=
      [.node { id := "start", type := "trigger.manual", outputs := ⟨.node "loop", .finish⟩ } [],
        .node { id := "loop", type := "control.loop", outputs := ⟨.finish, .node "start"⟩ }
          [.node { id := "body", type := "control.if", outputs := {} } []]] }

/-- Both outcomes that `compile_of_load` allows are met: the document with the notice is given back,
and of the one with the loop two configurations are found to be invalid. -/
theorem compile_of_load_noticeDocument :
    (∃ g, noticeDocument.load .builtin 2 = .ok g
      ∧ ∃ d', g.compile ⟨noticeDocument.bot, .empty, .builtin, 2⟩ = .ok d'
        ∧ d'.nodes = noticeDocument.nodes)
      ∧ ∃ g, loopDocument.load .builtin 1 = .ok g
        ∧ ∃ errors, g.compile ⟨loopDocument.bot, .empty, .builtin, 1⟩ = .error errors
          ∧ errors ≠ [] ∧ ∀ e ∈ errors, ∃ node issue, e = .invalidConfig node issue := by
  have back : (noticeDocument.load .builtin 2).toOption.any (fun g =>
      (g.compile ⟨noticeDocument.bot, .empty, .builtin, 2⟩).toOption.isSome) = true := by
    decide +kernel
  have refused : (loopDocument.load .builtin 1).toOption.any (fun g =>
      (g.compile ⟨loopDocument.bot, .empty, .builtin, 1⟩).toOption.isNone) = true := by
    decide +kernel
  obtain ⟨g, loaded, compiles⟩ := exists_eq_ok_of_any back
  obtain ⟨g', loaded', fails⟩ := exists_eq_ok_of_any refused
  constructor
  · rcases compile_of_load loaded noticeDocument.bot .empty with given_back | ⟨errors, wrong, -⟩
    · exact ⟨g, loaded, given_back⟩
    · rw [wrong] at compiles
      cases compiles
  · rcases compile_of_load loaded' loopDocument.bot .empty with ⟨d', compiled, -⟩ | invalid
    · rw [compiled] at fails
      cases fails
    · exact ⟨g', loaded', invalid⟩

end Document

namespace Graph

variable {g g' : Graph} {s : Settings} {d : Document} {r : Registry} {forest : List (Tree Node)}

/-! ### Compiled documents are valid -/

/-- The triggers of a document are nodes at the top level. -/
theorem mem_triggers_assemble {ts : List (Tree Block)} {id : String}
    (h : id ∈ (g.assemble s ts).triggers) : id ∈ g.topLevel.map (·.id) := by
  obtain ⟨n, hn, rfl⟩ := List.mem_map.1 h
  exact List.mem_map_of_mem (List.mem_filter.1 hn).1

/-- The start node of a document is a node at the top level. -/
theorem startNode?_assemble_mem {ts : List (Tree Block)} {id : String}
    (h : (g.assemble s ts).startNode? = some id) : id ∈ g.topLevel.map (·.id) := by
  rcases Option.or_eq_some_iff.1 h with trigger | ⟨-, first⟩
  · have listed : id ∈ (g.assemble s ts).triggers := List.mem_of_mem_head? trigger
    exact mem_triggers_assemble listed
  · obtain ⟨n, hn, rfl⟩ := Option.map_eq_some_iff.1 first
    exact List.mem_map_of_mem (List.mem_of_mem_head? hn)

/-- The ids of a compiled document are those of the forest. -/
theorem nodeIds_assemble (g : Graph) (s : Settings) (forest : List (Tree Node)) :
    (g.assemble s (Tree.forestMap g.block forest)).nodeIds = Tree.forestKeys Node.id forest :=
  Tree.forestKeys_map Block.id g.block forest

/-- The agent checks of a compiled document look at the nodes of the forest. -/
theorem allProfiles_assemble (g : Graph) (s : Settings) (forest : List (Tree Node)) :
    (g.assemble s (Tree.forestMap g.block forest)).allProfiles
      = (forestValues forest).map fun n => ⟨n.id, n.type, n.config⟩ := by
  rw [Document.allProfiles, assemble, Tree.forestPreorder_map, List.map_map, forestValues,
    List.map_map]
  refine List.map_congr_left fun t _ => ?_
  simp only [Function.comp_apply, Tree.value_map]
  rfl

/-- **A compiled document is valid**: the document check asks for nothing that the compiler has
not seen to. -/
theorem valid_of_compile (compiled : g.compile s = .ok d) :
    d.Valid s.registry s.maxDepth := by
  obtain ⟨clean, -⟩ := compile_eq_ok_iff.1 compiled
  obtain ⟨wf, follow, agents⟩ := problems_eq_nil_iff_wellFormed.1 clean
  obtain ⟨forest, isForest, shallow, rfl⟩ := exists_forest_of_compile compiled
  have ids := nodeIds_assemble g s forest
  -- every block of the document is that of a node of the forest, and so of the graph
  have trees : ∀ t ∈ Tree.forestPreorder (g.assemble s (Tree.forestMap g.block forest)).nodes,
      ∃ u ∈ Tree.forestPreorder forest, u.map g.block = t :=
    fun t => Tree.mem_forestPreorder_map.1
  have top : ∀ id ∈ g.topLevel.map (·.id), id ∈ Tree.forestKeys Node.id forest := by
    intro id hid
    obtain ⟨n, hn, rfl⟩ := List.mem_map.1 hid
    exact (isForest.mem_keys_iff wf).2 (List.mem_map_of_mem (mem_topLevel.1 hn).1)
  constructor
  case shallow =>
    rw [assemble, Tree.forestHeight_map]
    exact shallow
  case visible =>
    intro t ht
    obtain ⟨u, hu, rfl⟩ := trees t ht
    rw [Tree.value_map]
    exact wf.nodeIdsVisible _ (isForest.mem_nodes hu)
  case contain =>
    intro t ht holds
    obtain ⟨u, hu, rfl⟩ := trees t ht
    rw [Tree.value_map]
    exact isForest.isContainer_of_children wf hu (mt Tree.children_map_eq_nil_iff.2 holds)
  case registered =>
    intro t ht
    obtain ⟨u, hu, rfl⟩ := trees t ht
    obtain ⟨tmpl, follows⟩ := follow u.value (isForest.mem_nodes hu)
    rw [Tree.value_map, Registry.contains]
    exact Option.isSome_iff_exists.2 ⟨tmpl, follows.found⟩
  case distinct =>
    rw [ids]
    exact isForest.nodup_keys wf
  case attached =>
    intro t ht handle target leads
    obtain ⟨u, hu, rfl⟩ := trees t ht
    rw [Tree.value_map, get_outputs_block, targetOf_eq_node_iff wf.handlesDistinct] at leads
    obtain ⟨e, he, same⟩ := List.mem_map.1 leads
    have ends : e.target = target := congrArg (·.2.2) same
    rw [ids, isForest.mem_keys_iff wf, ← ends]
    exact (wf.edgesAttached e he).2
  case start =>
    intro id hid
    rw [ids]
    exact top id (startNode?_assemble_mem hid)
  case triggers =>
    intro id hid
    rw [ids]
    exact top id (mem_triggers_assemble hid)
  case agents =>
    rw [allProfiles_assemble]
    refine agentFaults_eq_nil_of_perm ?_ ((isForest.values_perm wf).symm.map _) agents
    rw [List.map_map]
    exact wf.nodeIdsDistinct

/-! ### From a graph and back -/

/-- The node that a block of a node becomes again is the node, if it is put where the node
stands and the node is stored with the category of its type. -/
theorem eq_of_isNodeOf_block {n m : Node} {placed? : Option Node} {t : Template}
    (isNode : Document.IsNodeOf r (g.block n, placed?.map g.block) m)
    (parent : n.parent? = placed?.map (·.id)) (follows : Follows r n t) : m = n := by
  -- a block has neither parent nor category: they come from its place and its type
  have same_parent : m.parent? = n.parent? := by
    rw [isNode.parent, parent, Option.map_map]
    rfl
  have same_category : m.category = n.category := by
    obtain ⟨t', found, category⟩ := isNode.category
    have same : some t = some t' := follows.found.symm.trans found
    cases same
    rw [category, follows.category]
  cases m
  cases n
  rw [Node.mk.injEq]
  exact ⟨isNode.id, isNode.type, isNode.label, isNode.config, same_category, isNode.position,
    same_parent, isNode.description⟩

/-- **The nodes that a compiled document is loaded as** are those of the forest of the graph. -/
theorem nodes_eq_forestValues (follow : ∀ n ∈ g.nodes, ∃ t, Follows s.registry n t)
    (isForest : g.IsForestOf forest)
    (isGraph : Document.IsGraphOf s.registry (g.assemble s (Tree.forestMap g.block forest)) g') :
    g'.nodes = forestValues forest := by
  have placed : Tree.forestPlaced none (Tree.forestMap g.block forest)
      = (Tree.forestPlaced none forest).map fun e => (g.block e.1, e.2.map g.block) :=
    Tree.forestPlaced_map g.block none forest
  have nodes := isGraph.nodes
  rw [assemble, placed, List.forall₂_map_left_iff] at nodes
  have same : List.Forall₂ (fun e n => e.1 = n) (Tree.forestPlaced none forest) g'.nodes := by
    refine forall₂_imp_of_mem nodes fun e he m isNode => ?_
    have listed := List.mem_map_of_mem (f := (·.1)) he
    rw [Tree.forestPlaced_fst] at listed
    obtain ⟨u, hu, value⟩ := List.mem_map.1 listed
    obtain ⟨t, follows⟩ := follow e.1 (value ▸ isForest.mem_nodes hu)
    exact (eq_of_isNodeOf_block isNode (isForest.parent_eq he) follows).symm
  rw [forestValues, ← Tree.forestPlaced_fst none forest]
  have listed := List.forall₂_map_left_iff.2 same
  rw [List.forall₂_eq_eq_eq] at listed
  exact listed.symm

/-- **The outputs of a compiled document are the edges of the graph**, in another order. -/
theorem links_assemble_perm (wf : g.WellFormed) (isForest : g.IsForestOf forest) :
    (g.assemble s (Tree.forestMap g.block forest)).links.Perm g.links := by
  have ids := nodeIds_assemble g s forest
  have distinct : g.links.Nodup := by
    have handles := wf.handlesDistinct
    refine List.Nodup.of_map (fun l => (l.1, l.2.1)) ?_
    rw [links, List.map_map]
    exact handles
  have distinct' : (g.assemble s (Tree.forestMap g.block forest)).links.Nodup :=
    .of_map _ (Document.nodup_links (ids ▸ isForest.nodup_keys wf))
  refine (List.perm_ext_iff_of_nodup distinct' distinct).2 ?_
  rintro ⟨source, handle, target⟩
  rw [Document.mem_links_iff, assemble, Tree.forestPreorder_map]
  constructor
  · rintro ⟨t, ht, rfl, leads⟩
    obtain ⟨u, hu, rfl⟩ := List.mem_map.1 ht
    rw [Tree.value_map] at leads ⊢
    rwa [get_outputs_block, targetOf_eq_node_iff wf.handlesDistinct] at leads
  · intro linked
    obtain ⟨e, he, same⟩ := List.mem_map.1 linked
    have starts : e.source = source := congrArg (·.1) same
    have held : source ∈ Tree.forestKeys Node.id forest := by
      rw [isForest.mem_keys_iff wf, ← starts]
      exact (wf.edgesAttached e he).1
    obtain ⟨u, hu, rfl⟩ := List.mem_map.1 held
    refine ⟨_, List.mem_map_of_mem hu, by rw [Tree.value_map]; rfl, ?_⟩
    rwa [Tree.value_map, get_outputs_block, targetOf_eq_node_iff wf.handlesDistinct]

/-- What a document starts with depends only on the nodes at the top level. -/
theorem assemble_of_topLevel (same : g'.topLevel = g.topLevel) (s : Settings)
    (ts : List (Tree Block)) : g'.assemble s ts = g.assemble s ts := by
  rw [assemble, assemble, same]

/-- **What was compiled is loaded as the same graph.** The nodes are the same in every field,
those with the same parent in the same order; the edges are the same but for their order and
their ids; nothing is wrong with the graph; and it is compiled to the same document. -/
theorem load_of_compile (compiled : g.compile s = .ok d) :
    ∃ g', d.load s.registry s.maxDepth = .ok g'
      ∧ g'.nodes.Perm g.nodes
      ∧ (∀ parent?, g'.nodes.filter (·.parent? == parent?)
          = g.nodes.filter (·.parent? == parent?))
      ∧ g'.links.Perm g.links
      ∧ g'.violations = []
      ∧ g'.compile s = .ok d := by
  have valid := valid_of_compile compiled
  obtain ⟨clean, -⟩ := compile_eq_ok_iff.1 compiled
  obtain ⟨wf, follow, -⟩ := problems_eq_nil_iff_wellFormed.1 clean
  obtain ⟨forest, isForest, -, rfl⟩ := exists_forest_of_compile compiled
  obtain ⟨g', loaded, isGraph⟩ := valid.load_ok
  have nodes := nodes_eq_forestValues follow isForest isGraph
  have perm : g'.nodes.Perm g.nodes := nodes ▸ isForest.values_perm wf
  have siblings : ∀ parent?, g'.nodes.filter (·.parent? == parent?)
      = g.nodes.filter (·.parent? == parent?) := by
    intro parent?
    rw [nodes]
    exact isForest.filter_values wf parent?
  have clean' : g'.problems s.registry = [] := by
    refine problems_eq_nil_iff_wellFormed.2 ⟨isGraph.wellFormed, ?_, ?_⟩
    · exact fun n hn => follow n (perm.subset hn)
    · rw [isGraph.profiles_eq]
      exact valid.agents
  have top : g'.topLevel = g.topLevel := by
    rw [topLevel_eq_filter, topLevel_eq_filter]
    exact siblings none
  refine ⟨g', loaded, perm, siblings, ?_, isGraph.wellFormed.violations_eq_nil, ?_⟩
  · rw [isGraph.links]
    exact links_assemble_perm wf isForest
  · rw [isGraph.compile_ok valid clean', assemble_of_topLevel top]
    rfl

/-- A trigger and two branches that run together, one of which holds a node. The node was
created before what it stands in, so that loading reorders the nodes. -/
def parallelGraph : Graph :=
  .ofLists
    [{ id := "stop", type := "control.stop", label := "Stop", category := .control,
       parent? := some "both" },
      { id := "start", type := "trigger.manual", label := "Start", category := .trigger },
      { id := "both", type := "control.parallel", label := "Both", category := .control }]
    [.canonical "start" "both" .success, .canonical "both" "start" .error]

/-- The graph with the branches is compiled, and what `load_of_compile` says holds of it. -/
theorem load_of_compile_parallelGraph :
    ∃ d, parallelGraph.compile ⟨{ id := "bot", name := "Bot" }, .empty, .builtin, 1⟩ = .ok d
      ∧ ∃ g', d.load .builtin 1 = .ok g'
        ∧ g'.nodes.Perm parallelGraph.nodes
        ∧ (∀ parent?, g'.nodes.filter (·.parent? == parent?)
            = parallelGraph.nodes.filter (·.parent? == parent?))
        ∧ g'.links.Perm parallelGraph.links
        ∧ g'.violations = []
        ∧ g'.compile ⟨{ id := "bot", name := "Bot" }, .empty, .builtin, 1⟩ = .ok d := by
  have compiles : (parallelGraph.compile
      ⟨{ id := "bot", name := "Bot" }, .empty, .builtin, 1⟩).toOption.isSome = true := by
    decide +kernel
  obtain ⟨d, compiled⟩ := exists_eq_ok_of_toOption compiles
  have loaded := load_of_compile compiled
  exact ⟨d, compiled, loaded⟩

end Graph

end Workflow
