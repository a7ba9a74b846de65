import Workflow.Proofs.Compile
import Workflow.Proofs.Graph.Depth

/-!
# When a graph is compiled

A graph with which nothing is wrong can still nest too deep. Its forest is then gone through
tree by tree, each in pre-order and up to the first node that stands too deep: that node, and no
other of its tree, is reported. A graph nests too deep exactly if some node stands in more
containers than it may, because every node is in the forest.

## Main results

* `exists_isForestOf`: every well-formed graph has a forest, compiled or not.
* `IsForestOf.nest_eq`: nesting a node gives its tree, or the first node in it that is too deep.
* `compile_eq_of_isForestOf`: what a graph with which nothing is wrong is compiled to.
* `exists_compile_iff_depth_le`: depth is the only obstacle for such a graph.
* `compile_decided`: **when a graph is compiled**, and what is reported if only its depth is
  wrong.
-/

namespace Workflow.Graph

variable {g : Graph} {s : Settings} {maxDepth : Nat} {forest : List (Tree Node)}

/-! ### Every well-formed graph has a forest -/

/-- A node is unfolded completely if there are as many levels left as there are nodes that do
not stand above it. The induction is on the levels, and every level uses one node up. -/
theorem children_unfold (wf : g.WellFormed) {levels : Nat} {n : Node} (hn : n ∈ g.nodes)
    (room : g.nodes.length ≤ g.depth n + levels) :
    ∀ u ∈ (g.unfold levels n).preorder, u.children.map Tree.value = g.childrenOf u.value.id := by
  induction levels generalizing n with
  | zero =>
    have deep := depth_lt_length wf hn
    omega
  | succ levels ih =>
    intro u hu
    rw [unfold, Tree.preorder, List.mem_cons] at hu
    rcases hu with rfl | hu
    · rw [Tree.children, List.map_map, value_comp_unfold, List.map_id]
      rfl
    · obtain ⟨t, ht, hut⟩ := Tree.mem_forestPreorder_iff.1 hu
      obtain ⟨c, hc, rfl⟩ := List.mem_map.1 ht
      obtain ⟨hcn, hp⟩ := mem_childrenOf.1 hc
      have deeper := depth_eq_succ wf hcn hn hp
      exact ih hcn (by omega) u hut

/-- **Every well-formed graph has a forest.** -/
theorem exists_isForestOf (wf : g.WellFormed) : ∃ forest, g.IsForestOf forest := by
  refine ⟨g.topLevel.map (g.unfold g.nodes.length), ?_, ?_⟩
  · rw [List.map_map, value_comp_unfold, List.map_id]
  · intro u hu
    obtain ⟨t, ht, hut⟩ := Tree.mem_forestPreorder_iff.1 hu
    obtain ⟨n, hn, rfl⟩ := List.mem_map.1 ht
    exact children_unfold wf (mem_topLevel.1 hn).1 (by omega) u hut

/-! ### The first node that is too deep -/

/-- The first node of a tree, in pre-order, that stands in more than `maxDepth` containers. -/
def firstTooDeep? (g : Graph) (maxDepth : Nat) (t : Tree Node) : Option Node :=
  (t.preorder.map Tree.value).find? fun n => maxDepth < g.depth n

/-- What is wrong with the depth of a tree. -/
def depthError? (g : Graph) (maxDepth : Nat) (t : Tree Node) : Option CompileError :=
  (g.firstTooDeep? maxDepth t).map fun n => .nestingTooDeep n.id maxDepth

/-- A tree whose root is too deep is reported with its root. -/
theorem depthError?_of_lt {t : Tree Node} (deep : maxDepth < g.depth t.value) :
    g.depthError? maxDepth t = some (.nestingTooDeep t.value.id maxDepth) := by
  rw [depthError?, firstTooDeep?, Tree.preorder_eq_cons, List.map_cons,
    List.find?_cons_of_pos (by simpa using deep)]
  rfl

/-- The depth of a tree whose root is not too deep is that of its children. -/
theorem depthError?_of_le {t : Tree Node} (within : g.depth t.value ≤ maxDepth) :
    g.depthError? maxDepth t = t.children.findSome? (g.depthError? maxDepth) := by
  have inner : ∀ ts : List (Tree Node),
      (((Tree.forestPreorder ts).map Tree.value).find? fun n => maxDepth < g.depth n).map
          (fun n => CompileError.nestingTooDeep n.id maxDepth)
        = ts.findSome? (g.depthError? maxDepth) := by
    intro ts
    induction ts with
    | nil => rfl
    | cons c rest ih =>
      rw [Tree.forestPreorder, List.map_append, List.find?_append, List.findSome?_cons, ← ih,
        depthError?, firstTooDeep?]
      cases (c.preorder.map Tree.value).find? fun n => maxDepth < g.depth n <;> rfl
  rw [depthError?, firstTooDeep?, Tree.preorder_eq_cons, List.map_cons,
    List.find?_cons_of_neg (by simpa using within), inner]

/-- Nothing is wrong with the depth of a tree exactly if no node in it is too deep. -/
theorem depthError?_eq_none_iff {t : Tree Node} :
    g.depthError? maxDepth t = none ↔ ∀ u ∈ t.preorder, g.depth u.value ≤ maxDepth := by
  rw [depthError?, Option.map_eq_none_iff, firstTooDeep?, List.find?_eq_none,
    List.forall_mem_map]
  simp

/-- **Nesting a node** gives its tree, or reports the first node in it that is too deep. The
induction is on the levels that are left, and with each level the depth grows by one. -/
theorem IsForestOf.nest_eq (isForest : g.IsForestOf forest) (wf : g.WellFormed) {levels : Nat}
    {t : Tree Node} (ht : t ∈ Tree.forestPreorder forest)
    (left : g.depth t.value + levels = maxDepth + 1) :
    g.nest maxDepth levels t.value = failingWith (g.depthError? maxDepth t) (t.map g.block) := by
  induction levels generalizing t with
  | zero =>
    rw [nest, depthError?_of_lt (by omega)]
    rfl
  | succ levels ih =>
    have inner : (g.childrenOf t.value.id).mapM (g.nest maxDepth levels)
        = failingWith (t.children.findSome? (g.depthError? maxDepth))
            (t.children.map (Tree.map g.block)) := by
      rw [← isForest.children t ht, List.mapM_map]
      refine mapM_eq_failingWith fun c hc => ?_
      have deeper := isForest.depth_child wf ht hc
      exact ih (Tree.mem_forestPreorder_of_mem_children ht hc) (by omega)
    -- what stands in a node makes it a container, so that it is not refused
    rw [nest_succ (wf.isContainer_of_childrenOf (isForest.mem_nodes ht)), inner,
      depthError?_of_le (by omega)]
    obtain ⟨n, cs⟩ := t
    rw [Tree.children, Tree.map, Tree.forestMap_eq_map]
    cases cs.findSome? (g.depthError? maxDepth) <;> rfl

/-! ### Compiling -/

/-- The errors of attempts that are sorted out are what is wrong with each. -/
theorem sortOut_failingWith {ε α β : Type} (fault? : α → Option ε) (result : α → β)
    (xs : List α) :
    (sortOut (xs.map fun x => failingWith (fault? x) (result x))).1 = xs.filterMap fault?
      ∧ (xs.filterMap fault? = [] →
        (sortOut (xs.map fun x => failingWith (fault? x) (result x))).2 = xs.map result) := by
  induction xs with
  | nil => exact ⟨rfl, fun _ => rfl⟩
  | cons x rest ih =>
    obtain ⟨errors, results⟩ := ih
    rw [List.map_cons, sortOut, List.filterMap_cons]
    cases fault? x with
    | none => exact ⟨errors, fun clean => congrArg _ (results clean)⟩
    | some e => exact ⟨congrArg _ errors, fun clean => by cases clean⟩

/-- **What a graph with which nothing is wrong is compiled to**: the blocks of its forest, or
for each tree that is too deep the first node that is. -/
theorem compile_eq_of_isForestOf (clean : g.problems s.registry = [])
    (isForest : g.IsForestOf forest) :
    g.compile s =
      match forest.filterMap (g.depthError? s.maxDepth) with
      | [] => .ok (g.assemble s (Tree.forestMap g.block forest))
      | errors => .error errors := by
  obtain ⟨wf, -⟩ := problems_eq_nil_iff_wellFormed.1 clean
  have nested : g.topLevel.map (g.nest s.maxDepth (s.maxDepth + 1))
      = forest.map fun t => failingWith (g.depthError? s.maxDepth t) (t.map g.block) := by
    rw [← isForest.roots, List.map_map]
    refine List.map_congr_left fun t ht => ?_
    have root := isForest.depth_root wf ht
    exact isForest.nest_eq wf (Tree.mem_forestPreorder_of_mem ht) (by omega)
  obtain ⟨errors, results⟩ :=
    sortOut_failingWith (g.depthError? s.maxDepth) (Tree.map g.block) forest
  rw [compile_eq]
  simp only [clean, nested, errors]
  cases deep : forest.filterMap (g.depthError? s.maxDepth) with
  | nil => simp only [results deep, Tree.forestMap_eq_map]
  | cons e rest => rfl

/-- In the forest of a well-formed graph nothing is too deep exactly if no node is. -/
theorem IsForestOf.filterMap_depthError?_eq_nil_iff (isForest : g.IsForestOf forest)
    (wf : g.WellFormed) :
    forest.filterMap (g.depthError? maxDepth) = [] ↔ ∀ n ∈ g.nodes, g.depth n ≤ maxDepth := by
  simp only [List.filterMap_eq_nil_iff, depthError?_eq_none_iff]
  have every : ∀ n, n ∈ forestValues forest ↔ n ∈ g.nodes :=
    fun n => (isForest.values_perm wf).mem_iff
  simp only [← every, forestValues, List.forall_mem_map, Tree.forestPreorder_eq_flatMap,
    List.mem_flatMap, forall_exists_index, and_imp]
  exact ⟨fun all u t ht hu => all t ht u hu, fun all t ht u hu => all u t ht hu⟩

/-- A graph of which something else is wrong is not said to have a node that may hold nothing:
that is only asked when nodes are nested. -/
theorem childless_not_mem_problems {r : Registry} (id type : String) :
    CompileError.containment id (.childless type) ∉ g.problems r := by
  have structural : ∀ e ∈ g.violations, CompileError.ofGraphError e
      ≠ .containment id (.childless type) := by
    intro e he same
    have fault : e = .containment id (.childless type) := by
      cases e <;> simp_all [CompileError.ofGraphError]
    subst fault
    simp only [violations, blankIds, repeatedNodeIds, repeatedEdgeIds, danglingEnds,
      repeatedHandles, containmentFaults, parentFault, List.mem_append, List.mem_map,
      List.mem_flatMap] at he
    grind
  simp only [problems, nodeProblems, List.mem_append, List.mem_map, List.mem_flatMap]
  grind

/-- **Depth is the only obstacle** for a graph with which nothing else is wrong. -/
theorem exists_compile_iff_depth_le (clean : g.problems s.registry = []) :
    (∃ d, g.compile s = .ok d) ↔ ∀ n ∈ g.nodes, g.depth n ≤ s.maxDepth := by
  obtain ⟨wf, -⟩ := problems_eq_nil_iff_wellFormed.1 clean
  obtain ⟨forest, isForest⟩ := exists_isForestOf wf
  rw [← isForest.filterMap_depthError?_eq_nil_iff wf, compile_eq_of_isForestOf clean isForest]
  constructor
  · rintro ⟨d, compiled⟩
    split at compiled
    · assumption
    · cases compiled
  · intro shallow
    rw [shallow]
    exact ⟨_, rfl⟩

/-- **When a graph is compiled.** A graph is compiled exactly if nothing is wrong with its
structure, every node follows the template of its type, no reference of an agent is broken, and
no node stands in more containers than it may. If only its depth is wrong, what is reported is,
for each tree that is too deep, the first node in pre-order that stands too deep. That a node
holds others although its type holds nothing is never found when nodes are nested. -/
theorem compile_decided (g : Graph) (s : Settings) :
    ((∃ d, g.compile s = .ok d) ↔
      g.violations = [] ∧ (∀ n ∈ g.nodes, ∃ t, Follows s.registry n t)
        ∧ agentFaults g.profiles = [] ∧ ∀ n ∈ g.nodes, g.depth n ≤ s.maxDepth)
      ∧ (g.violations = [] → (∀ n ∈ g.nodes, ∃ t, Follows s.registry n t) →
        agentFaults g.profiles = [] →
          ∃ forest, g.IsForestOf forest ∧ ∀ errors, g.compile s = .error errors →
            errors = forest.filterMap fun t =>
              (g.firstTooDeep? s.maxDepth t).map fun n => .nestingTooDeep n.id s.maxDepth)
      ∧ ∀ errors, g.compile s = .error errors → ∀ id type,
        .containment id (.childless type) ∉ errors := by
  have checked : (g.violations = [] ∧ (∀ n ∈ g.nodes, ∃ t, Follows s.registry n t)
      ∧ agentFaults g.profiles = []) ↔ g.problems s.registry = [] := by
    simp only [problems_eq_nil_iff, nodeProblems_eq_nil_iff]
  -- if only the depth can be wrong, what is reported is that of the trees of the forest
  have reported : g.problems s.registry = [] → ∃ forest, g.IsForestOf forest
      ∧ ∀ errors, g.compile s = .error errors →
        errors = forest.filterMap (g.depthError? s.maxDepth) := by
    intro clean
    obtain ⟨wf, -⟩ := problems_eq_nil_iff_wellFormed.1 clean
    obtain ⟨forest, isForest⟩ := exists_isForestOf wf
    refine ⟨forest, isForest, fun errors rejected => ?_⟩
    rw [compile_eq_of_isForestOf clean isForest] at rejected
    split at rejected
    · cases rejected
    · cases rejected
      rfl
  refine ⟨⟨?_, ?_⟩, ?_, ?_⟩
  · rintro ⟨d, compiled⟩
    obtain ⟨clean, -⟩ := compile_eq_ok_iff.1 compiled
    obtain ⟨structural, follow, agents⟩ := checked.2 clean
    exact ⟨structural, follow, agents, (exists_compile_iff_depth_le clean).1 ⟨d, compiled⟩⟩
  · rintro ⟨structural, follow, agents, within⟩
    exact (exists_compile_iff_depth_le (checked.1 ⟨structural, follow, agents⟩)).2 within
  · intro structural follow agents
    exact reported (checked.1 ⟨structural, follow, agents⟩)
  · intro errors rejected id type
    by_cases clean : g.problems s.registry = []
    · obtain ⟨forest, isForest, depths⟩ := reported clean
      rw [depths errors rejected]
      simp [depthError?]
    · rw [compile_eq_error_of_problems clean] at rejected
      cases rejected
      exact childless_not_mem_problems id type

/-- Two branches that run together, each with a node in it, and in one of them a third. -/
def branchesGraph : Graph :=
  .ofLists
    [{ id := "left", type := "control.parallel", label := "Left", category := .control },
      { id := "right", type := "control.parallel", label := "Right", category := .control },
      { id := "inner", type := "control.parallel", label := "Inner", category := .control,
        parent? := some "right" },
      { id := "wait", type := "control.stop", label := "Wait", category := .control,
        parent? := some "left" },
      { id := "stop", type := "control.stop", label := "Stop", category := .control,
        parent? := some "inner" }]
    []

/-- If no node may stand in another, only the depth of the two branches is wrong, and what
`compile_decided` says of them holds: one node is reported for each. -/
theorem compile_decided_branchesGraph :
    ∃ forest, branchesGraph.IsForestOf forest ∧ ∃ errors,
      branchesGraph.compile ⟨{ id := "bot", name := "Bot" }, .empty, .builtin, 0⟩ = .error errors
        ∧ errors.length = 2
        ∧ errors = forest.filterMap fun t =>
          (branchesGraph.firstTooDeep? 0 t).map fun n => .nestingTooDeep n.id 0 := by
  have structural : branchesGraph.violations = [] := by decide +kernel
  have alone : ∀ n ∈ branchesGraph.nodes, nodeProblems .builtin n = [] := by decide +kernel
  have agents : agentFaults branchesGraph.profiles = [] := by decide +kernel
  obtain ⟨forest, isForest, reported⟩ := (compile_decided branchesGraph
    ⟨{ id := "bot", name := "Bot" }, .empty, .builtin, 0⟩).2.1 structural
      (fun n hn => nodeProblems_eq_nil_iff.1 (alone n hn)) agents
  have rejected : branchesGraph.compile ⟨{ id := "bot", name := "Bot" }, .empty, .builtin, 0⟩
      = .error [.nestingTooDeep "wait" 0, .nestingTooDeep "inner" 0] := by
    rfl
  exact ⟨forest, isForest, _, rejected, rfl, reported _ rejected⟩

end Workflow.Graph
