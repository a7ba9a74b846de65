import Workflow.Proofs.Compile.Acceptance

/-!
# What a rejected graph is told

The checks that come before nesting look at every node and at every reference of an agent, and
whatever they find is reported. Nesting is different in two ways. It is not tried at all while
something else is wrong, and it gives up on a node at the top level with the first node in it that
stands too deep. So of the nodes that stand one container too deep, which a document check would
all report, either none is reported or just one for each node at the top level.

## Main results

* `IsForestOf.justTooDeep_of_depthError?`: what is reported for a tree stands just too deep.
* `IsForestOf.reported_iff`: a node that stands just too deep is reported if its tree is with it.
* `compile_reports`: **what is reported, and when nothing is left out.**
* `depth_left_out`: that something is left out does happen.
-/

namespace Workflow.Graph

variable {g : Graph} {s : Settings} {maxDepth : Nat} {forest : List (Tree Node)} {n m : Node}

/-! ### Nodes that stand just too deep -/

/-- A node stands in one container more than it may. What it stands in is not too deep. -/
structure JustTooDeep (g : Graph) (maxDepth : Nat) (n : Node) : Prop where
  /-- It is a node of the graph. -/
  listed : n ∈ g.nodes
  /-- There is one container more than there may be. -/
  exceeds : g.depth n = maxDepth + 1

/-- **What is reported for a tree stands just too deep.** The induction is on the levels that are
left, as for nesting. -/
theorem IsForestOf.justTooDeep_of_depthError? (isForest : g.IsForestOf forest) (wf : g.WellFormed)
    {levels : Nat} {t : Tree Node} (ht : t ∈ Tree.forestPreorder forest)
    (left : g.depth t.value + levels = maxDepth + 1) {e : CompileError}
    (reported : g.depthError? maxDepth t = some e) :
    ∃ u ∈ t.preorder, g.JustTooDeep maxDepth u.value ∧ e = .nestingTooDeep u.value.id maxDepth := by
  induction levels generalizing t with
  | zero =>
    rw [depthError?_of_lt (by omega)] at reported
    cases reported
    exact ⟨t, t.mem_preorder_self, ⟨isForest.mem_nodes ht, left⟩, rfl⟩
  | succ levels ih =>
    rw [depthError?_of_le (by omega)] at reported
    obtain ⟨c, hc, inner⟩ := List.exists_of_findSome?_eq_some reported
    have deeper := isForest.depth_child wf ht hc
    obtain ⟨u, hu, deep, rfl⟩ :=
      ih (Tree.mem_forestPreorder_of_mem_children ht hc) (by omega) inner
    refine ⟨u, ?_, deep, rfl⟩
    rw [Tree.preorder_eq_cons]
    exact List.mem_cons_of_mem _ (Tree.mem_forestPreorder_iff.2 ⟨c, hc, hu⟩)

/-- What is reported for a tree at the top level stands just too deep. -/
theorem IsForestOf.exists_of_depthError? (isForest : g.IsForestOf forest) (wf : g.WellFormed)
    {t : Tree Node} (ht : t ∈ forest) {e : CompileError}
    (reported : g.depthError? maxDepth t = some e) :
    ∃ u ∈ t.preorder, g.JustTooDeep maxDepth u.value ∧ e = .nestingTooDeep u.value.id maxDepth := by
  have left : g.depth t.value + (maxDepth + 1) = maxDepth + 1 := by
    rw [isForest.depth_root wf ht, Nat.zero_add]
  exact isForest.justTooDeep_of_depthError? wf (Tree.mem_forestPreorder_of_mem ht) left reported

/-- What a tree of the forest holds below its root stands in its root. -/
theorem IsForestOf.inside_root (isForest : g.IsForestOf forest) {t u : Tree Node}
    (ht : t ∈ forest) (hu : u ∈ t.preorder) :
    u.value = t.value ∨ Inside g u.value.id t.value.id := by
  refine Tree.forall_preorder (p := fun u => u.value = t.value ∨ Inside g u.value.id t.value.id)
    t ?_ (.inl rfl) u hu
  intro s hs above c hc
  have known : s ∈ Tree.forestPreorder forest := Tree.mem_forestPreorder_iff.2 ⟨t, ht, hs⟩
  have listed := List.mem_map_of_mem (f := Tree.value) hc
  rw [isForest.children s known] at listed
  obtain ⟨hn, hp⟩ := mem_childrenOf.1 listed
  rcases above with same | above
  · exact .inr (.step hn (same ▸ hp))
  · exact .inr (.trans hn hp above)

/-- What stands in the root of a tree is in no other tree. -/
theorem IsForestOf.tree_unique (isForest : g.IsForestOf forest) (wf : g.WellFormed)
    {t t' u : Tree Node} (ht : t ∈ forest) (ht' : t' ∈ forest) (hu : u ∈ t'.preorder)
    (inside : Inside g u.value.id t.value.id) : t' = t := by
  have roots : (forest.map Tree.value).Nodup := by
    rw [isForest.roots]
    exact (List.Nodup.of_map _ wf.nodeIds_nodup).sublist List.filter_sublist
  have top : ∀ k ∈ forest, k.value ∈ g.topLevel := fun k hk =>
    isForest.roots ▸ List.mem_map_of_mem hk
  have known : u ∈ Tree.forestPreorder forest := Tree.mem_forestPreorder_iff.2 ⟨t', ht', hu⟩
  refine List.inj_on_of_nodup_map roots ht' ht ?_
  rcases isForest.inside_root ht' hu with root | inside'
  · exact absurd (root ▸ inside) (not_inside_of_mem_topLevel wf.nodeIds_nodup (top t' ht'))
  · exact Rooted.root_unique wf.nodeIds_nodup (wf.rooted _ (isForest.mem_nodes known)) (top t' ht')
      (top t ht) inside' inside

/-- A node that stands just too deep is reported exactly if its tree is reported with it. -/
theorem IsForestOf.reported_iff (isForest : g.IsForestOf forest) (wf : g.WellFormed)
    {t : Tree Node} (ht : t ∈ forest) (inside : Inside g n.id t.value.id) :
    .nestingTooDeep n.id maxDepth ∈ forest.filterMap (g.depthError? maxDepth) ↔
      g.depthError? maxDepth t = some (.nestingTooDeep n.id maxDepth) := by
  rw [List.mem_filterMap]
  constructor
  · rintro ⟨t', ht', reported⟩
    obtain ⟨u, hu, -, same⟩ := isForest.exists_of_depthError? wf ht' reported
    rw [CompileError.nestingTooDeep.injEq] at same
    rwa [← isForest.tree_unique wf ht ht' hu (same.1 ▸ inside)]
  · exact fun reported => ⟨t, ht, reported⟩

/-- Every node is in a tree of the forest. -/
theorem IsForestOf.exists_tree (isForest : g.IsForestOf forest) (wf : g.WellFormed)
    (hn : n ∈ g.nodes) : ∃ t ∈ forest, ∃ u ∈ t.preorder, u.value = n := by
  have held : n ∈ forestValues forest := (isForest.values_perm wf).mem_iff.2 hn
  obtain ⟨u, hu, rfl⟩ := List.mem_map.1 held
  obtain ⟨t, ht, hu⟩ := Tree.mem_forestPreorder_iff.1 hu
  exact ⟨t, ht, u, hu, rfl⟩

/-- What stands too deep is not the root of its tree. -/
theorem IsForestOf.inside_root_of_deep (isForest : g.IsForestOf forest) (wf : g.WellFormed)
    {t u : Tree Node} (ht : t ∈ forest) (hu : u ∈ t.preorder)
    (deep : g.JustTooDeep maxDepth u.value) : Inside g u.value.id t.value.id := by
  refine (isForest.inside_root ht hu).resolve_left ?_
  intro same
  have exceeds := deep.exceeds
  rw [same, isForest.depth_root wf ht] at exceeds
  omega

/-- A node that stands too deep stands in a node at the top level. -/
theorem JustTooDeep.exists_root (wf : g.WellFormed) (deep : g.JustTooDeep maxDepth n) :
    ∃ r ∈ g.topLevel, Inside g n.id r.id := by
  obtain ⟨forest, isForest⟩ := exists_isForestOf wf
  obtain ⟨t, ht, u, hu, rfl⟩ := isForest.exists_tree wf deep.listed
  exact ⟨t.value, isForest.roots ▸ List.mem_map_of_mem ht,
    isForest.inside_root_of_deep wf ht hu deep⟩

/-- A tree in which nodes stand just too deep is reported with one of them. -/
theorem IsForestOf.exists_reported (isForest : g.IsForestOf forest) (wf : g.WellFormed)
    {t : Tree Node} (ht : t ∈ forest) (deep : g.JustTooDeep maxDepth n)
    (inside : Inside g n.id t.value.id) :
    ∃ k, g.JustTooDeep maxDepth k ∧ Inside g k.id t.value.id
      ∧ g.depthError? maxDepth t = some (.nestingTooDeep k.id maxDepth) := by
  obtain ⟨t', ht', u, hu, rfl⟩ := isForest.exists_tree wf deep.listed
  obtain rfl := isForest.tree_unique wf ht ht' hu inside
  cases reported : g.depthError? maxDepth t' with
  | none =>
    have within := depthError?_eq_none_iff.1 reported u hu
    have exceeds := deep.exceeds
    omega
  | some e =>
    obtain ⟨k, hk, deep', rfl⟩ := isForest.exists_of_depthError? wf ht reported
    exact ⟨k.value, deep', isForest.inside_root_of_deep wf ht hk deep', rfl⟩

/-! ### What is reported -/

/-- All that is wrong with a node, its depth apart, is among some errors. -/
structure FullyReported (r : Registry) (errors : List CompileError) (n : Node) : Prop where
  /-- That its type is not registered. -/
  unknown : r.find? n.type = none → .unknownType n.id n.type ∈ errors
  /-- That it is stored with a category that is not the one of its type. -/
  category : ∀ t, r.find? n.type = some t → n.category ≠ t.category →
    .categoryMismatch n.id n.type t.category n.category ∈ errors
  /-- Every issue of its configuration. -/
  config : ∀ t, r.find? n.type = some t →
    ((t.validate n.config).map (.invalidConfig n.id)).Sublist errors

/-- Nothing is wrong with the nodes of a graph, its depth apart. -/
structure NodesInOrder (g : Graph) (r : Registry) : Prop where
  /-- Every node follows the template of its type. -/
  follow : ∀ n ∈ g.nodes, ∃ t, Follows r n t
  /-- No reference of an agent is broken. -/
  agents : agentFaults g.profiles = []

/-- If the structure is in order, nothing is found before nodes are nested exactly if they are. -/
theorem problems_eq_nil_iff_nodesInOrder {r : Registry} (structural : g.violations = []) :
    g.problems r = [] ↔ g.NodesInOrder r := by
  simp only [problems_eq_nil_iff, nodeProblems_eq_nil_iff, structural, true_and]
  exact ⟨fun ⟨follow, agents⟩ => ⟨follow, agents⟩, fun ⟨follow, agents⟩ => ⟨follow, agents⟩⟩

/-- What is wrong with a node is reported if all that is found with it is. -/
theorem fullyReported_of_sublist {r : Registry} {errors : List CompileError}
    (told : (nodeProblems r n).Sublist errors) : FullyReported r errors n where
  unknown unknown := by
    rw [nodeProblems, unknown] at told
    exact List.singleton_sublist.1 told
  category t found differs := by
    simp only [nodeProblems, found, if_neg differs] at told
    exact told.subset List.mem_cons_self
  config t found := by
    rw [nodeProblems, found] at told
    exact (List.sublist_append_right _ _).trans told

/-- While something else is wrong, no node is said to stand too deep. -/
theorem nestingTooDeep_not_mem_problems {r : Registry} (id : String) :
    CompileError.nestingTooDeep id maxDepth ∉ g.problems r := by
  have structural : ∀ e, CompileError.ofGraphError e ≠ .nestingTooDeep id maxDepth := by
    intro e same
    cases e <;> cases same
  simp only [problems, nodeProblems, List.mem_append, List.mem_map, List.mem_flatMap]
  grind

/-- What is wrong apart from the depth is reported. -/
theorem problems_sublist {errors : List CompileError} (rejected : g.compile s = .error errors) :
    (g.problems s.registry).Sublist errors := by
  by_cases clean : g.problems s.registry = []
  · rw [clean]
    exact List.nil_sublist _
  · rw [compile_eq_error_of_problems clean] at rejected
    cases rejected
    exact .refl _

/-- What is reported of a graph with which nothing is wrong but its depth: of the nodes that stand
just too deep in a node at the top level, one. -/
theorem existsUnique_reported {errors : List CompileError} (clean : g.problems s.registry = [])
    (rejected : g.compile s = .error errors) {r : Node} (top : r ∈ g.topLevel)
    (deep : g.JustTooDeep s.maxDepth n) (inside : Inside g n.id r.id) :
    ∃! k, g.JustTooDeep s.maxDepth k ∧ Inside g k.id r.id
      ∧ .nestingTooDeep k.id s.maxDepth ∈ errors := by
  obtain ⟨wf, -⟩ := problems_eq_nil_iff_wellFormed.1 clean
  obtain ⟨forest, isForest⟩ := exists_isForestOf wf
  have told : errors = forest.filterMap (g.depthError? s.maxDepth) := by
    rw [compile_eq_of_isForestOf clean isForest] at rejected
    split at rejected
    · cases rejected
    · cases rejected
      rfl
  rw [← isForest.roots] at top
  obtain ⟨t, ht, rfl⟩ := List.mem_map.1 top
  obtain ⟨k, deep_k, inside_k, reported⟩ := isForest.exists_reported wf ht deep inside
  rw [told]
  refine ⟨k, ⟨deep_k, inside_k, (isForest.reported_iff wf ht inside_k).2 reported⟩, ?_⟩
  rintro m ⟨deep_m, inside_m, reported_m⟩
  have also := (isForest.reported_iff wf ht inside_m).1 reported_m
  rw [reported, Option.some.injEq, CompileError.nestingTooDeep.injEq] at also
  exact node_eq_of_id_eq wf.nodeIds_nodup deep_m.listed deep_k.listed also.1.symm

/-- **What is reported, and when nothing is left out.** If the structure of a graph is in order and
it is rejected, all that is wrong with the type, the category and the configuration of each node is
reported, and every broken reference of an agent. The nodes that stand just too deep are all
reported only if there are none, or if nothing else is wrong and no two of them stand in the same
node at the top level: while something else is wrong none is reported, and else, of those that
stand in a node at the top level, just one. -/
theorem compile_reports {errors : List CompileError} (structural : g.violations = [])
    (rejected : g.compile s = .error errors) :
    (∀ n ∈ g.nodes, FullyReported s.registry errors n)
      ∧ ((agentFaults g.profiles).map fun found => .agent found.1 found.2).Sublist errors
      ∧ ((∀ n, g.JustTooDeep s.maxDepth n → .nestingTooDeep n.id s.maxDepth ∈ errors) ↔
        (∀ n, ¬ g.JustTooDeep s.maxDepth n)
          ∨ g.NodesInOrder s.registry
            ∧ ∀ r ∈ g.topLevel, ∀ n m, g.JustTooDeep s.maxDepth n → g.JustTooDeep s.maxDepth m →
              Inside g n.id r.id → Inside g m.id r.id → n = m)
      ∧ (¬ g.NodesInOrder s.registry → ∀ id, .nestingTooDeep id s.maxDepth ∉ errors)
      ∧ (g.NodesInOrder s.registry →
        ∀ r ∈ g.topLevel, ∀ n, g.JustTooDeep s.maxDepth n → Inside g n.id r.id →
          ∃! k, g.JustTooDeep s.maxDepth k ∧ Inside g k.id r.id
            ∧ .nestingTooDeep k.id s.maxDepth ∈ errors) := by
  have checked := problems_eq_nil_iff_nodesInOrder (r := s.registry) structural
  have wf := wellFormed_of_violations_eq_nil structural
  have told := problems_sublist rejected
  -- while something else is wrong, depth is not looked at
  have unasked : ¬ g.NodesInOrder s.registry →
      ∀ id, .nestingTooDeep id s.maxDepth ∉ errors := by
    intro wrong id
    rw [compile_eq_error_of_problems fun clean => wrong (checked.1 clean)] at rejected
    cases rejected
    exact nestingTooDeep_not_mem_problems id
  have one_each : g.NodesInOrder s.registry →
      ∀ r ∈ g.topLevel, ∀ n, g.JustTooDeep s.maxDepth n → Inside g n.id r.id →
        ∃! k, g.JustTooDeep s.maxDepth k ∧ Inside g k.id r.id
          ∧ .nestingTooDeep k.id s.maxDepth ∈ errors :=
    fun ordered r top n => existsUnique_reported (checked.2 ordered) rejected top
  refine ⟨?_, (List.sublist_append_right _ _).trans told, ⟨?_, ?_⟩, unasked, one_each⟩
  · intro n hn
    have part : (nodeProblems s.registry n).Sublist (g.nodes.flatMap (nodeProblems s.registry)) :=
      List.sublist_flatten_of_mem (List.mem_map_of_mem hn)
    have among : (g.nodes.flatMap (nodeProblems s.registry)).Sublist (g.problems s.registry) :=
      (List.sublist_append_right _ _).trans (List.sublist_append_left _ _)
    exact fullyReported_of_sublist (part.trans (among.trans told))
  · intro all
    by_cases ordered : g.NodesInOrder s.registry
    · refine .inr ⟨ordered, ?_⟩
      intro r top n m deep_n deep_m inside_n inside_m
      exact (one_each ordered r top n deep_n inside_n).unique
        ⟨deep_n, inside_n, all n deep_n⟩ ⟨deep_m, inside_m, all m deep_m⟩
    · exact .inl fun n deep => unasked ordered n.id (all n deep)
  · rintro (none_deep | ⟨ordered, single⟩) n deep
    · exact absurd deep (none_deep n)
    · obtain ⟨r, top, inside⟩ := deep.exists_root wf
      obtain ⟨k, ⟨deep_k, inside_k, reported⟩, -⟩ := one_each ordered r top n deep inside
      rwa [single r top n k deep deep_k inside inside_k]

/-- Two nodes that stand in the same container. -/
def boxGraph : Graph :=
  .ofLists
    [{ id := "box", type := "control.parallel", label := "Box", category := .control },
      { id := "first", type := "control.stop", label := "First", category := .control,
        parent? := some "box" },
      { id := "second", type := "control.stop", label := "Second", category := .control,
        parent? := some "box" }]
    []

/-- The settings under which no node may stand in another. -/
def flatSettings : Settings :=
  { bot := { id := "bot", name := "Bot" }, vars := .empty, registry := .builtin, maxDepth := 0 }

/-- The second node stands in the container, and in nothing else. -/
theorem second_in_box : ∃ n ∈ boxGraph.nodes, n.id = "second" ∧ n.parent? = some "box"
    ∧ boxGraph.depth n = 1 := by
  decide +kernel

/-- Nothing is wrong with the structure of the container, and it is rejected for its first node. -/
theorem boxGraph_rejected : boxGraph.violations = []
    ∧ boxGraph.compile flatSettings = .error [.nestingTooDeep "first" 0] :=
  ⟨by decide +kernel, rfl⟩

/-- If no node may stand in another, the container holds two nodes too many, and one is reported, as
`compile_reports` says. -/
theorem compile_reports_boxGraph :
    boxGraph.violations = [] ∧ ∃ errors, boxGraph.compile flatSettings = .error errors
      ∧ ∃! k, boxGraph.JustTooDeep 0 k ∧ Inside boxGraph k.id "box"
        ∧ .nestingTooDeep k.id 0 ∈ errors := by
  obtain ⟨structural, rejected⟩ := boxGraph_rejected
  have ordered : boxGraph.NodesInOrder .builtin :=
    (problems_eq_nil_iff_nodesInOrder structural).1 (by decide +kernel)
  obtain ⟨box, top, is_box⟩ : ∃ r ∈ boxGraph.topLevel, r.id = "box" := by decide +kernel
  obtain ⟨n, hn, -, in_box, exceeds⟩ := second_in_box
  obtain ⟨-, -, -, -, one_each⟩ := compile_reports structural rejected
  have one := one_each ordered box top n ⟨hn, exceeds⟩ (is_box ▸ .step hn in_box)
  rw [is_box] at one
  exact ⟨structural, _, rejected, one⟩

/-- **Something is left out**: of the two nodes that stand too deep, only one is reported. -/
theorem depth_left_out :
    ¬ ∀ (g : Graph) (s : Settings) (errors : List CompileError), g.violations = [] →
      g.compile s = .error errors →
        ∀ n, g.JustTooDeep s.maxDepth n → .nestingTooDeep n.id s.maxDepth ∈ errors := by
  intro always
  obtain ⟨structural, rejected⟩ := boxGraph_rejected
  obtain ⟨n, hn, is_second, -, exceeds⟩ := second_in_box
  have reported := always boxGraph flatSettings _ structural rejected n ⟨hn, exceeds⟩
  rw [is_second] at reported
  exact absurd reported (by decide)

end Workflow.Graph
