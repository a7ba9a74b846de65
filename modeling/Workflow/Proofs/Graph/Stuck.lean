import Workflow.Proofs.Graph.Compatible
import Workflow.Proofs.Precedence

/-!
# Parts that make no graph

Passes over compatible nodes end either with all of them placed or with a pass that adds none. The
nodes that are stuck then are not a matter of the order in which the nodes come, nor of how many
passes there were: they are those whose chain of parents does not end. So whatever such a node
names as its parent is stuck too or is missing altogether, and among the stuck nodes a missing
parent is told from a cycle by the ids that wait.

## Main results

* `Compatible.passes_or_stalls`: passes over compatible nodes either place all or get stuck.
* `Stalls.leaves`, `Leaves.mem_stuck_iff`: **stuck are the nodes whose chain of parents does not
  end**, in the order they come.
* `ofParts_error_decided`: **a missing parent and a cycle of parents** are the only reasons why
  nodes alone make no graph, and each is reported as what it is.
-/

namespace Workflow.Graph

variable {g g' : Graph} {nodes waiting stuck : List Node}

/-! ### Passes that get stuck -/

/-- Passes the last of which adds no node, and the nodes that are stuck then. -/
inductive Stalls : Graph → List Node → List Node → Prop where
  /-- Nodes wait, and a pass leaves them all waiting. -/
  | idle {g g' : Graph} {waiting : List Node} : waiting ≠ [] → Pass g waiting g' waiting →
      Stalls g waiting waiting
  /-- A pass after which not as many nodes wait is followed by others. -/
  | more {g g' : Graph} {waiting still stuck : List Node} : Pass g waiting g' still →
      still.length ≠ waiting.length → Stalls g' still stuck → Stalls g waiting stuck

/-- **Passes that get stuck** end in the error that says why. -/
theorem placeAll_of_stalls (stalls : Stalls g waiting stuck) :
    g.placeAll waiting = .error (unplaceable stuck) := by
  induction stalls with
  | idle some_left pass =>
    rw [placeAll, if_neg fun none_left => some_left (List.isEmpty_iff.1 none_left),
      placePass_eq_ok_iff.2 pass]
    simp
  | @more g g' waiting still stuck pass fewer _ ih =>
    have passed := placePass_eq_ok_iff.2 pass
    have less := Nat.lt_of_le_of_ne (length_placePass passed) fewer
    have some_left : waiting ≠ [] := by
      rintro rfl
      exact absurd less (Nat.not_lt_zero _)
    rw [placeAll, if_neg fun none_left => some_left (List.isEmpty_iff.1 none_left), passed]
    simp only [less, if_true]
    exact ih

/-- **Passes over compatible nodes either place all of them or get stuck.** The induction is on the
number of nodes that wait. -/
theorem Compatible.passes_or_stalls (wf : g.WellFormed)
    (compatible : Compatible (g.nodes ++ waiting)) :
    (∃ g', Passes g waiting g') ∨ ∃ stuck, Stalls g waiting stuck := by
  induction size : waiting.length using Nat.strongRecOn generalizing g waiting with
  | ind size ih =>
    rcases eq_or_ne waiting [] with rfl | some_left
    · exact .inl ⟨g, .done⟩
    · obtain ⟨g₁, still, pass⟩ := compatible.exists_pass wf
      by_cases same : still.length = waiting.length
      · obtain rfl := pass.waiting_sublist.eq_of_length same
        exact .inr ⟨still, .idle some_left pass⟩
      · have none_more := pass.waiting_sublist.length_le
        have compatible' := compatible.perm pass.places.perm.symm
        rcases ih still.length (by omega) (pass.wellFormed wf) compatible' rfl with
          ⟨g', passes⟩ | ⟨stuck, stalls⟩
        · exact .inl ⟨g', .more some_left pass same passes⟩
        · exact .inr ⟨stuck, .more pass same stalls⟩

/-! ### Stuck nodes -/

/-- What passes that got stuck leave behind of `nodes`: a graph of the nodes that were placed, and
behind it the stuck ones, none of which is ready. -/
structure Leaves (nodes : List Node) (g : Graph) (stuck : List Node) : Prop where
  /-- The graph is well formed. -/
  wellFormed : g.WellFormed
  /-- A node has been placed or is stuck. -/
  perm : (g.nodes ++ stuck).Perm nodes
  /-- Stuck nodes have kept their order. -/
  part : stuck.Sublist nodes
  /-- Some nodes are stuck. -/
  some_stuck : stuck ≠ []
  /-- No stuck node is ready. -/
  idle : ∀ n ∈ stuck, g.isReady n = false

/-- **What passes leave behind when they get stuck**, told of the nodes before the first of them. -/
theorem Stalls.leaves (stalls : Stalls g waiting stuck) (wf : g.WellFormed)
    (perm : (g.nodes ++ waiting).Perm nodes) (part : waiting.Sublist nodes) :
    ∃ placed, Leaves nodes placed stuck := by
  induction stalls with
  | idle some_left pass => exact ⟨_, wf, perm, part, some_left, fun _ hn => pass.not_ready hn⟩
  | more pass _ _ ih =>
    exact ih (pass.wellFormed wf) (pass.places.perm.trans perm) (pass.waiting_sublist.trans part)

section Leaves

variable {n : Node} {p : String}

/-- The ids of the nodes are those that were placed and those that are stuck. -/
theorem Leaves.mem_ids_iff (left : Leaves nodes g stuck) :
    p ∈ nodes.map (·.id) ↔ p ∈ g.nodeIds ∨ p ∈ stuck.map (·.id) := by
  rw [← (left.perm.map (·.id)).mem_iff, List.map_append, List.mem_append]
  rfl

/-- **Stuck are the nodes whose chain of parents does not end.** -/
theorem Leaves.mem_stuck_iff (left : Leaves nodes g stuck) (edges : List Edge) :
    n ∈ stuck ↔ n ∈ nodes ∧ ¬ Rooted (ofLists nodes edges) n := by
  have parts : ∀ m ∈ nodes, m ∈ g.nodes ∨ m ∈ stuck :=
    fun m hm => List.mem_append.1 (left.perm.mem_iff.2 hm)
  constructor
  · intro hn
    refine ⟨left.part.subset hn, fun rooted => ?_⟩
    obtain ⟨m, hm, ready⟩ := exists_ready rooted parts hn
    rw [left.idle m hm] at ready
    cases ready
  · rintro ⟨hn, endless⟩
    refine (parts n hn).resolve_left fun placed => endless ?_
    have more : g.nodes ⊆ (ofLists nodes edges).nodes :=
      fun m hm => left.perm.subset (List.mem_append_left _ hm)
    exact (left.wellFormed.rooted n placed).mono more

/-- What stands in front of a stuck node and is stuck stands in front of it among the stuck. -/
theorem Leaves.mem_front (left : Leaves nodes g stuck) (distinct : nodes.Nodup)
    {before after first rest : List Node} (split : nodes = before ++ n :: after)
    (split' : stuck = first ++ n :: rest) {m : Node} (hm : m ∈ before) (kept : m ∈ stuck) :
    m ∈ first := by
  have order : Before nodes m n := split ▸ (before_middle_left_iff (split ▸ distinct)).2 hm
  rw [split'] at kept
  rcases List.mem_append.1 kept with front | back
  · exact front
  · exfalso
    have apart : m ≠ n := by
      rintro rfl
      rw [split] at distinct
      exact (List.nodup_append.1 distinct).2.2 m hm m List.mem_cons_self rfl
    have behind : m ∈ rest := (List.mem_cons.1 back).resolve_left apart
    have turned : Before stuck n m := by
      rw [split', before_append_iff, before_cons_iff]
      exact .inr (.inr (.inl ⟨rfl, behind⟩))
    exact apart (order.antisymm distinct (turned.sublist left.part))

/-! ### Missing parents -/

/-- A node names a parent that is none of the nodes. -/
def LacksParent (nodes : List Node) (n : Node) : Prop :=
  ∃ p, n.parent? = some p ∧ p ∉ nodes.map (·.id)

/-- **What is reported of nodes that are stuck**: the parent of the first one that lacks it among
them, and if none does, a cycle. -/
theorem unplaceable_cases (stuck : List Node) :
    (∃ first m rest p, stuck = first ++ m :: rest ∧ m.parent? = some p
        ∧ p ∉ stuck.map (·.id) ∧ (∀ k ∈ first, ¬ LacksParent stuck k)
        ∧ unplaceable stuck = .nodeNotFound p)
      ∨ (∀ k ∈ stuck, ¬ LacksParent stuck k)
        ∧ unplaceable stuck = .containment ((stuck.head?.map (·.id)).getD "") .cycle := by
  have passed_over : ∀ k : Node, (k.parent?.filter fun p => !(stuck.map (·.id)).contains p) = none →
      ¬ LacksParent stuck k := by
    rintro k none_missing ⟨p, hp, absent⟩
    rw [hp, Option.filter_eq_none_iff] at none_missing
    exact absent (by simpa using none_missing p rfl)
  cases found : stuck.findSome? fun n => n.parent?.filter fun p =>
      !(stuck.map (·.id)).contains p with
  | none =>
    refine .inr ⟨fun k hk => passed_over k (List.findSome?_eq_none_iff.1 found k hk), ?_⟩
    rw [unplaceable, found]
  | some p =>
    obtain ⟨first, m, rest, split, named, none_before⟩ := List.findSome?_eq_some_iff.1 found
    obtain ⟨hp, absent⟩ := Option.filter_eq_some_iff.1 named
    refine .inl ⟨first, m, rest, p, split, hp, by simpa using absent,
      fun k hk => passed_over k (none_before k hk), ?_⟩
    rw [unplaceable, found]

/-- What a stuck node names as its parent has not been placed. -/
theorem Leaves.parent_not_placed (left : Leaves nodes g stuck) (hn : n ∈ stuck)
    (hp : n.parent? = some p) : p ∉ g.nodeIds := by
  have waits := left.idle n hn
  rw [← Bool.not_eq_true, isReady_iff] at waits
  intro placed
  refine waits fun q hq => ?_
  rwa [← Option.some.inj (hp.symm.trans hq)]

/-- **The parent of a stuck node is missing** among the stuck ones exactly if it is missing
altogether. -/
theorem Leaves.lacksParent_iff (left : Leaves nodes g stuck) (hn : n ∈ stuck) :
    LacksParent stuck n ↔ LacksParent nodes n := by
  refine exists_congr fun p => and_congr_right fun hp => not_congr ?_
  rw [left.mem_ids_iff, or_iff_right (left.parent_not_placed hn hp)]

/-- A node that lacks its parent is stuck. -/
theorem Leaves.mem_stuck_of_lacksParent (left : Leaves nodes g stuck) (hn : n ∈ nodes)
    (lacks : LacksParent nodes n) : n ∈ stuck := by
  obtain ⟨p, hp, absent⟩ := lacks
  refine (List.mem_append.1 (left.perm.mem_iff.2 hn)).resolve_left fun placed => absent ?_
  exact left.mem_ids_iff.2 (.inl (left.wellFormed.parentsExist n placed p hp))

/-- **A missing parent is reported**, of several that of the first node that lacks it. -/
theorem Leaves.unplaceable_of_lacksParent (left : Leaves nodes g stuck) (distinct : nodes.Nodup)
    (some_lacks : ∃ n ∈ nodes, LacksParent nodes n) :
    ∃ before n after p, nodes = before ++ n :: after ∧ (∀ m ∈ before, ¬ LacksParent nodes m)
      ∧ n.parent? = some p ∧ p ∉ nodes.map (·.id) ∧ unplaceable stuck = .nodeNotFound p := by
  rcases unplaceable_cases stuck with
    ⟨first, n, rest, p, split', hp, absent, none_before, reported⟩ | ⟨none_lacks, -⟩
  · have here : n ∈ stuck := split' ▸ List.mem_append_right _ List.mem_cons_self
    obtain ⟨before, after, split⟩ := List.append_of_mem (left.part.subset here)
    refine ⟨before, n, after, p, split, fun m hm lacks => ?_, hp, ?_, reported⟩
    · have listed : m ∈ nodes := split ▸ List.mem_append_left _ hm
      have waits := left.mem_stuck_of_lacksParent listed lacks
      exact none_before m (left.mem_front distinct split split' hm waits)
        ((left.lacksParent_iff waits).2 lacks)
    · rw [left.mem_ids_iff, not_or]
      exact ⟨left.parent_not_placed here hp, absent⟩
  · obtain ⟨n, hn, lacks⟩ := some_lacks
    have waits := left.mem_stuck_of_lacksParent hn lacks
    exact absurd ((left.lacksParent_iff waits).2 lacks) (none_lacks n waits)

/-- **Where no parent is missing a cycle is reported**, and the node that is named is the first one
whose chain of parents does not end. -/
theorem Leaves.unplaceable_of_parents (left : Leaves nodes g stuck) (distinct : nodes.Nodup)
    (none_lacks : ∀ n ∈ nodes, ¬ LacksParent nodes n) (edges : List Edge) :
    ∃ before n after, nodes = before ++ n :: after
      ∧ (∀ m ∈ before, Rooted (ofLists nodes edges) m) ∧ ¬ Rooted (ofLists nodes edges) n
      ∧ unplaceable stuck = .containment n.id .cycle := by
  obtain ⟨n, rest, split'⟩ := List.exists_cons_of_ne_nil left.some_stuck
  have here : n ∈ stuck := split' ▸ List.mem_cons_self
  obtain ⟨before, after, split⟩ := List.append_of_mem (left.part.subset here)
  refine ⟨before, n, after, split, fun m hm => ?_, ((left.mem_stuck_iff edges).1 here).2, ?_⟩
  · by_contra endless
    have listed : m ∈ nodes := split ▸ List.mem_append_left _ hm
    have waits := (left.mem_stuck_iff edges).2 ⟨listed, endless⟩
    have front : m ∈ [] := left.mem_front distinct split split' hm waits
    exact List.not_mem_nil front
  · rcases unplaceable_cases stuck with ⟨first, m, rest', p, split'', hp, absent, -⟩ | ⟨-, reported⟩
    · have waits : m ∈ stuck := split'' ▸ List.mem_append_right _ List.mem_cons_self
      exact absurd ((left.lacksParent_iff waits).1 ⟨p, hp, absent⟩)
        (none_lacks m (left.part.subset waits))
    · rw [reported, split']
      rfl

end Leaves

/-! ### Parts that make no graph -/

/-- **Compatible nodes make a graph of all of them or get stuck**, and then the error tells why
those nodes are stuck. -/
theorem Compatible.ofParts_cases (compatible : Compatible nodes) :
    (∃ g, ofParts nodes [] = .ok g ∧ g.WellFormed ∧ g.nodes.Perm nodes)
      ∨ ∃ placed stuck, Leaves nodes placed stuck
        ∧ ofParts nodes [] = .error (unplaceable stuck) := by
  have all_wait : (empty.nodes ++ nodes).Perm nodes := .refl _
  rcases compatible.passes_or_stalls (g := empty) wellFormed_empty with
    ⟨g, passes⟩ | ⟨stuck, stalls⟩
  · have perm := passes.places.perm.trans all_wait
    rw [List.append_nil] at perm
    exact .inl ⟨g, ofParts_eq_ok_iff.2 ⟨g, passes, rfl⟩, passes.wellFormed wellFormed_empty, perm⟩
  · obtain ⟨placed, left⟩ := stalls.leaves wellFormed_empty all_wait (.refl _)
    refine .inr ⟨placed, stuck, left, ?_⟩
    rw [ofParts, placeAll_of_stalls stalls]

/-- Among the nodes of a well-formed graph no parent is missing. -/
theorem WellFormed.not_lacksParent (wf : g.WellFormed) (perm : g.nodes.Perm nodes) {n : Node}
    (hn : n ∈ nodes) : ¬ LacksParent nodes n := by
  rintro ⟨p, hp, absent⟩
  exact absent ((perm.map _).subset (wf.parentsExist n (perm.mem_iff.2 hn) p hp))

/-- Where nodes are stuck, a parent is missing or a node stands in itself. -/
theorem Leaves.exists_fault {placed : Graph} (left : Leaves nodes placed stuck)
    (compatible : Compatible nodes) (edges : List Edge) :
    (∃ n ∈ nodes, LacksParent nodes n) ∨ ∃ n ∈ nodes, Inside (ofLists nodes edges) n.id n.id := by
  by_contra sound
  push Not at sound
  obtain ⟨none_lacks, acyclic⟩ := sound
  obtain ⟨n, hn⟩ := List.exists_mem_of_ne_nil stuck left.some_stuck
  obtain ⟨listed, endless⟩ := (left.mem_stuck_iff edges).1 hn
  have distinct : (ofLists nodes edges).nodeIds.Nodup := compatible.distinct
  have exist : (ofLists nodes edges).ParentsExist := by
    intro m hm p hp
    by_contra absent
    exact none_lacks m hm ⟨p, hp, absent⟩
  exact endless (rooted_of_acyclic distinct exist acyclic listed)

/-- **Compatible nodes that make no graph.** They fail to exactly if the parent of some node is
missing or some node stands in itself. A missing parent is reported as a node that is not found:
that of the first node that lacks it. If none is missing, a cycle of parents is reported at a node
whose chain of parents does not end, the first such node. -/
theorem ofParts_error_decided (compatible : Compatible nodes) :
    ((∃ e, ofParts nodes [] = .error e) ↔
        (∃ n ∈ nodes, LacksParent nodes n) ∨ ∃ n ∈ nodes, Inside (ofLists nodes []) n.id n.id)
      ∧ ((∃ n ∈ nodes, LacksParent nodes n) →
        ∃ before n after p, nodes = before ++ n :: after ∧ (∀ m ∈ before, ¬ LacksParent nodes m)
          ∧ n.parent? = some p ∧ p ∉ nodes.map (·.id)
          ∧ ofParts nodes [] = .error (.nodeNotFound p))
      ∧ ((∀ n ∈ nodes, ¬ LacksParent nodes n) → ∀ e, ofParts nodes [] = .error e →
        ∃ before n after, nodes = before ++ n :: after
          ∧ (∀ m ∈ before, Rooted (ofLists nodes []) m) ∧ ¬ Rooted (ofLists nodes []) n
          ∧ e = .containment n.id .cycle) := by
  have distinct : (ofLists nodes []).nodeIds.Nodup := compatible.distinct
  rcases compatible.ofParts_cases with ⟨g, built, wf, perm⟩ | ⟨placed, stuck, left, failed⟩
  · have none_lacks : ∀ n ∈ nodes, ¬ LacksParent nodes n := fun n hn => wf.not_lacksParent perm hn
    have acyclic : ∀ n ∈ nodes, ¬ Inside (ofLists nodes []) n.id n.id := by
      intro n hn
      have listed : g.nodes ⊆ (ofLists nodes []).nodes := perm.subset
      exact ((wf.rooted n (perm.mem_iff.2 hn)).mono listed).not_inside_self distinct
    refine ⟨?_, fun ⟨n, hn, lacks⟩ => absurd lacks (none_lacks n hn), fun _ e failed => ?_⟩
    · simp only [built, reduceCtorEq, exists_false, false_iff, not_or, not_exists, not_and]
      exact ⟨none_lacks, acyclic⟩
    · rw [built] at failed
      cases failed
  · refine ⟨⟨fun _ => left.exists_fault compatible [], fun _ => ⟨_, failed⟩⟩, fun some_lacks => ?_,
      fun none_lacks e same => ?_⟩
    · simp only [failed, Except.error.injEq]
      exact left.unplaceable_of_lacksParent compatible.distinct.of_map some_lacks
    · rw [failed, Except.error.injEq] at same
      obtain rfl := same
      exact left.unplaceable_of_parents compatible.distinct.of_map none_lacks []

/-- Two loops each of which stands in the other, and two messages in containers that are not
there. -/
def strayParts : List Node :=
  [{ id := "inner", type := "control.loop", label := "Inner", category := .control,
      parent? := some "outer" },
    { id := "outer", type := "control.loop", label := "Outer", category := .control,
      parent? := some "inner" },
    { id := "notify", type := "logging.log", label := "Notify", category := .logging,
      parent? := some "guard" },
    { id := "record", type := "logging.log", label := "Record", category := .logging,
      parent? := some "branch" }]

/-- Of the faults of these parts the first missing parent is reported. -/
theorem ofParts_error_decided_strayParts :
    Compatible strayParts ∧ (∃ n ∈ strayParts, LacksParent strayParts n)
      ∧ ∃ before n after p, strayParts = before ++ n :: after
        ∧ (∀ m ∈ before, ¬ LacksParent strayParts m) ∧ n.parent? = some p
        ∧ p ∉ strayParts.map (·.id) ∧ ofParts strayParts [] = .error (.nodeNotFound p) := by
  have compatible : Compatible strayParts :=
    { visible := by decide +kernel
      distinct := by decide +kernel
      contain := by decide +kernel }
  have some_lacks : ∃ n ∈ strayParts, LacksParent strayParts n :=
    ⟨_, .tail _ (.tail _ (.head _)), "guard", rfl, by decide +kernel⟩
  exact ⟨compatible, some_lacks, (ofParts_error_decided compatible).2.1 some_lacks⟩

-- the loops alone: neither comes before the other, and the first one is named
example : (match ofParts (strayParts.take 2) [] with
    | .ok _ => none
    | .error e => some e) = some (.containment "inner" .cycle) := by decide +kernel

end Workflow.Graph
