import Workflow.Proofs.Graph.Placement
import Workflow.Proofs.Precedence

/-!
# Siblings in a graph of parts

A node that waits for its parent is placed in a later pass than a sibling that comes behind the
parent. So siblings keep the order in which they come unless their parent comes between them:
those in front of the parent wait, and are placed behind the others.

A pass that goes over the parent is taken apart there. In front of the parent no sibling is placed
(`Pass.siblings_wait`), behind it each one is (`Pass.siblings_placed`). `Arrives` says in which
order siblings are to be listed in the end, and every pass keeps it.

## Main results

* `Arrives.pass`: every pass keeps the order in which siblings are to be listed.
* `before_of_ofParts_iff`: two children keep their order exactly if their parent does not come
  between them.
* `siblings_of_ofParts`: **the children of a node** in a graph of parts are those that come behind
  it, and then those that come in front of it.
* `siblings_turned`: siblings on both sides of their parent change places.
-/

namespace Workflow.Graph

variable {g g' : Graph} {nodes waiting : List Node} {p : String} {order : List Node}

/-! ### Siblings -/

/-- The nodes with this parent, or those without one, in the order they come. -/
def siblings (parent? : Option String) (nodes : List Node) : List Node :=
  nodes.filter (·.parent? == parent?)

@[simp] theorem siblings_nil (parent? : Option String) : siblings parent? [] = [] := rfl

@[simp] theorem siblings_append (parent? : Option String) (nodes others : List Node) :
    siblings parent? (nodes ++ others) = siblings parent? nodes ++ siblings parent? others :=
  List.filter_append ..

/-- A node is a sibling of the nodes with its parent. -/
theorem siblings_cons_of_eq {parent? : Option String} {n : Node} (same : n.parent? = parent?)
    (rest : List Node) : siblings parent? (n :: rest) = n :: siblings parent? rest := by
  simp [siblings, same]

/-- A node with another parent is no sibling. -/
theorem siblings_cons_of_ne {parent? : Option String} {n : Node} (other : n.parent? ≠ parent?)
    (rest : List Node) : siblings parent? (n :: rest) = siblings parent? rest := by
  simp [siblings, other]

/-- The siblings of a node are listed as all nodes are. -/
theorem before_siblings_iff {parent? : Option String} {a b : Node} (ha : a.parent? = parent?)
    (hb : b.parent? = parent?) : Before (siblings parent? nodes) a b ↔ Before nodes a b := by
  constructor
  · exact fun h => h.sublist List.filter_sublist
  · refine .of_filter_eq (p := (·.parent? == parent?)) ?_ (beq_iff_eq.2 ha) (beq_iff_eq.2 hb)
    simp [siblings]

/-! ### One pass -/

/-- What has been placed stays. -/
theorem Pass.nodeIds_subset (pass : Pass g nodes g' waiting) : g.nodeIds ⊆ g'.nodeIds := by
  induction pass with
  | done => exact List.Subset.refl _
  | place _ added _ ih =>
    obtain rfl := eq_appendNode_of_addNode added
    rw [nodeIds_appendNode] at ih
    exact fun id known => ih (List.mem_append_left _ known)
  | keep _ _ ih => exact ih

/-- **Siblings whose parent is there**, or that have none, are placed in the order they come. -/
theorem Pass.siblings_placed (pass : Pass g nodes g' waiting) (parent? : Option String)
    (there : ∀ p, parent? = some p → p ∈ g.nodeIds) :
    siblings parent? g'.nodes = siblings parent? g.nodes ++ siblings parent? nodes
      ∧ siblings parent? waiting = [] := by
  induction pass with
  | done => simp
  | @place g _ _ n rest _ _ added _ ih =>
    obtain rfl := eq_appendNode_of_addNode added
    obtain ⟨placed, none_waits⟩ := ih fun p hp => by
      rw [nodeIds_appendNode]
      exact List.mem_append_left _ (there p hp)
    refine ⟨?_, none_waits⟩
    rw [placed, nodes_appendNode, siblings_append, List.append_assoc, ← siblings_append,
      List.singleton_append]
  | @keep g _ n rest _ idle _ ih =>
    have other : n.parent? ≠ parent? := by
      rintro rfl
      rw [isReady_iff.2 there] at idle
      cases idle
    rw [siblings_cons_of_ne other, siblings_cons_of_ne other]
    exact ih there

/-- **Siblings whose parent neither is there nor comes** all wait. -/
theorem Pass.siblings_wait (pass : Pass g nodes g' waiting) (absent : p ∉ g.nodeIds)
    (foreign : p ∉ nodes.map (·.id)) :
    siblings (some p) g'.nodes = siblings (some p) g.nodes
      ∧ siblings (some p) waiting = siblings (some p) nodes ∧ p ∉ g'.nodeIds := by
  induction pass with
  | done => exact ⟨rfl, rfl, absent⟩
  | @place g _ _ n rest _ ready added _ ih =>
    obtain rfl := eq_appendNode_of_addNode added
    rw [List.map_cons, List.mem_cons, not_or] at foreign
    have other : n.parent? ≠ some p := fun hp => absent (isReady_iff.1 ready p hp)
    obtain ⟨placed, wait, still_absent⟩ := ih (by simp [absent, foreign.1]) foreign.2
    refine ⟨?_, ?_, still_absent⟩
    · rw [placed, nodes_appendNode, siblings_append, siblings_cons_of_ne other, siblings_nil,
        List.append_nil]
    · rw [wait, siblings_cons_of_ne other]
  | @keep g _ n rest _ _ _ ih =>
    rw [List.map_cons, List.mem_cons, not_or] at foreign
    obtain ⟨placed, wait, still_absent⟩ := ih absent foreign.2
    refine ⟨placed, ?_, still_absent⟩
    by_cases same : n.parent? = some p
    · rw [siblings_cons_of_eq same, siblings_cons_of_eq same, wait]
    · rw [siblings_cons_of_ne same, siblings_cons_of_ne same, wait]

/-! ### All passes -/

/-- The children of `p` are going to be listed as `order`, whether `p` has been placed or waits:
then those behind it follow it at once, and those in front of it a pass later. -/
inductive Arrives (p : String) (order : List Node) : Graph → List Node → Prop where
  /-- The parent is there. -/
  | there {g : Graph} {waiting : List Node} : p ∈ g.nodeIds →
      siblings (some p) g.nodes ++ siblings (some p) waiting = order → Arrives p order g waiting
  /-- The parent waits, and so do all its children. -/
  | due {g : Graph} {m : Node} {before after : List Node} : m.id = p → p ∉ g.nodeIds →
      p ∉ before.map (·.id) → p ∉ after.map (·.id) → siblings (some p) g.nodes = [] →
      siblings (some p) (after ++ before) = order → Arrives p order g (before ++ m :: after)

/-- **Every pass keeps** the order in which siblings are to be listed. -/
theorem Arrives.pass (arrives : Arrives p order g nodes) (pass : Pass g nodes g' waiting) :
    Arrives p order g' waiting := by
  cases arrives with
  | there known listed =>
    obtain ⟨placed, none_waits⟩ := pass.siblings_placed (some p) (by simpa using known)
    refine .there (pass.nodeIds_subset known) ?_
    rw [placed, none_waits, List.append_nil, listed]
  | @due m before after is_parent absent not_before not_after none_yet listed =>
    obtain ⟨g₁, first, rest, pass₁, onward, rfl⟩ := pass.append_inv
    obtain ⟨placed₁, wait₁, absent₁⟩ := pass₁.siblings_wait absent not_before
    rw [none_yet] at placed₁
    cases onward with
    | place ready added pass₂ =>
      obtain rfl := eq_appendNode_of_addNode added
      have outside : m.parent? ≠ some p := fun hp => absent₁ (isReady_iff.1 ready p hp)
      have known : p ∈ (g₁.appendNode m).nodeIds := by simp [is_parent]
      obtain ⟨placed₂, none_waits⟩ := pass₂.siblings_placed (some p) (by simpa using known)
      refine .there (pass₂.nodeIds_subset known) ?_
      rw [placed₂, nodes_appendNode, siblings_append, placed₁, siblings_cons_of_ne outside,
        siblings_append, none_waits, wait₁, ← listed, siblings_append]
      simp
    | @keep _ _ _ _ still idle pass₂ =>
      obtain ⟨placed₂, wait₂, absent₂⟩ := pass₂.siblings_wait absent₁ not_after
      have fewer₁ : first.map (·.id) ⊆ before.map (·.id) :=
        List.map_subset _ pass₁.waiting_sublist.subset
      have fewer₂ : still.map (·.id) ⊆ after.map (·.id) :=
        List.map_subset _ pass₂.waiting_sublist.subset
      refine .due is_parent absent₂ (fun h => not_before (fewer₁ h))
        (fun h => not_after (fewer₂ h)) (placed₂.trans placed₁) ?_
      rw [siblings_append, wait₁, wait₂, ← listed, siblings_append]

/-- All passes together list siblings as they are to be listed. -/
theorem Arrives.passes (arrives : Arrives p order g waiting) (passes : Passes g waiting g') :
    siblings (some p) g'.nodes = order := by
  induction passes with
  | @done g =>
    generalize none_left : ([] : List Node) = nodes at arrives
    cases arrives with
    | there _ listed =>
      subst none_left
      simpa using listed
    | due => simp at none_left
  | more _ pass _ _ ih => exact ih (arrives.pass pass)

/-- All passes together place nodes without a parent in the order they come. -/
theorem Passes.siblings_none (passes : Passes g waiting g') :
    siblings none g'.nodes = siblings none g.nodes ++ siblings none waiting := by
  induction passes with
  | done => simp
  | more _ pass _ _ ih =>
    obtain ⟨placed, none_waits⟩ := pass.siblings_placed none (by simp)
    rw [ih, placed, none_waits, List.append_nil]

/-! ### Graphs of parts -/

/-- The nodes of a graph of parts without a parent are listed as they come. -/
theorem topLevel_of_ofParts {edges : List Edge} (built : ofParts nodes edges = .ok g) :
    g.topLevel = siblings none nodes := by
  obtain ⟨placed, passes, added⟩ := ofParts_eq_ok_iff.1 built
  rw [topLevel_eq_filter, (addEdges_ok added).1]
  exact passes.siblings_none

/-- The children of a node in a graph of parts: those that come behind it, and then those that
come in front of it. -/
theorem childrenOf_of_ofParts {edges : List Edge} {m : Node} {before after : List Node}
    (built : ofParts (before ++ m :: after) edges = .ok g) :
    g.childrenOf m.id = siblings (some m.id) (after ++ before) := by
  have distinct := (wellFormed_of_ofParts built).nodeIdsDistinct
  rw [((ofParts_ok built).2.1.map _).nodup_iff, List.map_append, List.map_cons] at distinct
  obtain ⟨new, -⟩ := List.nodup_cons.1 (List.nodup_middle.1 distinct)
  rw [List.mem_append, not_or] at new
  obtain ⟨placed, passes, added⟩ := ofParts_eq_ok_iff.1 built
  have arrives : Arrives m.id (siblings (some m.id) (after ++ before)) empty
      (before ++ m :: after) := .due rfl List.not_mem_nil new.1 new.2 rfl rfl
  rw [childrenOf_eq_filter, (addEdges_ok added).1]
  exact arrives.passes passes

/-- Nodes without a parent keep their order. -/
theorem before_of_ofParts {edges : List Edge} {a b : Node} (built : ofParts nodes edges = .ok g)
    (ha : a.parent? = none) (hb : b.parent? = none) (order : Before nodes a b) :
    Before g.nodes a b := by
  have listed := topLevel_of_ofParts built
  rw [topLevel_eq_filter] at listed
  rw [← before_siblings_iff ha hb, siblings, listed]
  exact (before_siblings_iff ha hb).2 order

/-- **Two children keep their order** exactly if their parent does not come between them. -/
theorem before_of_ofParts_iff {edges : List Edge} {a b m : Node} {before after : List Node}
    (built : ofParts (before ++ m :: after) edges = .ok g) (ha : a.parent? = some m.id)
    (hb : b.parent? = some m.id) (order : Before (before ++ m :: after) a b) :
    Before g.nodes a b ↔
      ¬ (Before (before ++ m :: after) a m ∧ Before (before ++ m :: after) m b) := by
  obtain ⟨-, perm, -⟩ := ofParts_ok built
  have wf := wellFormed_of_ofParts built
  have distinct : (before ++ m :: after).Nodup := perm.nodup_iff.1 wf.nodeIdsDistinct.of_map
  have other : ∀ c ∈ before ++ m :: after, c.parent? = some m.id → c ≠ m := by
    rintro c hc hp rfl
    exact wf.parent?_ne_self (perm.mem_iff.2 hc) hp
  have listed := childrenOf_of_ofParts built
  rw [childrenOf_eq_filter] at listed
  rw [← before_siblings_iff ha hb, siblings, listed, before_siblings_iff ha hb]
  exact before_turned_iff distinct (other a order.left_mem ha) (other b order.right_mem hb) order

/-- **Siblings in a graph of parts.** At the top level nodes are listed as they come. The children
of a node are those that come behind it, and then those that come in front of it. Hence siblings
keep their order exactly if their parent does not come between them. -/
theorem siblings_of_ofParts {edges : List Edge} (built : ofParts nodes edges = .ok g) :
    g.topLevel = siblings none nodes
      ∧ (∀ before m after, nodes = before ++ m :: after →
        g.childrenOf m.id = siblings (some m.id) (after ++ before))
      ∧ ∀ a b, Before nodes a b → a.parent? = b.parent? →
        (Before g.nodes a b ↔
          ∀ m, a.parent? = some m.id → ¬ (Before nodes a m ∧ Before nodes m b)) := by
  refine ⟨topLevel_of_ofParts built,
    fun before m after split => childrenOf_of_ofParts (split ▸ built), ?_⟩
  intro a b order same
  cases parent : a.parent? with
  | none =>
    have kept := before_of_ofParts built parent (same ▸ parent) order
    simp [kept]
  | some p =>
    obtain ⟨-, perm, -⟩ := ofParts_ok built
    have wf := wellFormed_of_ofParts built
    obtain ⟨q, hq, rfl, -⟩ := wf.parentsContain a (perm.mem_iff.2 order.left_mem) p parent
    obtain ⟨before, after, rfl⟩ := List.append_of_mem (perm.mem_iff.1 hq)
    rw [before_of_ofParts_iff built parent (same ▸ parent) order]
    constructor
    · rintro apart m hm ⟨left, right⟩
      rw [Option.some.injEq] at hm
      obtain rfl : q = m := node_eq_of_id_eq wf.nodeIds_nodup hq
        (perm.mem_iff.2 left.right_mem) hm
      exact apart ⟨left, right⟩
    · exact fun apart => apart q rfl

/-- A message inside a loop. -/
def loopMessage (id : String) : Node :=
  { id, type := "logging.log", label := "Log", category := .logging, parent? := some "loop" }

/-- The loop that holds messages. -/
def messageLoop : Node :=
  { id := "loop", type := "control.loop", label := "Loop", category := .control }

/-- A loop that comes between the two messages inside it. -/
def splitLoop : List Node :=
  [loopMessage "first", messageLoop, loopMessage "second"]

/-- The message behind the loop is listed first, and the other one behind it. -/
theorem siblings_of_ofParts_splitLoop :
    ∃ g, ofParts splitLoop [] = .ok g
      ∧ g.childrenOf "loop" = [loopMessage "second", loopMessage "first"]
      ∧ Before splitLoop (loopMessage "first") (loopMessage "second")
      ∧ ¬ Before g.nodes (loopMessage "first") (loopMessage "second") := by
  have builds : (ofParts splitLoop []).toOption.isSome = true := by decide +kernel
  obtain ⟨g, built⟩ := exists_eq_ok_of_toOption builds
  obtain ⟨-, children, kept_iff⟩ := siblings_of_ofParts built
  have order : Before splitLoop (loopMessage "first") (loopMessage "second") :=
    .cons_cons _ (.cons _ (.refl _))
  refine ⟨g, built, children [loopMessage "first"] _ [loopMessage "second"] rfl, order, ?_⟩
  rw [kept_iff _ _ order rfl]
  intro apart
  exact apart messageLoop rfl ⟨.cons_cons _ (.cons_cons _ (.cons _ .slnil)), .cons _ (.refl _)⟩

/-- **Siblings on both sides of their parent change places**: that siblings are listed in the
order in which they come does not hold of all parts that make a graph. -/
theorem siblings_turned :
    ¬ ∀ (nodes : List Node) (edges : List Edge) (g : Graph), ofParts nodes edges = .ok g →
      ∀ a b, Before nodes a b → a.parent? = b.parent? → Before g.nodes a b := by
  intro always_kept
  have listed : (ofParts splitLoop []).toOption.any
      (fun g => g.nodeIds == ["loop", "second", "first"]) = true := by decide +kernel
  obtain ⟨g, built, listed⟩ := exists_eq_ok_of_any listed
  have order : Before splitLoop (loopMessage "first") (loopMessage "second") :=
    .cons_cons _ (.cons _ (.refl _))
  have kept : Before g.nodeIds "first" "second" :=
    Before.map Node.id (always_kept splitLoop [] g built _ _ order rfl)
  rw [eq_of_beq listed] at kept
  exact absurd kept (by decide)

end Workflow.Graph
