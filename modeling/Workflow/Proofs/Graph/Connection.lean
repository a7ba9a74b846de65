import Mathlib.Order.Bounds.Basic
import Mathlib.Order.Nat
import Workflow.Proofs.Graph.Acceptance

/-!
# The id of a connection

Two nodes are connected by an edge with its canonical id, or, where an edge has that id already,
with a number behind it. The number is found by a loop that counts up from two and has no bound: it
stops where no edge has the id. Its runs are told by a relation, `Counts`, one rule for each way a
turn can go, and `Picks` tells which id is picked in the end. The loop ends on every graph, since
different numbers give different ids and no more ids are in use than there are edges. What it picks
is what the bounded search of `freeEdgeId` finds, so that connecting two nodes can only fail for
what is wrong with them.

## Main results

* `counts_iff_isLeast`: the loop ends with the least number that gives a free id.
* `picks_iff_isFirstFree`, `picks_iff_eq_freeEdgeId`: it picks the first free id, which is the one
  that a new edge gets.
* `connect_decided`: **when nodes are connected, and with which id**, on every graph.
-/

namespace Workflow.Graph

variable {g : Graph} {base id : String} {start last : Nat}

/-! ### The loop that counts -/

/-- A run of the loop that counts up, from the number it is at to the one it ends with. -/
inductive Counts (g : Graph) (base : String) : Nat → Nat → Prop where
  /-- No edge has the id with the number. -/
  | stop {k : Nat} : (g.edge? (numberedId base k)).isNone = true → Counts g base k k
  /-- An edge has it: the loop goes on with the next number. -/
  | next {k last : Nat} : (g.edge? (numberedId base k)).isNone = false →
      Counts g base (k + 1) last → Counts g base k last

/-- The numbers from `start` on that give an id which no edge has. -/
def freeNumbers (g : Graph) (base : String) (start : Nat) : Set Nat :=
  {k | start ≤ k ∧ numberedId base k ∉ g.edgeIds}

/-- Where a number is not free, the least free one is looked for behind it. -/
theorem isLeast_freeNumbers_succ (used : numberedId base start ∈ g.edgeIds) :
    IsLeast (g.freeNumbers base start) last ↔ IsLeast (g.freeNumbers base (start + 1)) last := by
  have same : g.freeNumbers base start = g.freeNumbers base (start + 1) := by
    ext k
    refine and_congr_left fun free => ⟨fun le => Nat.lt_of_le_of_ne le ?_, Nat.le_of_succ_le⟩
    rintro rfl
    exact free used
  rw [same]

/-- **The loop ends with the least number that gives a free id**, from wherever it starts. -/
theorem counts_iff_isLeast :
    g.Counts base start last ↔ IsLeast (g.freeNumbers base start) last := by
  constructor
  · intro run
    induction run with
    | stop free => exact ⟨⟨Nat.le_refl _, edge?_isNone_iff.1 free⟩, fun _ later => later.1⟩
    | next used _ ih =>
      rw [Option.isNone_eq_false_iff, edge?_isSome_iff] at used
      exact (isLeast_freeNumbers_succ used).2 ih
  · intro least
    -- the induction is on how far there is to count
    induction ahead : last - start generalizing start with
    | zero =>
      obtain ⟨le, free⟩ := least.1
      obtain rfl : start = last := Nat.le_antisymm le (Nat.sub_eq_zero_iff_le.1 ahead)
      exact .stop (edge?_isNone_iff.2 free)
    | succ ahead_next ih =>
      have used : numberedId base start ∈ g.edgeIds := by
        by_contra free
        have le := least.2 ⟨Nat.le_refl start, free⟩
        omega
      refine .next ?_ (ih ((isLeast_freeNumbers_succ used).1 least) (by omega))
      rwa [Option.isNone_eq_false_iff, edge?_isSome_iff]

/-! ### The id that is picked -/

/-- A run of the choice of an id for a new edge, with the id it ends with. -/
inductive Picks (g : Graph) (base : String) : String → Prop where
  /-- No edge has the id. -/
  | plain : (g.edge? base).isNone = true → Picks g base base
  /-- An edge has it: the loop counts up from two. -/
  | numbered {k : Nat} : (g.edge? base).isNone = false → Counts g base 2 k →
      Picks g base (numberedId base k)

/-- The first one of `base`, `base-2`, `base-3` and so on that is not among `ids`. -/
def IsFirstOutside (ids : List String) (base id : String) : Prop :=
  base ∉ ids ∧ id = base
    ∨ base ∈ ids ∧ ∃ k, IsLeast {k | 2 ≤ k ∧ numberedId base k ∉ ids} k ∧ id = numberedId base k

/-- Of some ids, no two are the first one outside. -/
theorem IsFirstOutside.unique {ids : List String} {id' : String}
    (first : IsFirstOutside ids base id) (first' : IsFirstOutside ids base id') : id = id' := by
  rcases first with ⟨free, rfl⟩ | ⟨used, k, least, rfl⟩ <;>
    rcases first' with ⟨free', rfl⟩ | ⟨used', k', least', rfl⟩
  · rfl
  · exact absurd used' free
  · exact absurd used free'
  · rw [least.unique least']

/-- The first free one of `base`, `base-2`, `base-3` and so on. -/
def IsFirstFree (g : Graph) (base id : String) : Prop :=
  base ∉ g.edgeIds ∧ id = base
    ∨ base ∈ g.edgeIds ∧ ∃ k, IsLeast (g.freeNumbers base 2) k ∧ id = numberedId base k

/-- **The first free id is picked.** -/
theorem picks_iff_isFirstFree : g.Picks base id ↔ g.IsFirstFree base id := by
  constructor
  · rintro (free | ⟨used, run⟩)
    · exact .inl ⟨edge?_isNone_iff.1 free, rfl⟩
    · rw [Option.isNone_eq_false_iff, edge?_isSome_iff] at used
      exact .inr ⟨used, _, counts_iff_isLeast.1 run, rfl⟩
  · rintro (⟨free, rfl⟩ | ⟨used, k, least, rfl⟩)
    · exact .plain (edge?_isNone_iff.2 free)
    · refine .numbered ?_ (counts_iff_isLeast.2 least)
      rwa [Option.isNone_eq_false_iff, edge?_isSome_iff]

/-- An id is the first free one exactly if it is the first one that no edge has. -/
theorem isFirstFree_iff_isFirstOutside :
    g.IsFirstFree base id ↔ IsFirstOutside g.edgeIds base id :=
  Iff.rfl

/-- No two ids are the first free one. -/
theorem IsFirstFree.unique {id' : String} (first : g.IsFirstFree base id)
    (first' : g.IsFirstFree base id') : id = id' :=
  (isFirstFree_iff_isFirstOutside.1 first).unique (isFirstFree_iff_isFirstOutside.1 first')

/-- A new edge gets the first free id. -/
theorem isFirstFree_freeEdgeId (g : Graph) (base : String) :
    g.IsFirstFree base (g.freeEdgeId base) := by
  by_cases used : base ∈ g.edgeIds
  · obtain ⟨k, numbered, two, free, below⟩ := exists_freeEdgeId_eq used
    refine .inr ⟨used, k, ⟨⟨two, free⟩, ?_⟩, numbered⟩
    rintro j ⟨two', free'⟩
    by_contra lower
    exact free' (below j two' (Nat.lt_of_not_le lower))
  · exact .inl ⟨used, freeEdgeId_of_not_mem used⟩

/-- **The choice of an id ends on every graph**, with the id that a new edge gets. -/
theorem picks_iff_eq_freeEdgeId : g.Picks base id ↔ id = g.freeEdgeId base := by
  rw [picks_iff_isFirstFree]
  constructor
  · exact fun first => first.unique (g.isFirstFree_freeEdgeId base)
  · rintro rfl
    exact g.isFirstFree_freeEdgeId base

/-! ### Connecting -/

/-- An edge is refused for its id only if an edge has it already. -/
theorem mem_edgeIds_of_addEdge {e : Edge} {id : String}
    (refused : g.addEdge e = .error (.duplicateEdgeId id)) : e.id ∈ g.edgeIds := by
  rw [addEdge] at refused
  split at refused
  · cases refused
  · split at refused
    · cases refused
    · split at refused
      · cases refused
      · split at refused
        · next used => exact edge?_isSome_iff.1 used
        · cases refused

/-- **When nodes are connected, and with which id.** On every graph, well formed or not, the choice
of an id ends. Connecting then succeeds exactly if both nodes exist and no edge leaves the source by
the handle, and never fails for the id. On success the edge has the first free one of its canonical
id and that id with a number, and the graph has this edge behind its others and is otherwise as it
was. -/
theorem connect_decided (g : Graph) (source target : String) (handle : Handle) :
    (∀ id, g.Picks (Edge.canonicalId source handle target) id
        ↔ id = g.freeEdgeId (Edge.canonicalId source handle target))
      ∧ ((∃ result, g.connect source target handle = .ok result) ↔
        source ∈ g.nodeIds ∧ target ∈ g.nodeIds ∧ (source, handle) ∉ g.takenHandles)
      ∧ (∀ id, g.connect source target handle ≠ .error (.duplicateEdgeId id))
      ∧ ∀ id g', g.connect source target handle = .ok (id, g') ↔
        (source ∈ g.nodeIds ∧ target ∈ g.nodeIds ∧ (source, handle) ∉ g.takenHandles)
          ∧ g.IsFirstFree (Edge.canonicalId source handle target) id
          ∧ g'.nodes = g.nodes
          ∧ g'.edges = g.edges ++ [({ id, source, target, handle } : Edge)] := by
  refine ⟨fun _ => picks_iff_eq_freeEdgeId, ⟨?_, ?_⟩, ?_, fun id g' => ?_⟩
  · rintro ⟨⟨id, g'⟩, done⟩
    obtain ⟨hs, ht, free, -⟩ := connect_eq_ok_iff.1 done
    exact ⟨hs, ht, free⟩
  · rintro ⟨hs, ht, free⟩
    exact ⟨_, connect_eq_ok_iff.2 ⟨hs, ht, free, rfl, rfl⟩⟩
  · intro id refused
    exact g.freeEdgeId_not_mem _ (mem_edgeIds_of_addEdge (map_eq_error_iff.1 refused))
  · rw [connect_eq_ok_iff, ← picks_iff_isFirstFree, picks_iff_eq_freeEdgeId]
    constructor
    · rintro ⟨hs, ht, free, rfl, rfl⟩
      exact ⟨⟨hs, ht, free⟩, rfl, rfl, rfl⟩
    · rintro ⟨⟨hs, ht, free⟩, rfl, nodes, edges⟩
      exact ⟨hs, ht, free, rfl, ext_lists nodes.symm edges.symm⟩

-- two edges with the same canonical id, as ids of nodes may contain hyphens
example : (do
    let step := fun id => { id, type := "logging.log", label := id, category := .logging : Node }
    let g := ofLists [step "a", step "a-success-x", step "x-error-b", step "b"] []
    let (first, g) ← g.connect "a" "x-error-b" .success
    let (second, _) ← g.connect "a-success-x" "b" .error
    return (first, second)).toOption = some ("a-success-x-error-b", "a-success-x-error-b-2") := by
  decide +kernel

end Workflow.Graph
