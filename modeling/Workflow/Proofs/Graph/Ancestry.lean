import Mathlib.Data.List.Nodup
import Workflow.Graph.Nesting
import Workflow.Graph.Structure
import Workflow.Proofs.Keyed
import Workflow.Proofs.Search

/-!
# Nesting, upwards and downwards

The two bounded walks of `Workflow.Graph.Nesting` against the relation `Inside`, which says
without a bound what it means to stand in a container. Both walks are searches in layers, the
one upwards with a single id in each layer. Where ids are distinct and parents exist, the walk
upwards lists exactly what a node stands in, and no child of a listed node is missing from the
walk downwards.

## Main results

* `node?_eq_some_iff`: with distinct ids, a look-up finds the node with the id.
* `mem_ancestors_iff_inside`: the walk upwards lists exactly what a node stands in.
* `child_mem_descendants`: the walk downwards is closed under children.
* `mem_descendants_iff`: the walk downwards lists exactly what stands in a node.
* `Rooted.not_inside_self`, `rooted_of_acyclic`: chains of parents end exactly where none
  comes back.
* `Rooted.root_unique`: no node stands in two nodes at the top level.
-/

namespace Workflow.Graph

variable {g : Graph}

/-! ### Looking up ids -/

/-- The ids of the nodes, in the order of creation. -/
def nodeIds (g : Graph) : List String :=
  g.nodes.map (·.id)

/-- An id is contained exactly if a node has it. -/
theorem contains_iff_mem_nodeIds (g : Graph) (id : String) :
    g.contains id = true ↔ id ∈ g.nodeIds := by
  simp [contains_eq_any, nodeIds]

/-- A node that is found has the id, and is one of the nodes. -/
theorem mem_of_node?_eq_some {id : String} {n : Node} (h : g.node? id = some n) :
    n ∈ g.nodes ∧ n.id = id := by
  rw [node?_eq_find?] at h
  exact ⟨List.mem_of_find?_eq_some h, by simpa using List.find?_some h⟩

/-- With distinct ids, nodes with the same id are the same. -/
theorem node_eq_of_id_eq (distinct : g.nodeIds.Nodup) {n m : Node} (hn : n ∈ g.nodes)
    (hm : m ∈ g.nodes) (same : n.id = m.id) : n = m :=
  List.inj_on_of_nodup_map distinct hn hm same

/-- With distinct ids, a look-up finds the node with the id. -/
theorem node?_eq_some_iff (distinct : g.nodeIds.Nodup) {id : String} {n : Node} :
    g.node? id = some n ↔ n ∈ g.nodes ∧ n.id = id := by
  rw [node?_eq_find?]
  exact find?_key_eq_some_iff distinct

/-- A parent that is found is the parent of a node. -/
theorem exists_of_parentOf?_eq_some {id p : String} (h : g.parentOf? id = some p) :
    ∃ n ∈ g.nodes, n.id = id ∧ n.parent? = some p := by
  rw [parentOf?, Option.bind_eq_some_iff] at h
  obtain ⟨n, found, hp⟩ := h
  obtain ⟨hn, hid⟩ := mem_of_node?_eq_some found
  exact ⟨n, hn, hid, hp⟩

/-- With distinct ids, the parent of an id is that of its node. -/
theorem parentOf?_eq (distinct : g.nodeIds.Nodup) {n : Node} (hn : n ∈ g.nodes) :
    g.parentOf? n.id = n.parent? := by
  rw [parentOf?, (node?_eq_some_iff distinct).2 ⟨hn, rfl⟩, Option.bind_some]

/-- A node stands directly in another exactly if it names it as its parent. -/
theorem mem_childrenOf {id : String} {n : Node} :
    n ∈ g.childrenOf id ↔ n ∈ g.nodes ∧ n.parent? = some id := by
  simp [childrenOf_eq_filter]

/-- The nodes at the top level, as those with no parent. -/
theorem topLevel_eq_filter (g : Graph) :
    g.topLevel = g.nodes.filter fun n => n.parent? == none := by
  refine List.filter_congr fun n _ => ?_
  cases hp : n.parent? <;> simp [Node.isTopLevel, hp]

/-- The nodes at the top level are those without a parent. -/
theorem mem_topLevel {n : Node} : n ∈ g.topLevel ↔ n ∈ g.nodes ∧ n.parent? = none := by
  simp [topLevel_eq_filter]

/-- Every parent that is named exists. -/
def ParentsExist (g : Graph) : Prop :=
  ∀ n ∈ g.nodes, ∀ p, n.parent? = some p → p ∈ g.nodeIds

/-! ### Standing inside -/

/-- What stands in something that stands directly in `top` stands in `top`. -/
theorem Inside.tail {a b : String} (h : Inside g a b) {n : Node} {top : String}
    (hn : n ∈ g.nodes) (hb : n.id = b) (hp : n.parent? = some top) : Inside g a top := by
  induction h with
  | step hm hmp => exact .trans hm hmp (hb ▸ .step hn hp)
  | trans hm hmp _ ih => exact .trans hm hmp (ih hb)

/-- Standing inside is transitive. -/
theorem Inside.append {a b c : String} (h : Inside g a b) (h' : Inside g b c) :
    Inside g a c := by
  induction h with
  | step hn hp => exact .trans hn hp h'
  | trans hn hp _ ih => exact .trans hn hp (ih h')

/-- What stands in something is a node. -/
theorem Inside.left_mem_nodeIds {a b : String} (h : Inside g a b) : a ∈ g.nodeIds := by
  cases h with
  | step hn _ => exact List.mem_map_of_mem hn
  | trans hn _ _ => exact List.mem_map_of_mem hn

/-- With distinct ids, a node stands in its parent, in what its parent stands in, and in
nothing else. -/
theorem inside_iff (distinct : g.nodeIds.Nodup) {n : Node} (hn : n ∈ g.nodes) {top : String} :
    Inside g n.id top ↔ ∃ p, n.parent? = some p ∧ (p = top ∨ Inside g p top) := by
  constructor
  · intro h
    generalize hid : n.id = id at h
    cases h with
    | step hm hp =>
      cases node_eq_of_id_eq distinct hn hm hid
      exact ⟨_, hp, .inl rfl⟩
    | trans hm hp above =>
      cases node_eq_of_id_eq distinct hn hm hid
      exact ⟨_, hp, .inr above⟩
  · rintro ⟨p, hp, rfl | above⟩
    · exact .step hn hp
    · exact .trans hn hp above

/-! ### The walk upwards -/

/-- The step of the walk upwards, as a step of a search. -/
def parentStep (g : Graph) (id : String) : List String :=
  (g.parentOf? id).toList

/-- The walk upwards is a search with a single id in each layer. -/
theorem ancestorsFrom_eq_layersFrom (g : Graph) (bound : Nat) (seen : List String)
    (current? : Option String) :
    g.ancestorsFrom bound seen current?
      = layersFrom g.parentStep bound seen (fresh seen current?.toList) := by
  induction bound generalizing seen current? with
  | zero => simp [ancestorsFrom, layersFrom]
  | succ bound ih =>
    cases current? with
    | none => simp [ancestorsFrom, layersFrom, fresh]
    | some id =>
      by_cases again : id ∈ seen
      · simp [ancestorsFrom, layersFrom, fresh, again]
      · simp [ancestorsFrom, layersFrom, fresh, again, ih, parentStep]

/-- The containers of a node are what a search upwards finds. -/
theorem ancestors_eq_reachable (g : Graph) (id : String) :
    g.ancestors id = reachable g.parentStep (g.nodes.length + 1) (g.parentStep id) :=
  ancestorsFrom_eq_layersFrom g _ _ _

/-- A node stands in whatever the walk upwards lists. -/
theorem inside_of_mem_ancestors {id top : String} (h : top ∈ g.ancestors id) :
    Inside g id top := by
  rw [ancestors_eq_reachable] at h
  refine reachable_induction ?_ ?_ h
  · intro a above b hb
    obtain ⟨n, hn, hid, hp⟩ := exists_of_parentOf?_eq_some (Option.mem_toList.1 hb)
    exact above.tail hn hid hp
  · intro a ha
    obtain ⟨n, hn, rfl, hp⟩ := exists_of_parentOf?_eq_some (Option.mem_toList.1 ha)
    exact .step hn hp

/-- The walk upwards lists whatever a node stands in. -/
theorem mem_ancestors_of_inside (distinct : g.nodeIds.Nodup) (exist : g.ParentsExist)
    {id top : String} (h : Inside g id top) : top ∈ g.ancestors id := by
  have known : ∀ a, g.parentStep a ⊆ g.nodeIds := by
    intro a b hb
    obtain ⟨n, hn, -, hp⟩ := exists_of_parentOf?_eq_some (Option.mem_toList.1 hb)
    exact exist n hn b hp
  have up : ∀ n ∈ g.nodes, ∀ p, n.parent? = some p → p ∈ g.parentStep n.id := by
    intro n hn p hp
    rw [parentStep, parentOf?_eq distinct hn, hp]
    exact List.mem_singleton_self p
  have room : g.nodeIds.length < g.nodes.length + 1 := by simp [nodeIds]
  rw [ancestors_eq_reachable, mem_reachable_iff (fun a _ _ hb => known a hb) (known id) room]
  -- the search starts one step above the node, so the chain is taken apart at its lower end
  induction h with
  | step hn hp => exact ⟨_, up _ hn _ hp, .refl⟩
  | trans hn hp _ ih =>
    obtain ⟨s, first, path⟩ := ih
    exact ⟨_, up _ hn _ hp, .head first path⟩

/-- **The walk upwards** lists exactly what a node stands in. -/
theorem mem_ancestors_iff_inside (distinct : g.nodeIds.Nodup) (exist : g.ParentsExist)
    {id top : String} : top ∈ g.ancestors id ↔ Inside g id top :=
  ⟨inside_of_mem_ancestors, mem_ancestors_of_inside distinct exist⟩

/-! ### Chains of parents -/

/-- A node whose chain of parents ends does not stand in itself. -/
theorem Rooted.not_inside_self (distinct : g.nodeIds.Nodup) {n : Node} (h : Rooted g n) :
    ¬ Inside g n.id n.id := by
  induction h with
  | top hn none_above =>
    intro loop
    obtain ⟨p, hp, -⟩ := (inside_iff distinct hn).1 loop
    rw [none_above] at hp
    cases hp
  | child hn hp _ ih =>
    intro loop
    obtain ⟨p, hp', same | above⟩ := (inside_iff distinct hn).1 loop
    · rw [hp] at hp'
      cases hp'
      exact ih (same ▸ loop)
    · rw [hp] at hp'
      cases hp'
      exact ih (above.tail hn rfl hp)

/-- Above a node there are more containers than above its parent. -/
theorem length_ancestors_lt (distinct : g.nodeIds.Nodup) (exist : g.ParentsExist) {n m : Node}
    (hn : n ∈ g.nodes) (hp : n.parent? = some m.id) (acyclic : ¬ Inside g m.id m.id) :
    (g.ancestors m.id).length < (g.ancestors n.id).length := by
  have distinct_above : (m.id :: g.ancestors m.id).Nodup :=
    List.nodup_cons.2 ⟨fun loop => acyclic (inside_of_mem_ancestors loop), g.nodup_ancestors _⟩
  have above : m.id :: g.ancestors m.id ⊆ g.ancestors n.id := by
    intro a ha
    refine mem_ancestors_of_inside distinct exist ?_
    rcases List.mem_cons.1 ha with rfl | ha
    · exact .step hn hp
    · exact .trans hn hp (inside_of_mem_ancestors ha)
  exact distinct_above.length_le_of_subset above

/-- If no node stands in itself, every chain of parents ends. -/
theorem rooted_of_acyclic (distinct : g.nodeIds.Nodup) (exist : g.ParentsExist)
    (acyclic : ∀ n ∈ g.nodes, ¬ Inside g n.id n.id) {n : Node} (hn : n ∈ g.nodes) :
    Rooted g n := by
  -- towards the root the number of containers above falls
  induction size : (g.ancestors n.id).length using Nat.strongRecOn generalizing n with
  | ind size ih =>
    cases hp : n.parent? with
    | none => exact .top hn hp
    | some p =>
      obtain ⟨m, hm, rfl⟩ := List.mem_map.1 (exist n hn p hp)
      have fewer := length_ancestors_lt distinct exist hn hp (acyclic m hm)
      exact .child hn hp (ih _ (by omega) hm rfl)

/-- A node at the top level stands in nothing. -/
theorem not_inside_of_mem_topLevel (distinct : g.nodeIds.Nodup) {n : Node}
    (top : n ∈ g.topLevel) {id : String} : ¬ Inside g n.id id := by
  intro inside
  obtain ⟨hn, none_above⟩ := mem_topLevel.1 top
  obtain ⟨p, hp, -⟩ := (inside_iff distinct hn).1 inside
  rw [none_above] at hp
  cases hp

/-- No node stands in two nodes at the top level. -/
theorem Rooted.root_unique (distinct : g.nodeIds.Nodup) {n r r' : Node} (rooted : Rooted g n)
    (top : r ∈ g.topLevel) (top' : r' ∈ g.topLevel) (inside : Inside g n.id r.id)
    (inside' : Inside g n.id r'.id) : r = r' := by
  induction rooted with
  | top hn hp => exact absurd inside (not_inside_of_mem_topLevel distinct (mem_topLevel.2 ⟨hn, hp⟩))
  | @child n m hn hp rooted ih =>
    have hm : m ∈ g.nodes := by
      cases rooted <;> assumption
    have above : ∀ k ∈ g.topLevel, Inside g n.id k.id → m = k ∨ Inside g m.id k.id := by
      intro k hk in_k
      obtain ⟨p, hp', below⟩ := (inside_iff distinct hn).1 in_k
      rw [hp, Option.some.injEq] at hp'
      subst hp'
      exact below.imp_left (node_eq_of_id_eq distinct hm (mem_topLevel.1 hk).1)
    rcases above r top inside with rfl | up
    · rcases above r' top' inside' with rfl | up'
      · rfl
      · exact absurd up' (not_inside_of_mem_topLevel distinct top)
    · rcases above r' top' inside' with rfl | up'
      · exact absurd up (not_inside_of_mem_topLevel distinct top')
      · exact ih up up'

/-! ### The walk downwards -/

/-- A search from an id has layers for its start and all nodes. -/
theorem length_cons_nodeIds_lt (g : Graph) (id : String) :
    (id :: g.nodeIds).length < g.nodes.length + 2 := by
  simp [nodeIds]

/-- A step of the walk downwards goes to a node. -/
theorem childIds_subset_nodeIds (g : Graph) (id : String) : g.childIds id ⊆ g.nodeIds := by
  intro other child
  obtain ⟨n, inside, rfl⟩ := List.mem_map.1 child
  exact List.mem_map_of_mem (mem_childrenOf.1 inside).1

/-- The walk downwards is the search for children without its start. -/
theorem cons_descendants (g : Graph) (id : String) :
    id :: g.descendants id = reachable g.childIds (g.nodes.length + 2) [id] := by
  rw [descendants, reachable_singleton, List.drop_one, List.tail_cons]

/-- **The walk downwards is closed under children**: a child of the start, or of anything that
is listed, is listed. -/
theorem child_mem_descendants {id : String} {n : Node} {p : String} (hn : n ∈ g.nodes)
    (hp : n.parent? = some p) (found : p ∈ id :: g.descendants id) :
    n.id ∈ id :: g.descendants id := by
  rw [cons_descendants] at found ⊢
  have steps : ∀ a ∈ id :: g.nodeIds, ∀ b ∈ g.childIds a, b ∈ id :: g.nodeIds :=
    fun a _ _ hb => List.mem_cons_of_mem id (g.childIds_subset_nodeIds a hb)
  have start : [id] ⊆ id :: g.nodeIds := by simp
  have child : n.id ∈ g.childIds p := List.mem_map_of_mem (mem_childrenOf.2 ⟨hn, hp⟩)
  exact reachable_closed steps start (g.length_cons_nodeIds_lt id) found child

/-- What the walk downwards lists stands in its start. -/
theorem inside_of_mem_descendants {id other : String} (found : other ∈ g.descendants id) :
    Inside g other id := by
  have listed : other ∈ reachable g.childIds (g.nodes.length + 2) [id] := by
    rw [← cons_descendants]
    exact List.mem_cons_of_mem id found
  have either : other = id ∨ Inside g other id := by
    refine reachable_induction (motive := fun b => b = id ∨ Inside g b id) ?_ ?_ listed
    · intro a above b child
      obtain ⟨n, inside, rfl⟩ := List.mem_map.1 child
      obtain ⟨hn, hp⟩ := mem_childrenOf.1 inside
      rcases above with rfl | above
      · exact .inr (.step hn hp)
      · exact .inr (.trans hn hp above)
    · exact fun a first => .inl (List.mem_singleton.1 first)
  refine either.resolve_left ?_
  rintro rfl
  exact g.not_mem_descendants_self other found

/-- **The walk downwards** lists, on every graph, exactly what stands in its start. Where parents
form a cycle the start may stand in itself, but is not listed. -/
theorem mem_descendants_iff {id other : String} :
    other ∈ g.descendants id ↔ other ≠ id ∧ Inside g other id := by
  constructor
  · intro found
    refine ⟨?_, inside_of_mem_descendants found⟩
    rintro rfl
    exact g.not_mem_descendants_self other found
  · rintro ⟨apart, inside⟩
    have listed : other ∈ id :: g.descendants id := by
      clear apart
      induction inside with
      | step hn hp => exact child_mem_descendants hn hp List.mem_cons_self
      | trans hn hp _ ih => exact child_mem_descendants hn hp ih
    exact (List.mem_cons.1 listed).resolve_left apart

/-- The walk downwards with its start lists the start and what stands in it. -/
theorem mem_cons_descendants_iff {id other : String} :
    other ∈ id :: g.descendants id ↔ other = id ∨ Inside g other id := by
  rw [List.mem_cons, mem_descendants_iff]
  by_cases same : other = id <;> simp [same]

end Workflow.Graph
