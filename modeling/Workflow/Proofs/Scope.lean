import Workflow.Proofs.Attempt
import Workflow.Proofs.Graph.Acceptance
import Workflow.Proofs.Reference
import Workflow.Scope

/-!
# What is offered and what is read

An output is offered to a node together with the reference that is to name it. Labels and names of
fields are any texts, though, and the reference is put together from them as they are: whether it
is read as that output when it stands in a configuration is decided by the characters of both.

What a node sees does not depend on the node itself, so that an output is still offered once a
reference to it has been written into the configuration.

## Main results

* `visibleOutputs_touch`: what a node sees stays the same when the node is changed.
* `not_reported`: a writable reference to an output that is offered is not reported.
* `offered_read_iff`: **an offered reference is read as its output** exactly if label and path are
  writable, and then it is never reported.
* `offered_not_read`: a label with a dot is offered in a reference that is reported.
-/

namespace Workflow

open Json

/-! ### Offers -/

/-- Every output of a node is offered under its id and its label. -/
theorem Registry.exists_offer_of_mem_offers {r : Registry} {n : Node} {v : VisibleOutput}
    (offered : v ∈ r.offers n) : ∃ field type description, v = n.offer field type description := by
  rw [offers] at offered
  split at offered
  · cases offered
  · rcases List.mem_append.1 offered with declared | field
    · obtain ⟨o, -, rfl⟩ := List.mem_map.1 declared
      exact ⟨_, _, _, rfl⟩
    · split at field
      · rw [Node.formOffers] at field
        split at field
        · obtain ⟨entry, -, made⟩ := List.mem_filterMap.1 field
          obtain ⟨name, -, rfl⟩ := Option.map_eq_some_iff.1 made
          exact ⟨_, _, _, rfl⟩
        · cases field
      · cases field

/-- The reference that is offered is the one that is written for the label and the path. -/
theorem Registry.expression_of_mem_offers {r : Registry} {n : Node} {v : VisibleOutput}
    (offered : v ∈ r.offers n) : v.expression = Reference.render v.nodeLabel v.field := by
  obtain ⟨field, type, description, rfl⟩ := exists_offer_of_mem_offers offered
  rfl

namespace Graph

variable {g g' : Graph} {r : Registry} {id : String} {offers : List VisibleOutput}

/-- A node that exists sees the outputs of its predecessors. -/
theorem visibleOutputs_eq_ok_iff :
    g.visibleOutputs r id = .ok offers ↔
      g.contains id = true
        ∧ ((g.predecessors id).filterMap g.node?).flatMap r.offers = offers := by
  rw [visibleOutputs]
  split
  · next known => simp [known]
  · next unknown => simp [unknown]

/-- Every reference that is offered is written for its label and its path. -/
theorem expression_of_mem_visibleOutputs (seen : g.visibleOutputs r id = .ok offers)
    {v : VisibleOutput} (offered : v ∈ offers) :
    v.expression = Reference.render v.nodeLabel v.field := by
  obtain ⟨-, rfl⟩ := visibleOutputs_eq_ok_iff.1 seen
  obtain ⟨n, -, of_node⟩ := List.mem_flatMap.1 offered
  exact Registry.expression_of_mem_offers of_node

/-! ### Changing the node that sees -/

/-- Which ids exist is a matter of the ids of the nodes. -/
theorem contains_congr (ids : g'.nodeIds = g.nodeIds) : g'.contains = g.contains := by
  funext other
  rw [Bool.eq_iff_iff, contains_iff_mem_nodeIds, contains_iff_mem_nodeIds, ids]

/-- Predecessors are a matter of the ids of the nodes and of the edges. -/
theorem predecessors_congr (ids : g'.nodeIds = g.nodeIds) (edges : g'.edges = g.edges)
    (id : String) : g'.predecessors id = g.predecessors id := by
  have sources : g'.sources = g.sources := by
    funext other
    rw [Graph.sources, Graph.sources, incoming_eq_filter, incoming_eq_filter, edges,
      contains_congr ids]
  have length : g'.nodes.length = g.nodes.length := by
    simpa [nodeIds] using congrArg List.length ids
  rw [predecessors, predecessors, sources, length]

/-- **What a node sees** stays the same when the node is changed: it is none of its own
predecessors. -/
theorem visibleOutputs_touch {t : Touch} (changed : g.touch id t = .ok g') (r : Registry) :
    g'.visibleOutputs r id = g.visibleOutputs r id := by
  obtain ⟨ids, edges⟩ := touch_ok (·.id) t.id_eq changed
  have nodes : (g.predecessors id).filterMap g'.node? = (g.predecessors id).filterMap g.node? := by
    refine List.filterMap_congr fun other mem => node?_touch_of_ne changed ?_
    rintro rfl
    exact g.not_mem_predecessors_self _ mem
  rw [visibleOutputs, visibleOutputs, contains_congr ids, predecessors_congr ids edges, nodes]

/-! ### References that are reported -/

/-- A path that descends into a field begins with it. -/
theorem prefix_of_descends {field path : String} (below : descends field path = true) :
    field.toList <+: path.toList :=
  List.isPrefixOf_iff_prefix.1 (Bool.and_eq_true_iff.1 below).1

/-- A field is a path to itself. -/
theorem descends_self (field : String) : descends field field = true := by
  simp [descends]

/-- A reference is reported exactly if it stands in a text of the configuration and none of the
outputs is meant by it. -/
theorem mem_unresolvedIn_iff {config : Fields} {u : Unresolved} :
    u ∈ unresolvedIn offers config ↔ ∃ entry ∈ config, ∃ text ∈ entry.2.texts,
      ∃ ref ∈ Reference.scan text, isOffered offers ref = false ∧ ⟨entry.1, ref.raw⟩ = u := by
  simp only [unresolvedIn, List.mem_flatMap, List.mem_map, List.mem_filter, Bool.not_eq_true']
  constructor
  · rintro ⟨entry, stands, ref, ⟨⟨text, inside, found⟩, unmeant⟩, same⟩
    exact ⟨entry, stands, text, inside, ref, found, unmeant, same⟩
  · rintro ⟨entry, stands, text, inside, ref, found, unmeant, same⟩
    exact ⟨entry, stands, ref, ⟨⟨text, inside, found⟩, unmeant⟩, same⟩

/-- A writable reference to an output that is offered is not reported, wherever it stands. -/
theorem not_reported {v : VisibleOutput} (offered : v ∈ offers)
    (writable : Reference.Writable v.nodeLabel v.field) {config : Fields} {u : Unresolved}
    (reported : u ∈ unresolvedIn offers config) :
    u.expression ≠ Reference.render v.nodeLabel v.field := by
  intro same
  obtain ⟨entry, -, text, -, ref, found, unmeant, rfl⟩ := mem_unresolvedIn_iff.1 reported
  have written := Reference.scan_render writable
  obtain rfl := Reference.eq_of_raw_eq found (written ▸ List.mem_singleton_self _) same
  have meant : isOffered offers ⟨v.nodeLabel, v.field, Reference.render v.nodeLabel v.field⟩ := by
    refine List.any_eq_true.2 ⟨v, offered, ?_⟩
    rw [beq_self_eq_true, descends_self]
    rfl
  rw [meant] at unmeant
  cases unmeant

/-- What is reported after an entry has been written: what stands in the new configuration and
means none of the outputs that the node has seen before. -/
theorem unresolved_setConfig (seen : g.visibleOutputs r id = .ok offers) (key : String)
    (value : Value) :
    ∃ n before g', g.node? id = some n ∧ g.setConfig id key value = .ok (before, g')
      ∧ g'.unresolved r id = .ok (unresolvedIn offers (n.config.insert key value)) := by
  obtain ⟨known, -⟩ := visibleOutputs_eq_ok_iff.1 seen
  obtain ⟨n, found⟩ : ∃ n, g.node? id = some n := by
    rw [contains_eq_any, ← List.isSome_find?, ← node?_eq_find?] at known
    exact Option.isSome_iff_exists.1 known
  obtain ⟨g', changed⟩ := exists_touch_eq_ok known
    ⟨fun n => { n with config := n.config.insert key value }, fun _ => rfl, fun _ => rfl⟩
  refine ⟨n, n.config.get? key, g', found, ?_, ?_⟩
  · have edited : g.editConfig id (Fields.insert key value) = .ok g' := changed
    rw [setConfig, config, found, edited]
    rfl
  · rw [unresolved, node?_touch_self changed, found, visibleOutputs_touch changed, seen]
    rfl

/-! ### Offered references -/

/-- **An offered reference is read as its output** exactly if its label and its path are writable.
Then it is all that is read of the text, and once the node that sees the output has it somewhere
in its configuration, it is never among the references that are reported. -/
theorem offered_read_iff (seen : g.visibleOutputs r id = .ok offers) {v : VisibleOutput}
    (offered : v ∈ offers) :
    ((∃ ref ∈ Reference.scan v.expression,
          ref.label = v.nodeLabel ∧ descends v.field ref.path = true) ↔
        Reference.Writable v.nodeLabel v.field)
      ∧ (Reference.Writable v.nodeLabel v.field →
        Reference.scan v.expression = [⟨v.nodeLabel, v.field, v.expression⟩]
          ∧ ∀ key value, ∃ before g' reports, g.setConfig id key value = .ok (before, g')
            ∧ g'.unresolved r id = .ok reports ∧ ∀ u ∈ reports, u.expression ≠ v.expression) := by
  rw [expression_of_mem_visibleOutputs seen offered]
  refine ⟨⟨?_, fun writable => ?_⟩, fun writable => ⟨Reference.scan_render writable, ?_⟩⟩
  · rintro ⟨ref, found, label, below⟩
    exact Reference.writable_of_mem_scan_render found label (prefix_of_descends below)
  · rw [Reference.scan_render writable]
    exact ⟨_, List.mem_singleton_self _, rfl, descends_self v.field⟩
  · intro key value
    obtain ⟨n, before, g', -, written, reports⟩ := unresolved_setConfig seen key value
    exact ⟨before, g', _, written, reports,
      fun u reported => not_reported offered writable reported⟩

/-- A form with a field for an address, and a message behind it. -/
def signupGraph : Graph :=
  .ofLists
    [{ id := "form", type := formType, label := "Sign up", category := .trigger,
        config := [("fields", .arr [.obj [("id", .str "e-mail"), ("type", .str "text")]])] },
      { id := "greet", type := "logging.log", label := "Greet", category := .logging }]
    [.canonical "form" "greet" .success]

/-- A field of a form is offered, its reference is read as it, and is never reported. -/
theorem offered_read_iff_signupGraph :
    ∃ offers v, signupGraph.visibleOutputs .builtin "greet" = .ok offers ∧ v ∈ offers
      ∧ v.nodeLabel = "Sign up" ∧ v.field = "formData.e-mail"
      ∧ Reference.Writable v.nodeLabel v.field
      ∧ ∀ key value, ∃ before g' reports, signupGraph.setConfig "greet" key value = .ok (before, g')
        ∧ g'.unresolved .builtin "greet" = .ok reports
        ∧ ∀ u ∈ reports, u.expression ≠ v.expression := by
  have shown : (signupGraph.visibleOutputs .builtin "greet").toOption.any (fun offers =>
      offers.any fun v => v.nodeLabel == "Sign up" && v.field == "formData.e-mail"
        && (Reference.scan v.expression).any fun ref =>
          ref.label == v.nodeLabel && descends v.field ref.path) = true := by
    decide +kernel
  obtain ⟨offers, seen, shown⟩ := exists_eq_ok_of_any shown
  obtain ⟨v, offered, shown⟩ := List.any_eq_true.1 shown
  simp only [Bool.and_eq_true, beq_iff_eq, List.any_eq_true] at shown
  obtain ⟨⟨label, field⟩, read⟩ := shown
  obtain ⟨read_iff, resolved⟩ := offered_read_iff seen offered
  have writable := read_iff.1 read
  exact ⟨offers, v, seen, offered, label, field, writable, (resolved writable).2⟩

/-- A trigger whose label has a dot, and a message behind it. -/
def versionedGraph : Graph :=
  .ofLists
    [{ id := "start", type := "trigger.manual", label := "Start v1.0", category := .trigger },
      { id := "log", type := "logging.log", label := "Log", category := .logging }]
    [.canonical "start" "log" .success]

/-- **A label with a dot is offered and not read**: that no offered reference is reported does not
hold of every graph with which nothing is wrong. -/
theorem offered_not_read :
    ¬ ∀ (g : Graph) (r : Registry) (id : String) (offers : List VisibleOutput),
      g.violations = [] → g.visibleOutputs r id = .ok offers → ∀ v ∈ offers,
        ∀ key before g' reports, g.setConfig id key (.str v.expression) = .ok (before, g') →
          g'.unresolved r id = .ok reports → ∀ u ∈ reports, u.expression ≠ v.expression := by
  intro never_reported
  have clean : versionedGraph.violations = [] := by decide +kernel
  have shown : (versionedGraph.visibleOutputs .builtin "log").toOption.any (fun offers =>
      offers.any fun v => (unresolvedIn offers [("message", .str v.expression)]).any fun u =>
        u.expression == v.expression) = true := by
    decide +kernel
  obtain ⟨offers, seen, shown⟩ := exists_eq_ok_of_any shown
  obtain ⟨v, offered, shown⟩ := List.any_eq_true.1 shown
  obtain ⟨u, reported, same⟩ := List.any_eq_true.1 shown
  obtain ⟨n, before, g', found, written, reports⟩ :=
    unresolved_setConfig seen "message" (.str v.expression)
  obtain rfl : n = { id := "log", type := "logging.log", label := "Log", category := .logging } :=
    Option.some.inj (found.symm.trans (by rw [node?_eq_find?]; rfl))
  exact never_reported _ _ _ _ clean seen v offered _ _ _ _ written reports u reported
    (eq_of_beq same)

end Graph

end Workflow
