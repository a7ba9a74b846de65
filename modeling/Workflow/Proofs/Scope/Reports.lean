import Workflow.Proofs.Json.Place
import Workflow.Proofs.Reopening
import Workflow.Proofs.Scope.Nearest

/-!
# References that nothing upstream provides

The references of a node stand in the texts of its configuration: under some key, at some place
inside the value there, and in the text behind so many others. One of them resolves if a node
upstream of its own has the label and an output whose field the path is or goes on from. The other
ones are reported, each where it stands, in the order in which the configuration is read.

## Main results

* `mem_occurrences_iff`, `occurrences_pairwise`: the references of a configuration are listed in the
  order of their places.
* `descends_iff`: what it means that a path goes on from a field.
* `isOffered_iff`: a reference is meant exactly if a node upstream provides it.
* `unresolved_decided`: **exactly the references that nothing upstream provides are reported.**
-/

namespace Workflow

open Json

/-- A reference of a configuration, and where it stands. -/
structure Occurrence where
  /-- The position of the entry. -/
  entry : Nat
  /-- The place of the text inside the value of the entry. -/
  place : List Nat
  /-- How many references stand before it in the text. -/
  turn : Nat
  /-- The key of the entry. -/
  key : String
  /-- The reference. -/
  ref : Reference

namespace Occurrence

/-- The reference stands there in a configuration. -/
def StandsIn (o : Occurrence) (config : Fields) : Prop :=
  ∃ value text, config[o.entry]? = some (o.key, value) ∧ value.at? o.place = some (.str text)
    ∧ (Reference.scan text)[o.turn]? = some o.ref

/-- One reference stands before another: under an earlier key, or in an earlier text under the same
one, or earlier in the same text. -/
def Before (a b : Occurrence) : Prop :=
  a.entry < b.entry
    ∨ a.entry = b.entry ∧ (a.place < b.place ∨ a.place = b.place ∧ a.turn < b.turn)

/-- What is reported of a reference. -/
def report (o : Occurrence) : Graph.Unresolved :=
  ⟨o.key, o.ref.raw⟩

end Occurrence

/-! ### The references of a configuration -/

/-- The references of a configuration, in order. -/
def occurrences (config : Fields) : List Occurrence :=
  config.zipIdx.flatMap fun entry =>
    entry.1.2.placedTexts.flatMap fun placed =>
      (Reference.scan placed.2).zipIdx.map fun found =>
        ⟨entry.2, placed.1, found.2, entry.1.1, found.1⟩

/-- **The references of a configuration** are those that stand in it. -/
theorem mem_occurrences_iff {config : Fields} {o : Occurrence} :
    o ∈ occurrences config ↔ o.StandsIn config := by
  simp only [occurrences, List.mem_flatMap, List.mem_map]
  constructor
  · rintro ⟨⟨⟨key, value⟩, entry⟩, listed, ⟨place, text⟩, placed, ⟨ref, turn⟩, found, rfl⟩
    exact ⟨value, text, List.mem_zipIdx_iff_getElem?.1 listed, Value.mem_placedTexts_iff.1 placed,
      List.mem_zipIdx_iff_getElem?.1 found⟩
  · rintro ⟨value, text, listed, placed, found⟩
    exact ⟨((o.key, value), o.entry), List.mem_zipIdx_iff_getElem?.2 listed, (o.place, text),
      Value.mem_placedTexts_iff.2 placed, (o.ref, o.turn),
      List.mem_zipIdx_iff_getElem?.2 found, rfl⟩

/-- They are listed in the order in which they stand. -/
theorem occurrences_pairwise (config : Fields) :
    (occurrences config).Pairwise Occurrence.Before := by
  rw [occurrences, List.pairwise_flatMap]
  refine ⟨fun entry _ => ?_, (pairwise_zipIdx config).imp fun {a b} before x hx y hy => ?_⟩
  · rw [List.pairwise_flatMap]
    refine ⟨fun placed _ => ?_,
      (Value.placedTexts_pairwise entry.1.2).imp fun {a b} before x hx y hy => ?_⟩
    · rw [List.pairwise_map]
      exact (pairwise_zipIdx _).imp fun before => .inr ⟨rfl, .inr ⟨rfl, before⟩⟩
    · obtain ⟨found, -, rfl⟩ := List.mem_map.1 hx
      obtain ⟨found, -, rfl⟩ := List.mem_map.1 hy
      exact .inr ⟨rfl, .inl before⟩
  · obtain ⟨placed, -, hx⟩ := List.mem_flatMap.1 hx
    obtain ⟨placed, -, hy⟩ := List.mem_flatMap.1 hy
    obtain ⟨found, -, rfl⟩ := List.mem_map.1 hx
    obtain ⟨found, -, rfl⟩ := List.mem_map.1 hy
    exact .inl before

namespace Graph

variable {g : Graph} {r : Registry} {n : Node} {offers : List VisibleOutput}

/-- Reported are the references that mean none of the outputs. -/
theorem unresolvedIn_eq (offers : List VisibleOutput) (config : Fields) :
    unresolvedIn offers config
      = ((occurrences config).filter fun o => !isOffered offers o.ref).map Occurrence.report := by
  rw [unresolvedIn, occurrences, List.filter_flatMap, List.map_flatMap, ← flatMap_zipIdx config]
  refine List.flatMap_congr fun entry _ => ?_
  rw [List.filter_flatMap, List.map_flatMap, ← Value.map_snd_placedTexts, List.flatMap_map,
    List.filter_flatMap, List.map_flatMap]
  refine List.flatMap_congr fun placed _ => ?_
  conv_lhs => rw [← List.zipIdx_map_fst 0 (Reference.scan placed.2)]
  rw [List.filter_map, List.filter_map, List.map_map, List.map_map]
  rfl

/-! ### References that are provided -/

/-- A path is a field or goes on from it, with a dot or a bracket. -/
def GoesOnFrom (field path : String) : Prop :=
  path = field ∨ ∃ rest, path = field ++ "." ++ rest ∨ path = field ++ "[" ++ rest

/-- A node upstream provides what a reference means: it has the label, and an output from the field
of which the path goes on. -/
def Provides (g : Graph) (r : Registry) (n : Node) (ref : Reference) : Prop :=
  ∃ m ∈ g.nodes, m ≠ n ∧ (∃ length, g.Path length m.id n.id) ∧ m.label = ref.label
    ∧ ∃ v ∈ r.offers m, GoesOnFrom v.field ref.path

/-- **What it means that a path goes on from a field.** -/
theorem descends_iff {field path : String} :
    descends field path = true ↔ GoesOnFrom field path := by
  rw [descends, Bool.and_eq_true, List.isPrefixOf_iff_prefix]
  constructor
  · rintro ⟨⟨rest, split⟩, next⟩
    rw [← split, List.drop_left] at next
    cases rest with
    | nil => exact .inl (String.toList_inj.1 (split.symm.trans (List.append_nil _)))
    | cons c rest =>
      refine .inr ⟨String.ofList rest, ?_⟩
      rw [Bool.or_eq_true, beq_iff_eq, beq_iff_eq] at next
      refine next.imp ?_ ?_ <;>
      · rintro rfl
        exact String.toList_inj.1 (by simp [← split])
  · rintro (rfl | ⟨rest, rfl | rfl⟩) <;> simp

/-- **A reference is meant** by one of the outputs that a node sees exactly if a node upstream
provides it. -/
theorem isOffered_iff (wf : g.WellFormed) (hn : n ∈ g.nodes)
    (seen : g.visibleOutputs r n.id = .ok offers) {ref : Reference} :
    isOffered offers ref = true ↔ g.Provides r n ref := by
  obtain ⟨-, rfl⟩ := visibleOutputs_eq_ok_iff.1 seen
  have distinct := wf.nodeIds_nodup
  simp only [isOffered, List.any_eq_true, List.mem_flatMap, mem_filterMap_node? distinct,
    wf.mem_predecessors_iff_path, Bool.and_eq_true, beq_iff_eq, descends_iff]
  constructor
  · rintro ⟨v, ⟨m, ⟨hm, apart, upstream⟩, offered⟩, label, path⟩
    obtain ⟨field, type, description, rfl⟩ := Registry.exists_offer_of_mem_offers offered
    exact ⟨m, hm, fun same => apart (congrArg Node.id same), upstream, label, _, offered, path⟩
  · rintro ⟨m, hm, apart, upstream, label, v, offered, path⟩
    obtain ⟨field, type, description, rfl⟩ := Registry.exists_offer_of_mem_offers offered
    have apart_id : m.id ≠ n.id := fun same => apart (node_eq_of_id_eq distinct hm hn same)
    exact ⟨_, ⟨m, ⟨hm, apart_id, upstream⟩, offered⟩, label, path⟩

/-- **Exactly the references that nothing upstream provides are reported.** Of every node of a graph
of which nothing is reported there is an answer: those references that stand in its configuration
and for which no other node with a path to it has both the label and an output whose field the
path is or goes on from, each as often as it stands there. They are listed in the order of the
entries, in each in the order of the texts inside the value, and in each text from left to right. -/
theorem unresolved_decided (clean : g.violations = []) (hn : n ∈ g.nodes) :
    ∃ reported : List Occurrence,
      g.unresolved r n.id = .ok (reported.map Occurrence.report)
        ∧ reported.Pairwise Occurrence.Before
        ∧ ∀ o, o ∈ reported ↔ o.StandsIn n.config ∧ ¬ g.Provides r n o.ref := by
  have wf := wellFormed_of_violations_eq_nil clean
  have found : g.node? n.id = some n := (node?_eq_some_iff wf.nodeIds_nodup).2 ⟨hn, rfl⟩
  obtain ⟨offers, seen⟩ := exists_visibleOutputs found r
  refine ⟨(occurrences n.config).filter fun o => !isOffered offers o.ref, ?_, ?_, fun o => ?_⟩
  · rw [unresolved_eq_ok found seen, unresolvedIn_eq]
  · exact (occurrences_pairwise n.config).filter _
  · rw [List.mem_filter, mem_occurrences_iff, Bool.not_eq_true', ← Bool.not_eq_true,
      isOffered_iff wf hn seen]

/-- A message with texts inside its configuration, some of them with references to nothing. -/
def replyNode : Node :=
  { id := "reply", type := "logging.log", label := "Reply", category := .logging,
    config :=
      [("message", .arr
          [.str "$\x7bSign up.formData.e-mail\x7d: $\x7bNobody.name\x7d",
            .obj [("again", .str "$\x7bReply.message\x7d")]]),
        ("level", .str "$\x7bBoth.results[0]\x7d of $\x7bBoth.resultset\x7d")] }

/-- The message behind a form and behind branches to which it leads back. -/
def replyGraph : Graph :=
  .ofLists
    [{ id := "form", type := formType, label := "Sign up", category := .trigger,
        config := [("fields", .arr [.obj [("id", .str "e-mail"), ("type", .str "text")]])] },
      { id := "both", type := "control.parallel", label := "Both", category := .control },
      replyNode]
    [.canonical "form" "both" .success, .canonical "both" "reply" .success,
      .canonical "reply" "both" .error]

/-- What the theorem says of the message. -/
theorem unresolved_decided_replyGraph :
    replyGraph.violations = [] ∧ replyNode ∈ replyGraph.nodes
      ∧ ∃ reported : List Occurrence,
        replyGraph.unresolved .builtin "reply" = .ok (reported.map Occurrence.report)
          ∧ reported.Pairwise Occurrence.Before
          ∧ ∀ o, o ∈ reported ↔
            o.StandsIn replyNode.config ∧ ¬ replyGraph.Provides .builtin replyNode o.ref := by
  have clean : replyGraph.violations = [] := by decide +kernel
  have listed : replyNode ∈ replyGraph.nodes := by simp [replyGraph, ofLists]
  exact ⟨clean, listed, unresolved_decided clean listed⟩

-- the message does not provide anything itself, and a longer name does not go on from a field
example : (replyGraph.unresolved .builtin "reply").toOption =
    some [⟨"message", "$\x7bNobody.name\x7d"⟩, ⟨"message", "$\x7bReply.message\x7d"⟩,
      ⟨"level", "$\x7bBoth.resultset\x7d"⟩] := by
  decide +kernel

end Graph

end Workflow
