import Workflow.Proofs.Scope.Nearest

/-!
# Outputs that are offered twice

An output is known by the node that has it and by its path. A search discovers each node once, so
that no two nodes contribute an output of the same node, and a template may well be trusted not to
declare an output twice. The fields of a form are of another kind: they come from its configuration,
which is the user's, and each of them is offered as it stands there, whether or not another one has
the same id or the template declares an output of the same path.

## Main results

* `Registry.nodup_offers_iff`: a node offers an output twice only if it is a form, and when.
* `visibleOutputs_distinct_iff`: **no output is offered twice** exactly if the forms upstream have
  distinct fields.
* `visibleOutputs_repeats`: a form whose fields share an id is offered with both of them.
-/

namespace Workflow

open Json

/-- What an output is known by: its node and its path. -/
def VisibleOutput.address (v : VisibleOutput) : String × String :=
  (v.nodeId, v.field)

/-- The ids, or names, that the fields of a form are known by. A field without one is no output. -/
def Node.formIds (n : Node) : List String :=
  match n.config.get? "fields" with
  | some (.arr fields) =>
    fields.filterMap fun field => ((field.get? "id").or (field.get? "name")).bind Value.text?
  | _ => []

/-! ### The outputs of a node -/

section Offers

variable {r : Registry} {m : Node}

/-- The fields of a form are offered below its data, each by its id. -/
theorem Node.map_field_formOffers (m : Node) :
    m.formOffers.map (·.field) = m.formIds.map ("formData." ++ ·) := by
  rw [formOffers, formIds]
  generalize m.config.get? "fields" = held
  rcases held with _ | v
  · rfl
  · cases v with
    | arr fields =>
      simp only [List.map_filterMap]
      refine List.filterMap_congr fun field _ => ?_
      rw [formFieldOffer?, Option.map_map]
      rfl
    | _ => rfl

/-- Outputs of one node are known by their paths. -/
theorem Registry.map_address_offers (r : Registry) (m : Node) :
    (r.offers m).map (·.address) = ((r.offers m).map (·.field)).map (m.id, ·) := by
  rw [List.map_map]
  refine List.map_congr_left fun v offered => ?_
  obtain ⟨field, type, description, rfl⟩ := exists_offer_of_mem_offers offered
  rfl

/-- **A node offers no output twice** if its template declares none twice, unless it is a form: then
its fields need distinct ids, and none may lead to an output that the template declares. -/
theorem Registry.nodup_offers_iff
    (declared : ∀ t ∈ r.templates, (t.outputList.map (·.name)).Nodup) :
    ((r.offers m).map (·.address)).Nodup ↔
      (m.type = formType → ∀ t ∈ r.find? formType, m.formIds.Nodup
        ∧ ∀ id ∈ m.formIds, ∀ o ∈ t.outputList, o.name ≠ "formData." ++ id) := by
  have path_injective : Function.Injective fun id : String => "formData." ++ id :=
    fun a b same => by simpa using same
  rw [map_address_offers, List.nodup_map_iff (Prod.mk_right_injective m.id), offers]
  split
  · next unknown =>
    refine iff_of_true List.nodup_nil fun form t known => ?_
    rw [form] at unknown
    rw [unknown] at known
    cases known
  · next t known =>
    have names := declared t ((r.find?_eq_some_iff _ t).1 known).1
    have fields_of_outputs :
        (t.outputList.map fun o => m.offer o.name o.type o.description).map (·.field) =
          t.outputList.map (·.name) := by
      rw [List.map_map]
      rfl
    rw [List.map_append, fields_of_outputs]
    split
    · next form =>
      rw [form] at known
      rw [Node.map_field_formOffers, List.nodup_append, List.nodup_map_iff path_injective]
      simp only [names, true_and, List.mem_map, form, forall_const, known, Option.mem_def,
        Option.some.injEq, forall_eq', forall_exists_index, and_imp, forall_apply_eq_imp_iff₂]
      exact and_congr_right fun _ => ⟨fun apart id hid o ho => apart o ho id hid,
        fun apart o ho id hid => apart id hid o ho⟩
    · next other => simp [names, other]

end Offers

namespace Graph

variable {g : Graph} {r : Registry} {n : Node}

/-- Outputs of several nodes are distinct if those of each single one are. -/
theorem nodup_map_address_iff {upstream : List Node} (distinct : (upstream.map (·.id)).Nodup) :
    ((upstream.flatMap r.offers).map (·.address)).Nodup ↔
      ∀ m ∈ upstream, ((r.offers m).map (·.address)).Nodup := by
  rw [List.map_flatMap, List.nodup_flatMap]
  refine and_iff_left ((List.pairwise_map.1 distinct).imp fun {a b} apart => ?_)
  -- an address names its node
  intro address of_a of_b
  simp only [Registry.map_address_offers] at of_a of_b
  obtain ⟨_, -, rfl⟩ := List.mem_map.1 of_a
  obtain ⟨_, -, same⟩ := List.mem_map.1 of_b
  exact apart (congrArg Prod.fst same).symm

/-- **No output is offered twice** exactly if the forms upstream have distinct fields. In a graph of
which nothing is reported, under templates that declare no output twice, a node sees outputs with
distinct nodes and paths if and only if in no form with a path to it two fields share an id, or one
leads to an output that forms have anyway. -/
theorem visibleOutputs_distinct_iff (clean : g.violations = [])
    (declared : ∀ t ∈ r.templates, (t.outputList.map (·.name)).Nodup) (hn : n ∈ g.nodes) :
    ∃ offers, g.visibleOutputs r n.id = .ok offers
      ∧ ((offers.map fun v => (v.nodeId, v.field)).Nodup ↔
        ∀ m ∈ g.nodes, m ≠ n → (∃ length, g.Path length m.id n.id) →
          m.type = formType → ∀ t ∈ r.find? formType, m.formIds.Nodup
            ∧ ∀ id ∈ m.formIds, ∀ o ∈ t.outputList, o.name ≠ "formData." ++ id) := by
  have wf := wellFormed_of_violations_eq_nil clean
  have ids := map_id_filterMap_node? (g.predecessors_subset_nodeIds n.id)
  have exists_n : g.contains n.id = true :=
    (contains_iff_mem_nodeIds g n.id).2 (List.mem_map_of_mem hn)
  refine ⟨_, visibleOutputs_eq_ok_iff.2 ⟨exists_n, rfl⟩, ?_⟩
  refine (nodup_map_address_iff (ids.symm ▸ g.nodup_predecessors n.id)).trans ?_
  simp only [Registry.nodup_offers_iff declared, mem_filterMap_node? wf.nodeIds_nodup,
    wf.mem_predecessors_iff_path, and_imp]
  refine forall₂_congr fun m hm => ?_
  have same_id : m.id = n.id ↔ m = n :=
    ⟨node_eq_of_id_eq wf.nodeIds_nodup hm hn, congrArg Node.id⟩
  rw [ne_eq, same_id]

/-- The built-in templates declare no output twice. -/
theorem builtin_declares_distinct :
    ∀ t ∈ Registry.builtin.templates, (t.outputList.map (·.name)).Nodup := by
  decide +kernel

/-- Two forms behind each other, which ask for the same, and a message behind both. -/
def followUpGraph : Graph :=
  .ofLists
    [{ id := "form", type := formType, label := "Sign up", category := .trigger,
        config := [("fields", .arr [.obj [("id", .str "email")], .obj [("name", .str "age")]])] },
      { id := "again", type := formType, label := "Follow up", category := .trigger,
        config := [("fields", .arr [.obj [("id", .str "email")], .obj [("label", .str "Age")]])] },
      { id := "log", type := "logging.log", label := "Log", category := .logging }]
    [.canonical "form" "again" .success, .canonical "again" "log" .success,
      .canonical "log" "again" .success]

/-- What both forms ask for is offered twice, but not of the same node. -/
theorem visibleOutputs_distinct_iff_followUpGraph :
    followUpGraph.violations = []
      ∧ (∀ t ∈ Registry.builtin.templates, (t.outputList.map (·.name)).Nodup)
      ∧ ∃ n ∈ followUpGraph.nodes, n.id = "log"
        ∧ ∃ offers, followUpGraph.visibleOutputs .builtin n.id = .ok offers
          ∧ (offers.map fun v => (v.nodeId, v.field)).Nodup := by
  have clean : followUpGraph.violations = [] := by decide +kernel
  have forms : ∀ m ∈ followUpGraph.nodes, m.type = formType →
      ∀ t ∈ Registry.builtin.find? formType, m.formIds.Nodup
        ∧ ∀ id ∈ m.formIds, ∀ o ∈ t.outputList, o.name ≠ "formData." ++ id := by
    decide +kernel
  obtain ⟨n, hn, named⟩ : ∃ n ∈ followUpGraph.nodes, n.id = "log" := by decide +kernel
  obtain ⟨offers, seen, distinct_iff⟩ :=
    visibleOutputs_distinct_iff clean builtin_declares_distinct hn
  exact ⟨clean, builtin_declares_distinct, n, hn, named, offers, seen,
    distinct_iff.2 fun m hm _ _ => forms m hm⟩

/-- A form in which two fields have the same id, and a message behind it. -/
def twiceAskedGraph : Graph :=
  .ofLists
    [{ id := "form", type := formType, label := "Sign up", category := .trigger,
        config := [("formTitle", .str "Sign up"), ("fields", .arr [
          .obj [("id", .str "email"), ("label", .str "Email"), ("type", .str "email")],
          .obj [("id", .str "email"), ("label", .str "Number"), ("type", .str "number")]])] },
      { id := "log", type := "logging.log", label := "Log", category := .logging,
        config := [("message", .str "hi")] }]
    [.canonical "form" "log" .success]

/-- **Fields of a form that share an id are both offered**: that no output is offered twice does not
hold of every graph of which nothing is reported, even under the built-in templates. -/
theorem visibleOutputs_repeats :
    ¬ ∀ (g : Graph) (r : Registry) (n : Node) (offers : List VisibleOutput),
      g.violations = [] → (∀ t ∈ r.templates, (t.outputList.map (·.name)).Nodup) → n ∈ g.nodes →
        g.visibleOutputs r n.id = .ok offers →
          (offers.map fun v => (v.nodeId, v.field)).Nodup := by
  intro always_distinct
  have clean : twiceAskedGraph.violations = [] := by decide +kernel
  obtain ⟨n, hn, named⟩ : ∃ n ∈ twiceAskedGraph.nodes, n.id = "log" := by decide +kernel
  have repeated : (twiceAskedGraph.visibleOutputs .builtin "log").toOption.any (fun offers =>
      !decide (offers.map fun v => (v.nodeId, v.field)).Nodup) = true := by decide +kernel
  obtain ⟨offers, seen, repeated⟩ := exists_eq_ok_of_any repeated
  have distinct := always_distinct _ _ n offers clean builtin_declares_distinct hn (named ▸ seen)
  rw [Bool.not_eq_true', decide_eq_false_iff_not] at repeated
  exact repeated distinct

end Graph

end Workflow
