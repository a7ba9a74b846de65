import Workflow.Proofs.Document.Acceptance
import Workflow.Proofs.Document.Loading

/-!
# Which nodes an agent can name

An agent names its model and its embeddings by id. What it names is trimmed before it is looked
up, and ids are looked up as they are. So white space around a name does not count, and a node
whose own id has white space at an end is never found, not even by its id.

## Main results

* `mem_agentFaults_iff`: what is found wrong with a node is what is wrong with its own references.
* `inOrder_iff`: a setting is in order exactly if nothing is wrong with the reference in it.
* `names_decided`: **which names are in order**, which ids can be named, and what is known of the
  agents of a loaded document.
* `own_id_refused`: that a name is an id is not enough.
-/

namespace Workflow

open Json

variable {profiles : List Profile} {p : Profile} {config : Fields} {key target wanted : String}
  {fault : AgentFault}

/-! ### The setting a fault is about -/

/-- The setting in which a broken reference stands. -/
def AgentFault.setting : AgentFault → String
  | noModel => "model"
  | missing key _ => key
  | wrongType key _ _ _ => key

/-- A broken reference is about the setting that was looked up. -/
theorem setting_of_referenceFault?
    (found : referenceFault? profiles key target wanted = some fault) : fault.setting = key := by
  rw [referenceFault?] at found
  split at found
  · cases found
    rfl
  · split at found
    · cases found
    · cases found
      rfl

/-- What is wrong with the model of an agent is about its model. -/
theorem setting_of_modelFault? (found : modelFault? profiles config = some fault) :
    fault.setting = "model" := by
  rw [modelFault?] at found
  split at found
  · cases found
    rfl
  · exact setting_of_referenceFault? found

/-- What is wrong with the embeddings of an agent is about its embeddings. -/
theorem setting_of_embeddingsFault? (found : embeddingsFault? profiles config = some fault) :
    fault.setting = "embeddings" := by
  rw [embeddingsFault?] at found
  split at found
  · cases found
  · exact setting_of_referenceFault? found

/-! ### Names that are in order -/

/-- Nothing is found wrong with a setting of the node with this id. -/
def InOrder (profiles : List Profile) (id key : String) : Prop :=
  ∀ fault, (id, fault) ∈ agentFaults profiles → fault.setting ≠ key

/-- With distinct ids, what is found wrong with a node is what is wrong with its own references. -/
theorem mem_agentFaults_iff (distinct : (profiles.map (·.id)).Nodup) (hp : p ∈ profiles) :
    (p.id, fault) ∈ agentFaults profiles ↔ fault ∈ faultsOf profiles p := by
  simp only [agentFaults, List.mem_flatMap, List.mem_map, Prod.mk.injEq]
  constructor
  · rintro ⟨q, hq, found, listed, same, rfl⟩
    rwa [← List.inj_on_of_nodup_map distinct hq hp same]
  · exact fun found => ⟨p, hp, fault, found, rfl, rfl⟩

/-- What is wrong with the references of an agent is wrong with its model or its embeddings. -/
theorem mem_faultsOf_iff (agent : p.type = agentType) :
    fault ∈ faultsOf profiles p ↔
      modelFault? profiles p.config = some fault
        ∨ embeddingsFault? profiles p.config = some fault := by
  rw [faultsOf, if_pos agent, List.mem_append, Option.mem_toList, Option.mem_toList]

/-- What is found is not about a setting exactly if nothing is found or it is about another one. -/
theorem forall_setting_ne_iff {fault? : Option AgentFault} {own : String}
    (about : ∀ fault, fault? = some fault → fault.setting = own) :
    (∀ fault, fault? = some fault → fault.setting ≠ key) ↔ (key = own → fault? = none) := by
  cases fault? with
  | none => simp
  | some fault =>
    have same := about fault rfl
    simp [same, eq_comm]

/-- A setting of an agent is in order exactly if, should it be the model or the embeddings, nothing
is wrong with the reference. -/
theorem inOrder_iff (distinct : (profiles.map (·.id)).Nodup) (hp : p ∈ profiles)
    (agent : p.type = agentType) :
    InOrder profiles p.id key ↔
      (key = "model" → modelFault? profiles p.config = none)
        ∧ (key = "embeddings" → embeddingsFault? profiles p.config = none) := by
  simp only [InOrder, mem_agentFaults_iff distinct hp, mem_faultsOf_iff agent, or_imp,
    forall_and]
  rw [forall_setting_ne_iff fun _ => setting_of_modelFault?,
    forall_setting_ne_iff fun _ => setting_of_embeddingsFault?]

/-- **Which names are in order.** Let ids be visible and distinct. The model of an agent is in order
exactly if it is a text that, trimmed, is the id of a model node; embeddings that are a text with
something in it are in order exactly if it is, trimmed, the id of an embeddings node. So a name
that has no white space at either end is in order exactly if it is such an id itself, and an id can
be named exactly if it has none. In a document that is loaded, all agents name nodes in this way. -/
theorem names_decided (visible : ∀ m ∈ profiles, Text.isBlank m.id = false)
    (distinct : (profiles.map (·.id)).Nodup) (hp : p ∈ profiles) (agent : p.type = agentType) :
    (InOrder profiles p.id "model" ↔
      ∃ raw, p.config.get? "model" = some (.str raw)
        ∧ HasProfile profiles (Text.trim raw) modelType)
      ∧ (∀ raw, p.config.get? "embeddings" = some (.str raw) → Text.isBlank raw = false →
        (InOrder profiles p.id "embeddings" ↔
          HasProfile profiles (Text.trim raw) embeddingsType))
      ∧ (∀ raw, Text.trim raw = raw → p.config.get? "model" = some (.str raw) →
        (InOrder profiles p.id "model" ↔ HasProfile profiles raw modelType))
      ∧ (∀ m ∈ profiles, (∃ raw, Text.trim raw = m.id) ↔ Text.trim m.id = m.id)
      ∧ ∀ (d : Document) (r : Registry) (maxDepth : Nat) (g : Graph),
        d.load r maxDepth = .ok g → d.allProfiles = profiles →
          d.NamesModel p.config ∧ d.NamesEmbeddings p.config := by
  have model : InOrder profiles p.id "model" ↔
      ∃ raw, p.config.get? "model" = some (.str raw)
        ∧ HasProfile profiles (Text.trim raw) modelType := by
    rw [inOrder_iff distinct hp agent, ← modelFault?_eq_none_iff_hasProfile visible distinct]
    simp
  refine ⟨model, ?_, ?_, fun _ _ => Text.exists_trim_eq_iff, ?_⟩
  · intro raw held ink
    have embeddings : InOrder profiles p.id "embeddings" ↔
        embeddingsFault? profiles p.config = none := by
      simp [inOrder_iff distinct hp agent]
    rw [embeddings, embeddingsFault?_eq_none_iff_hasProfile distinct]
    constructor
    · exact fun named => named raw held ink
    · rintro named raw' held' -
      rw [held, Option.some.injEq, Value.str.injEq] at held'
      exact held' ▸ named
  · intro raw tight held
    rw [model]
    constructor
    · rintro ⟨raw', held', named⟩
      rw [held, Option.some.injEq, Value.str.injEq] at held'
      rwa [← held', tight] at named
    · exact fun named => ⟨raw, held, tight.symm ▸ named⟩
  · rintro d r maxDepth g loaded rfl
    obtain ⟨valid, -⟩ := Document.valid_of_load loaded
    obtain ⟨t, ht, rfl⟩ := List.mem_map.1 hp
    exact (Document.agentFaults_allProfiles_iff valid.distinct valid.visible).1 valid.agents t ht
      agent

/-- An agent with the name of its model, the model node with this id, and embeddings, which the
agent names with white space behind the id. -/
def supportProfiles (name id : String) : List Profile :=
  [{ id := "agent", type := agentType,
     config := [("model", .str name), ("embeddings", .str "store ")] },
    { id, type := modelType, config := [] },
    { id := "store", type := embeddingsType, config := [] }]

/-- An agent that names its model and its embeddings with white space around the ids: both names are
in order, as `names_decided` says. -/
theorem names_decided_supportProfiles :
    InOrder (supportProfiles " gpt " "gpt") "agent" "model"
      ∧ InOrder (supportProfiles " gpt " "gpt") "agent" "embeddings" := by
  have visible : ∀ m ∈ supportProfiles " gpt " "gpt", Text.isBlank m.id = false := by decide
  have distinct : ((supportProfiles " gpt " "gpt").map (·.id)).Nodup := by decide
  have gpt : HasProfile (supportProfiles " gpt " "gpt") (Text.trim " gpt ") modelType :=
    ⟨_, List.mem_cons_of_mem _ List.mem_cons_self, by decide, rfl⟩
  have store : HasProfile (supportProfiles " gpt " "gpt") (Text.trim "store ") embeddingsType :=
    ⟨_, List.mem_cons_of_mem _ (List.mem_cons_of_mem _ List.mem_cons_self), by decide, rfl⟩
  obtain ⟨model, embeddings, -⟩ := names_decided visible distinct List.mem_cons_self rfl
  exact ⟨model.2 ⟨" gpt ", rfl, gpt⟩, (embeddings "store " rfl (by decide)).2 store⟩

/-- **An agent that names the id of a model node is refused**, if white space stands around the
id. -/
theorem own_id_refused :
    ¬ ∀ profiles : List Profile, (∀ m ∈ profiles, Text.isBlank m.id = false) →
      (profiles.map (·.id)).Nodup → ∀ p ∈ profiles, p.type = agentType →
        (InOrder profiles p.id "model" ↔
          ∃ raw, p.config.get? "model" = some (.str raw) ∧ HasProfile profiles raw modelType) := by
  intro exactly
  have gpt : HasProfile (supportProfiles " gpt " " gpt ") " gpt " modelType :=
    ⟨_, List.mem_cons_of_mem _ List.mem_cons_self, rfl, rfl⟩
  have fine := (exactly (supportProfiles " gpt " " gpt ") (by decide) (by decide) _
    List.mem_cons_self rfl).2 ⟨" gpt ", rfl, gpt⟩
  exact fine (.missing "model" "gpt") (by decide +kernel) rfl

end Workflow
