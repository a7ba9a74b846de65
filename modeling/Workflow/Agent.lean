import Workflow.Json.Value
import Workflow.Text.Blank

/-!
# Agents and their models

An agent names, by id, the model node it talks to, and may name an embeddings node that its
memory is searched with. Model and embeddings nodes only hold settings and take no part in
the flow. A reference that names no node of the right type is an error; settings that the
provider of a model needs and that are not made are warnings.

A setting is a text with something in it; white space around it does not count.

## Main results

* `setting?_trimmed`: a setting has no white space around it and is not empty.
-/

namespace Workflow

open Json

/-! ### Findings -/

/-- What is wrong with a reference of an agent. -/
inductive AgentFault where
  /-- No model is named. -/
  | noModel
  /-- The setting `key` names no node. -/
  | missing (key target : String)
  /-- The setting `key` names a node of another type. -/
  | wrongType (key target found wanted : String)
  deriving DecidableEq

/-- The wording of a broken reference. -/
def AgentFault.message : AgentFault → String
  | noModel => "no AI model is connected; set 'model' to the id of an ai.model node"
  | missing key target => "'" ++ key ++ "' refers to '" ++ target ++ "', which does not exist"
  | wrongType key target found wanted =>
    "'" ++ key ++ "' refers to '" ++ target ++ "', a " ++ found ++ " node, not an " ++ wanted
      ++ " node"

/-- The wording of a broken reference of a node. -/
def agentMessage (node : String) (cause : AgentFault) : String :=
  "AI agent '" ++ node ++ "': " ++ cause.message

/-- Settings that are incomplete. -/
inductive AgentWarning where
  /-- A model node names no model. -/
  | defaultModel (node : String)
  /-- A setting that the provider needs is not made. -/
  | missingSetting (node provider setting : String)
  /-- A memory is searched, but no embeddings node is named. -/
  | memoryWithoutEmbeddings (node : String)
  deriving DecidableEq

/-- The wording of a warning. -/
def AgentWarning.message : AgentWarning → String
  | defaultModel node =>
    "AI model '" ++ node ++ "' names no model; the provider's default model will be used"
  | missingSetting node provider setting =>
    "Node '" ++ node ++ "': provider '" ++ provider ++ "' needs '" ++ setting
      ++ "' to be configured"
  | memoryWithoutEmbeddings node =>
    "AI agent '" ++ node ++ "' retrieves from memory but has no embeddings node"

/-! ### Node types and providers -/

/-- The type of agents. -/
def agentType : String := "ai.agent"

/-- The type of model nodes. -/
def modelType : String := "ai.model"

/-- The type of embeddings nodes. -/
def embeddingsType : String := "ai.embeddings"

/-- Whether nodes of this type only hold settings for others. -/
def isSettingsType (type : String) : Bool :=
  type == modelType || type == embeddingsType

/-- The provider of a node that names none. -/
def defaultProvider : String := "openai"

/-- The settings that the provider of a model needs. -/
def providerSettings : String → List String
  | "openai" | "anthropic" | "groq" | "mistral" | "cohere" => ["apiKey"]
  | "azure" => ["baseUrl", "apiVersion"]
  | "aws" => ["region"]
  | "ollama" => ["baseUrl"]
  | _ => []

/-- The settings that the provider of embeddings needs. -/
def embeddingsSettings : String → List String
  | "ollama" => ["baseUrl"]
  | _ => []

/-! ### Checks -/

/-- What the checks look at: a node of a graph or of a document. -/
structure Profile where
  id : String
  type : String
  config : Fields

/-- A setting: a text that is not blank, without the white space around it. -/
def setting? (config : Fields) (key : String) : Option String :=
  ((config.get? key).bind Value.text?).bind fun s =>
    if Text.trim s = "" then none else some (Text.trim s)

/-- The type of the node with this id; if several have it, of the last one. -/
def typeOf? (profiles : List Profile) (id : String) : Option String :=
  (profiles.reverse.find? (·.id == id)).map (·.type)

/-- What is wrong with a reference to a node that should be of type `wanted`. -/
def referenceFault? (profiles : List Profile) (key target wanted : String) : Option AgentFault :=
  match typeOf? profiles target with
  | none => some (.missing key target)
  | some found => if found = wanted then none else some (.wrongType key target found wanted)

/-- What is wrong with the model that an agent names. -/
def modelFault? (profiles : List Profile) (config : Fields) : Option AgentFault :=
  match setting? config "model" with
  | none => some .noModel
  | some target => referenceFault? profiles "model" target modelType

/-- What is wrong with the embeddings that an agent names, if it names any. -/
def embeddingsFault? (profiles : List Profile) (config : Fields) : Option AgentFault :=
  match setting? config "embeddings" with
  | none => none
  | some target => referenceFault? profiles "embeddings" target embeddingsType

/-- The broken references of one node. -/
def faultsOf (profiles : List Profile) (p : Profile) : List AgentFault :=
  if p.type = agentType then
    (modelFault? profiles p.config).toList ++ (embeddingsFault? profiles p.config).toList
  else []

/-- Whether an agent searches its memory. -/
def searchesMemory (config : Fields) : Bool :=
  match setting? config "memory" with
  | some memory => memory == "retrieve" || memory == "both"
  | none => false

/-- The settings that a node needs and that are not made. -/
def missingSettings (p : Profile) (needed : String → List String) : List AgentWarning :=
  let provider := (setting? p.config "provider").getD defaultProvider
  ((needed provider).filter fun key => (setting? p.config key).isNone).map
    (.missingSetting p.id provider)

/-- The warnings about one node. -/
def warningsOf (p : Profile) : List AgentWarning :=
  if p.type = agentType then
    if (setting? p.config "embeddings").isNone && searchesMemory p.config then
      [.memoryWithoutEmbeddings p.id]
    else []
  else if p.type = modelType then
    (if (setting? p.config "model").isNone then [.defaultModel p.id] else [])
      ++ missingSettings p providerSettings
  else if p.type = embeddingsType then missingSettings p embeddingsSettings
  else []

/-- The broken references of all nodes, in order, each with its node. -/
def agentFaults (profiles : List Profile) : List (String × AgentFault) :=
  profiles.flatMap fun p => (faultsOf profiles p).map fun fault => (p.id, fault)

/-- The warnings about all nodes, in order. -/
def agentWarnings (profiles : List Profile) : List AgentWarning :=
  profiles.flatMap warningsOf

/-- A setting is a text with something in it, without the white space around it. -/
theorem setting?_trimmed {config : Fields} {key s : String} (h : setting? config key = some s) :
    s ≠ "" ∧ ∃ raw, config.get? key = some (.str raw) ∧ s = Text.trim raw := by
  simp only [setting?, Option.bind_eq_some_iff] at h
  obtain ⟨raw, ⟨v, hv, ht⟩, hs⟩ := h
  split at hs
  · cases hs
  · next ink =>
    cases hs
    cases v with
    | str held =>
      simp only [Value.text?, Option.some.injEq] at ht
      subst ht
      exact ⟨ink, held, hv, rfl⟩
    | _ => simp [Value.text?] at ht

end Workflow
