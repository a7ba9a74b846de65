import Workflow.Template

/-!
# Models and scripts

Nodes that ask a language model or run a script. Model and embeddings nodes only hold
settings that agents refer to by id.
-/

namespace Workflow.Catalog

open ConfigField (text textarea number password select json)
open OutputField (output)

/-- Language model nodes. -/
def ai : List Template :=
  [ .make "ai.llm_prompt" .ai "LLM Prompt" "Send a prompt to a language model"
        [select "provider" "Provider" ["openai", "anthropic", "azure", "ollama"]
             |>.initially (.str "openai"),
         text "model" "Model",
         textarea "prompt" "Prompt" |>.mandatory |>.interpolated,
         number "temperature" "Temperature" |>.initially (.ofFloat 0.7),
         text "baseUrl" "Base URL" |>.shownWhen "provider" (.str "ollama")]
        (some [output "response" .string "Model response",
               output "tokens" .number "Tokens used"]),
    .make "ai.agent" .ai "AI Agent" "Hold a tool-using conversation"
        [text "model" "Model Node" |>.hint "id of an ai.model node",
         textarea "systemPrompt" "System Prompt",
         textarea "message" "Message" |>.mandatory |>.interpolated,
         select "memory" "Memory" ["none", "store", "retrieve", "both"] |>.initially (.str "none"),
         text "embeddings" "Embeddings Node" |>.shownWhen "memory" (.ofTexts ["retrieve", "both"]),
         number "maxIterations" "Max Iterations" |>.initially (.ofInt 5)]
        (some [output "response" .string "Final agent answer",
               output "toolCalls" .array "Tools the agent called",
               output "iterations" .number "Reasoning steps taken"]),
    .make "ai.model" .ai "AI Model" "Model settings used by agents"
        [select "provider" "Provider"
             ["openai", "anthropic", "azure", "aws", "ollama", "groq", "mistral", "cohere"]
             |>.initially (.str "openai"),
         text "model" "Model",
         password "apiKey" "API Key" |>.interpolated,
         text "baseUrl" "Base URL" |>.shownWhen "provider" (.ofTexts ["azure", "ollama"]),
         text "apiVersion" "API Version" |>.shownWhen "provider" (.str "azure"),
         text "region" "Region" |>.shownWhen "provider" (.str "aws"),
         number "temperature" "Temperature" |>.initially (.ofFloat 0.7)]
        none,
    .make "ai.embeddings" .ai "Embeddings" "Embedding settings for agent memory"
        [select "provider" "Provider" ["openai", "azure", "ollama", "cohere"]
             |>.initially (.str "openai"),
         text "model" "Model",
         password "apiKey" "API Key" |>.interpolated,
         text "baseUrl" "Base URL" |>.shownWhen "provider" (.ofTexts ["azure", "ollama"])]
        none,
    .make "ai.extract_data" .ai "Extract Data" "Extract structured fields"
        [textarea "text" "Text" |>.mandatory |>.interpolated,
         json "schema" "Output Schema" |>.mandatory]
        (some [output "data" .object "Extracted fields"]),
    .make "ai.summarize" .ai "Summarize" "Condense text"
        [textarea "text" "Text" |>.mandatory |>.interpolated,
         number "maxWords" "Max Words" |>.initially (.ofInt 150)]
        (some [output "summary" .string "Summary"]),
    .make "ai.classify" .ai "Classify" "Assign text to one of several labels"
        [textarea "text" "Text" |>.mandatory |>.interpolated,
         text "categories" "Categories" |>.mandatory |>.hint "invoice, receipt"]
        (some [output "category" .string "Chosen label",
               output "confidence" .number "Confidence, 0-1"]),
    .make "ai.translate" .ai "Translate" "Translate text"
        [textarea "text" "Text" |>.mandatory |>.interpolated,
         text "targetLanguage" "Target Language" |>.mandatory]
        (some [output "translation" .string "Translated text"])]

/-- Script nodes. -/
def scripts : List Template :=
  [ .make "python.execute" .python "Python Script" "Run a Python snippet"
        [textarea "code" "Code" |>.mandatory,
         json "inputs" "Inputs"]
        (some [output "result" .any "Value of `result` after the script",
               output "stdout" .string "Captured standard output"]),
    .make "python.eval" .python "Evaluate" "Evaluate a Python expression"
        [text "expression" "Expression" |>.mandatory |>.interpolated]
        (some [output "result" .any "Expression value"])]

end Workflow.Catalog
