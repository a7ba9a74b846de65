import Workflow.Template

/-!
# Control and people

Nodes that direct the flow, keep a record of it, guard secrets, and wait for people. The
first five control nodes are the containers.
-/

namespace Workflow.Catalog

open ConfigField (text textarea number password select formBuilder validationBuilder)
open OutputField (output)

/-- Where secrets are kept. -/
def vault : ConfigField :=
  select "provider" "Vault" ["local", "azure", "aws", "hashicorp"] |>.initially (.str "local")

/-- Control nodes. -/
def control : List Template :=
  [ .make "control.if" .control "If" "Run the nested branch when true"
        [text "condition" "Condition" |>.mandatory |>.interpolated]
        (some [output "result" .boolean "Evaluated condition"]),
    .make "control.loop" .control "For Each" "Run nested nodes once per item"
        [text "items" "Items" |>.mandatory |>.interpolated,
         text "itemVariable" "Item Variable" |>.initially (.str "item")]
        (some [output "item" .any "Current item",
               output "index" .number "Current index",
               output "count" .number "Total items"]),
    .make "control.while" .control "While" "Repeat nested nodes while true"
        [text "condition" "Condition" |>.mandatory |>.interpolated,
         number "maxIterations" "Max Iterations" |>.initially (.ofInt 100)]
        (some [output "iteration" .number "Current iteration"]),
    .make "control.try_catch" .control "Try / Catch" "Catch nested errors"
        [number "retries" "Retries" |>.initially (.ofInt 0)]
        (some [output "error" .string "Caught error message",
               output "errorNode" .string "Id of the failing node"]),
    .make "control.parallel" .control "Parallel" "Run nested branches together"
        [select "waitFor" "Wait For" ["all", "any"] |>.initially (.str "all")]
        (some [output "results" .array "Results per branch"]),
    .make "control.wait" .control "Wait" "Pause execution"
        [number "seconds" "Seconds" |>.mandatory |>.initially (.ofInt 1) |>.interpolated]
        none,
    .make "control.set_variable" .control "Set Variable" "Store a value"
        [text "name" "Name" |>.mandatory,
         text "value" "Value" |>.interpolated]
        (some [output "value" .any "Stored value"]),
    .make "control.stop" .control "Stop" "End the run"
        [select "status" "Status" ["success", "failure"] |>.initially (.str "success"),
         text "message" "Message" |>.interpolated |>.shownWhen "status" (.str "failure")]
        none]

/-- Record nodes. -/
def logging : List Template :=
  [ .make "logging.log" .logging "Log" "Write a message to the run log"
        [textarea "message" "Message" |>.mandatory |>.interpolated,
         select "level" "Level" ["DEBUG", "INFO", "WARN", "ERROR"] |>.initially (.str "INFO")]
        none,
    .make "logging.screenshot" .logging "Log Screenshot" "Attach a screenshot"
        [text "name" "Name" |>.interpolated]
        none,
    .make "logging.notification" .logging "Notify" "Send a run notification"
        [select "channel" "Channel" ["email", "slack", "teams"] |>.initially (.str "email"),
         text "recipient" "Recipient" |>.mandatory |>.interpolated,
         textarea "message" "Message" |>.mandatory |>.interpolated]
        none]

/-- Secret nodes. -/
def security : List Template :=
  [ .make "security.get_secret" .security "Get Secret" "Read a vault secret"
        [text "name" "Secret Name" |>.mandatory,
         vault]
        (some [output "value" .string "Secret value"]),
    .make "security.set_secret" .security "Set Secret" "Store a vault secret"
        [text "name" "Secret Name" |>.mandatory,
         password "value" "Value" |>.mandatory |>.interpolated,
         vault]
        none,
    .make "security.mask_data" .security "Mask Data" "Hide sensitive values"
        [text "text" "Text" |>.mandatory |>.interpolated,
         text "mask" "Mask Character" |>.initially (.str "*")]
        (some [output "masked" .string "Masked text"])]

/-- Nodes that wait for people. -/
def human : List Template :=
  [ .make "human.approval" .human "Approval" "Wait for a person to approve"
        [text "title" "Title" |>.mandatory |>.interpolated,
         textarea "details" "Details" |>.interpolated,
         text "assignee" "Assignee",
         number "timeoutHours" "Timeout (h)" |>.initially (.ofInt 24),
         validationBuilder "rules" "Approval Rules"]
        (some [output "approved" .boolean "Whether the request was approved",
               output "approver" .string "Who decided",
               output "comment" .string "Reviewer comment"]),
    .make "human.input" .human "Ask For Input" "Wait for a person to answer"
        [text "title" "Title" |>.mandatory |>.interpolated,
         formBuilder "fields" "Fields" |>.mandatory,
         text "assignee" "Assignee"]
        (some [output "values" .object "Submitted values"])]

end Workflow.Catalog
