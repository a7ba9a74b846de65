import Workflow.Template

/-!
# Triggers

What starts a bot: by hand, on a schedule, or when something happens elsewhere. A trigger
is never a container and never nested by the program itself.
-/

namespace Workflow.Catalog

open ConfigField (text textarea number password select formBuilder)
open OutputField (output)

/-- The nodes that start a bot. -/
def triggers : List Template :=
  [ .make "trigger.manual" .trigger "Manual Trigger" "Start the bot by hand"
        []
        (some [output "startedAt" .string "ISO-8601 start time"
                   |>.showing (.str "2024-01-01T09:00:00Z")]),
    .make "trigger.schedule" .trigger "Schedule" "Run on a cron schedule"
        [text "cron" "Cron Expression" |>.mandatory |>.initially (.str "0 9 * * 1-5")
             |>.hint "0 9 * * 1-5",
         text "timezone" "Timezone" |>.initially (.str "UTC")]
        (some [output "scheduledTime" .string "Planned fire time",
               output "actualTime" .string "Actual fire time"]),
    .make "trigger.webhook" .trigger "Webhook" "Run when an HTTP request arrives"
        [text "path" "Path" |>.mandatory |>.hint "/hooks/my-bot",
         select "method" "Method" ["GET", "POST", "PUT"] |>.initially (.str "POST"),
         password "secret" "Shared Secret"]
        (some [output "body" .any "Request body",
               output "headers" .object "Request headers",
               output "query" .object "Query string parameters"]),
    .make "trigger.file_watch" .trigger "File Watcher" "Run when files change"
        [text "path" "Folder" |>.mandatory |>.interpolated,
         text "pattern" "Pattern" |>.initially (.str "*"),
         select "events" "Events" ["created", "modified", "deleted", "any"]
             |>.initially (.str "created")]
        (some [output "filePath" .string "Path of the changed file",
               output "event" .string "Kind of change"]),
    .make "trigger.email_received" .trigger "Email Received" "Run when a matching email arrives"
        [text "mailbox" "Mailbox" |>.initially (.str "INBOX"),
         text "fromFilter" "From Contains",
         text "subjectFilter" "Subject Contains"]
        (some [output "from" .string "Sender address",
               output "subject" .string "Subject line",
               output "body" .string "Plain text body",
               output "attachments" .array "Attachment file paths"]),
    .make "trigger.queue" .trigger "Queue" "Run for each queued work item"
        [text "queue" "Queue Name" |>.mandatory,
         number "batchSize" "Batch Size" |>.initially (.ofInt 1)]
        (some [output "item" .any "Payload of the work item",
               output "itemId" .string "Work item id"]),
    .make "trigger.form" .trigger "Form Trigger" "Run when a form is submitted"
        [text "formTitle" "Form Title" |>.mandatory,
         textarea "formDescription" "Description",
         formBuilder "fields" "Form Fields" |>.mandatory,
         text "submitButtonText" "Submit Button" |>.initially (.str "Submit")]
        (some [output "formData" .object "All submitted values, keyed by field id",
               output "submittedAt" .string "Submission time",
               output "submissionId" .string "Unique submission id"]),
    .make "trigger.api_polling" .trigger
        "API Polling" "Poll an endpoint and run when it reports a change"
        [text "url" "URL" |>.mandatory |>.hint "https://",
         select "method" "Method" ["GET", "POST"] |>.initially (.str "GET"),
         number "interval" "Interval (s)" |>.initially (.ofInt 300)]
        (some [output "response" .any "Body of the triggering response",
               output "status" .number "HTTP status code"]),
    .make "trigger.database_change" .trigger "Database Change" "Run when rows change in a table"
        [text "table" "Table" |>.mandatory,
         select "event" "Event" ["insert", "update", "delete", "any"] |>.initially (.str "any")]
        (some [output "event" .string "Kind of change",
               output "row" .object "Changed row"]),
    .make "trigger.storage_event" .trigger
        "Storage Event" "Run when an object store bucket changes"
        [text "bucket" "Bucket" |>.mandatory,
         select "event" "Event" ["created", "deleted", "any"] |>.initially (.str "created"),
         text "prefix" "Key Prefix"]
        (some [output "key" .string "Object key",
               output "size" .number "Object size in bytes"]),
    .make "trigger.message_bus" .trigger "Message Bus" "Run for each message on a topic"
        [select "provider" "Provider" ["kafka", "rabbitmq", "redis"] |>.initially (.str "kafka"),
         text "topic" "Topic" |>.mandatory]
        (some [output "message" .any "Message payload",
               output "headers" .object "Message headers"]),
    .make "trigger.chat" .trigger "Chat" "Run when a chat command arrives"
        [select "platform" "Platform" ["slack", "teams", "telegram"] |>.initially (.str "slack"),
         text "channel" "Channel",
         text "command" "Command" |>.hint "/run"]
        (some [output "text" .string "Message text",
               output "user" .string "Sender",
               output "channel" .string "Channel the message came from"])]

end Workflow.Catalog
