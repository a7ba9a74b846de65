import Workflow.Template

/-!
# Mail and services

Nodes that send and fetch messages and call remote services.
-/

namespace Workflow.Catalog

open ConfigField (text textarea number boolean password select json)
open OutputField (output)

/-- The message that a mail node works on. -/
def messageId : ConfigField :=
  text "messageId" "Message Id" |>.mandatory |>.interpolated

/-- What every call over HTTP gives. -/
def responseOutputs : List OutputField :=
  [output "status" .number "HTTP status code" |>.showing (.ofInt 200),
   output "body" .any "Response body",
   output "headers" .object "Response headers"]

/-- Mail nodes. -/
def email : List Template :=
  [ .make "email.send" .email "Send Email" "Send an email over SMTP"
        [text "to" "To" |>.mandatory |>.interpolated,
         text "subject" "Subject" |>.mandatory |>.interpolated,
         textarea "body" "Body" |>.interpolated,
         boolean "html" "HTML Body" |>.initially (.bool false)]
        (some [output "messageId" .string "Sent message id"]),
    .make "email.read" .email "Read Emails" "Fetch emails from a mailbox"
        [text "mailbox" "Mailbox" |>.initially (.str "INBOX"),
         number "limit" "Limit" |>.initially (.ofInt 10),
         boolean "unreadOnly" "Unread Only" |>.initially (.bool true)]
        (some [output "emails" .array "Fetched messages",
               output "count" .number "Number of messages"]),
    .make "email.reply" .email "Reply" "Reply to a message"
        [messageId,
         textarea "body" "Body" |>.mandatory |>.interpolated,
         boolean "replyAll" "Reply All" |>.initially (.bool false)]
        (some [output "messageId" .string "Sent reply id"]),
    .make "email.forward" .email "Forward" "Forward a message"
        [messageId,
         text "to" "To" |>.mandatory |>.interpolated,
         textarea "note" "Note" |>.interpolated]
        (some [output "messageId" .string "Forwarded message id"]),
    .make "email.download_attachment" .email "Download Attachments" "Save a message's attachments"
        [messageId,
         text "folder" "Save To" |>.mandatory |>.interpolated,
         text "pattern" "File Pattern" |>.initially (.str "*")]
        (some [output "files" .array "Saved attachment paths"]),
    .make "email.move" .email "Move Email" "Move a message to another folder"
        [messageId,
         text "folder" "Target Folder" |>.mandatory]
        none,
    .make "email.delete" .email "Delete Email" "Delete a message"
        [messageId]
        none,
    .make "email.mark_read" .email "Mark As Read" "Flag a message as read"
        [messageId,
         boolean "read" "Read" |>.initially (.bool true)]
        none,
    .make "email.search" .email "Search Emails" "Find messages by criteria"
        [text "mailbox" "Mailbox" |>.initially (.str "INBOX"),
         text "query" "Criteria" |>.mandatory |>.interpolated,
         number "limit" "Limit" |>.initially (.ofInt 50)]
        (some [output "emails" .array "Matching messages",
               output "count" .number "Number of matches"])]

/-- Service nodes. -/
def api : List Template :=
  [ .make "api.http_request" .api "HTTP Request" "Call an HTTP endpoint"
        [select "method" "Method" ["GET", "POST", "PUT", "PATCH", "DELETE"]
             |>.initially (.str "GET"),
         text "url" "URL" |>.mandatory |>.interpolated |>.hint "https://api.example.com",
         json "headers" "Headers",
         json "body" "Body" |>.shownWhen "method" (.ofTexts ["POST", "PUT", "PATCH"]),
         number "timeout" "Timeout (s)" |>.initially (.ofInt 30)]
        (some responseOutputs),
    .make "api.graphql" .api "GraphQL" "Run a GraphQL query"
        [text "url" "Endpoint" |>.mandatory |>.interpolated,
         textarea "query" "Query" |>.mandatory |>.interpolated,
         json "variables" "Variables",
         json "headers" "Headers"]
        (some [output "data" .object "The `data` member of the response",
               output "errors" .array "GraphQL errors, if any"]),
    .make "api.rest_get" .api "REST GET" "Fetch a REST resource"
        [text "url" "URL" |>.mandatory |>.interpolated,
         json "params" "Query Parameters",
         json "headers" "Headers"]
        (some responseOutputs),
    .make "api.rest_post" .api "REST POST" "Create a REST resource"
        [text "url" "URL" |>.mandatory |>.interpolated,
         json "body" "Body" |>.mandatory,
         json "headers" "Headers"]
        (some responseOutputs),
    .make "api.soap" .api "SOAP Call" "Call a SOAP operation"
        [text "wsdl" "WSDL URL" |>.mandatory |>.interpolated,
         text "operation" "Operation" |>.mandatory,
         json "arguments" "Arguments"]
        (some [output "result" .any "Operation result"]),
    .make "api.oauth_token" .api "OAuth Token" "Fetch an OAuth2 access token"
        [text "tokenUrl" "Token URL" |>.mandatory |>.interpolated,
         text "clientId" "Client Id" |>.mandatory |>.interpolated,
         password "clientSecret" "Client Secret" |>.mandatory |>.interpolated,
         text "scope" "Scope"]
        (some [output "accessToken" .string "Access token",
               output "expiresIn" .number "Lifetime in seconds"]),
    .make "api.parse_json" .api "Parse JSON" "Parse a JSON string"
        [textarea "json" "JSON" |>.mandatory |>.interpolated]
        (some [output "data" .any "Parsed value"]),
    .make "api.json_path" .api "JSON Path" "Select values with a JSONPath"
        [text "data" "Data" |>.mandatory |>.interpolated,
         text "path" "Expression" |>.mandatory |>.hint "$.items[*].id"]
        (some [output "matches" .array "Selected values"]),
    .make "api.ftp_upload" .api "FTP Upload" "Upload a file over FTP"
        [text "host" "Host" |>.mandatory,
         text "username" "Username",
         password "password" "Password" |>.interpolated,
         text "localPath" "Local File" |>.mandatory |>.interpolated,
         text "remotePath" "Remote Path" |>.mandatory |>.interpolated]
        none]

end Workflow.Catalog
