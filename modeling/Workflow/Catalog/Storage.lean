import Workflow.Template

/-!
# Files and tables

Nodes that read and write files, worksheets, documents and databases.
-/

namespace Workflow.Catalog

open ConfigField (text textarea boolean password select json)
open OutputField (output)

/-- The path of a file or folder. -/
def path (label : String) : ConfigField :=
  text "path" label |>.mandatory |>.interpolated

/-- The path of a workbook. -/
def workbook : ConfigField :=
  path "Workbook"

/-- How a database is reached; it holds credentials. -/
def connection : ConfigField :=
  password "connectionString" "Connection String" |>.mandatory

/-- What every statement that changes a table gives. -/
def rowsAffected : OutputField :=
  output "rowCount" .number "Rows affected"

/-- File nodes. -/
def files : List Template :=
  [ .make "files.read" .files "Read File" "Read a file's contents"
        [path "Path",
         select "encoding" "Encoding" ["utf-8", "latin-1", "binary"] |>.initially (.str "utf-8")]
        (some [output "content" .string "File contents",
               output "size" .number "Size in bytes"]),
    .make "files.write" .files "Write File" "Write content to a file"
        [path "Path",
         textarea "content" "Content" |>.mandatory |>.interpolated,
         boolean "append" "Append" |>.initially (.bool false)]
        (some [output "path" .string "Written file path"]),
    .make "files.copy" .files "Copy File" "Copy a file"
        [text "source" "Source" |>.mandatory |>.interpolated,
         text "destination" "Destination" |>.mandatory |>.interpolated,
         boolean "overwrite" "Overwrite" |>.initially (.bool false)]
        (some [output "path" .string "Path of the copy"]),
    .make "files.move" .files "Move File" "Move or rename a file"
        [text "source" "Source" |>.mandatory |>.interpolated,
         text "destination" "Destination" |>.mandatory |>.interpolated]
        (some [output "path" .string "New path"]),
    .make "files.delete" .files "Delete File" "Delete a file"
        [path "Path"]
        none,
    .make "files.create_folder" .files "Create Folder" "Create a directory"
        [path "Folder",
         boolean "parents" "Create Parents" |>.initially (.bool true)]
        none,
    .make "files.list" .files "List Files" "List files in a folder"
        [path "Folder",
         text "pattern" "Pattern" |>.initially (.str "*"),
         boolean "recursive" "Recursive" |>.initially (.bool false)]
        (some [output "files" .array "Matching file paths",
               output "count" .number "Number of matches"]),
    .make "files.exists" .files "File Exists" "Check whether a path exists"
        [path "Path"]
        (some [output "exists" .boolean "Whether the path exists"]),
    .make "files.zip" .files "Zip" "Compress files into an archive"
        [text "source" "Files or Folder" |>.mandatory |>.interpolated,
         text "archive" "Archive" |>.mandatory |>.interpolated]
        (some [output "archive" .string "Archive path"]),
    .make "files.unzip" .files "Unzip" "Extract an archive"
        [text "archive" "Archive" |>.mandatory |>.interpolated,
         text "destination" "Destination" |>.mandatory |>.interpolated]
        (some [output "files" .array "Extracted file paths"]),
    .make "files.get_info" .files "File Info" "Read size and timestamps"
        [path "Path"]
        (some [output "size" .number "Size in bytes",
               output "modified" .string "Last modification time",
               output "extension" .string "File extension"])]

/-- Worksheet nodes. -/
def excel : List Template :=
  [ .make "excel.open" .excel "Open Workbook" "Open a workbook for editing"
        [workbook,
         boolean "create" "Create If Missing" |>.initially (.bool false)]
        none,
    .make "excel.read_range" .excel "Read Range" "Read a worksheet range"
        [workbook,
         text "sheet" "Sheet" |>.initially (.str "Sheet1"),
         text "range" "Range" |>.hint "A1:D20",
         boolean "header" "First Row Is Header" |>.initially (.bool true)]
        (some [output "rows" .array "Rows read from the range",
               output "rowCount" .number "Number of rows"]),
    .make "excel.write_range" .excel "Write Range" "Write rows to a worksheet"
        [workbook,
         text "sheet" "Sheet" |>.initially (.str "Sheet1"),
         text "startCell" "Start Cell" |>.initially (.str "A1"),
         text "data" "Rows" |>.mandatory |>.interpolated]
        none,
    .make "excel.read_cell" .excel "Read Cell" "Read a single cell"
        [workbook,
         text "sheet" "Sheet" |>.initially (.str "Sheet1"),
         text "cell" "Cell" |>.mandatory |>.hint "B2"]
        (some [output "value" .any "Cell value"]),
    .make "excel.write_cell" .excel "Write Cell" "Write a single cell"
        [workbook,
         text "sheet" "Sheet" |>.initially (.str "Sheet1"),
         text "cell" "Cell" |>.mandatory |>.hint "B2",
         text "value" "Value" |>.mandatory |>.interpolated]
        none,
    .make "excel.add_row" .excel "Add Row" "Append a row to a worksheet"
        [workbook,
         text "sheet" "Sheet" |>.initially (.str "Sheet1"),
         json "values" "Values" |>.mandatory]
        none,
    .make "excel.filter" .excel "Filter Rows" "Keep rows matching a condition"
        [text "rows" "Rows" |>.mandatory |>.interpolated,
         text "column" "Column" |>.mandatory,
         select "operator" "Operator" ["equals", "not_equals", "contains", "greater", "less"]
             |>.initially (.str "equals"),
         text "value" "Value" |>.interpolated]
        (some [output "rows" .array "Matching rows",
               output "rowCount" .number "Number of matching rows"]),
    .make "excel.save" .excel "Save Workbook" "Save the open workbook"
        [text "saveAs" "Save As" |>.interpolated]
        none,
    .make "excel.close" .excel "Close Workbook" "Close the open workbook"
        []
        none,
    .make "excel.csv_read" .excel "Read CSV" "Parse a CSV file"
        [path "Path",
         text "delimiter" "Delimiter" |>.initially (.str ",")]
        (some [output "rows" .array "Parsed rows",
               output "columns" .array "Column names"]),
    .make "excel.csv_write" .excel "Write CSV" "Write rows to a CSV file"
        [path "Path",
         text "data" "Rows" |>.mandatory |>.interpolated,
         text "delimiter" "Delimiter" |>.initially (.str ",")]
        (some [output "path" .string "Written file path"]),
    .make "excel.pivot" .excel "Pivot" "Summarise rows into a pivot table"
        [text "rows" "Rows" |>.mandatory |>.interpolated,
         text "index" "Group By" |>.mandatory,
         text "values" "Value Column" |>.mandatory,
         select "aggregate" "Aggregate" ["sum", "count", "mean", "min", "max"]
             |>.initially (.str "sum")]
        (some [output "table" .array "Pivoted rows"])]

/-- Database nodes. -/
def database : List Template :=
  [ .make "database.query" .database "SQL Query" "Run a SQL query"
        [select "driver" "Driver" ["postgres", "mysql", "sqlite", "mssql"]
             |>.initially (.str "postgres"),
         connection,
         textarea "query" "Query" |>.mandatory |>.interpolated]
        (some [output "rows" .array "Result rows",
               output "rowCount" .number "Rows returned or affected"]),
    .make "database.insert" .database "Insert Rows" "Insert rows into a table"
        [connection,
         text "table" "Table" |>.mandatory,
         text "rows" "Rows" |>.mandatory |>.interpolated]
        (some [rowsAffected]),
    .make "database.update" .database "Update Rows" "Update matching rows"
        [connection,
         text "table" "Table" |>.mandatory,
         json "values" "Values" |>.mandatory,
         text "where" "Where" |>.interpolated]
        (some [rowsAffected])]

/-- Document nodes. -/
def documents : List Template :=
  [ .make "document.pdf_read" .document "Read PDF" "Extract text from a PDF"
        [path "Path",
         text "pages" "Pages" |>.hint "1-3"]
        (some [output "text" .string "Extracted text",
               output "pageCount" .number "Number of pages"]),
    .make "document.pdf_merge" .document "Merge PDFs" "Join PDFs into one"
        [text "files" "Files" |>.mandatory |>.interpolated,
         text "output" "Output" |>.mandatory |>.interpolated]
        (some [output "path" .string "Merged file path"]),
    .make "document.ocr" .document "OCR" "Recognise text in an image"
        [path "Image",
         text "language" "Language" |>.initially (.str "eng")]
        (some [output "text" .string "Recognised text",
               output "confidence" .number "Mean confidence, 0-100"]),
    .make "document.word_read" .document "Read Word" "Extract text from a docx"
        [path "Path"]
        (some [output "text" .string "Document text",
               output "paragraphs" .array "Paragraph texts"])]

end Workflow.Catalog
