import Workflow.Template

/-!
# Work on the screen

Nodes that act for a person in a browser or on a desktop.
-/

namespace Workflow.Catalog

open ConfigField (text textarea number boolean select)
open OutputField (output)

/-- A text that finds an element on the page. -/
def located (name label : String) : ConfigField :=
  text name label |>.mandatory |>.interpolated

/-- Browser nodes. -/
def web : List Template :=
  [ .make "web.open_browser" .web "Open Browser" "Launch a browser session"
        [text "url" "URL" |>.mandatory |>.interpolated |>.hint "https://",
         select "browser" "Browser" ["chromium", "firefox", "webkit"]
             |>.initially (.str "chromium"),
         boolean "headless" "Headless" |>.initially (.bool false)]
        (some [output "sessionId" .string "Browser session id"]),
    .make "web.navigate" .web "Navigate" "Go to a URL"
        [text "url" "URL" |>.mandatory |>.interpolated]
        (some [output "url" .string "Final URL",
               output "title" .string "Page title"]),
    .make "web.click" .web "Click" "Click an element"
        [located "selector" "Selector",
         number "timeout" "Timeout (s)" |>.initially (.ofInt 10)]
        none,
    .make "web.type" .web "Type Text" "Type into an input"
        [located "selector" "Selector",
         text "text" "Text" |>.mandatory |>.interpolated,
         boolean "clear" "Clear First" |>.initially (.bool true)]
        none,
    .make "web.select_option" .web "Select Option" "Pick a dropdown option"
        [located "selector" "Selector",
         select "by" "Match By" ["value", "label", "index"] |>.initially (.str "value"),
         text "option" "Option" |>.mandatory |>.interpolated]
        none,
    .make "web.get_text" .web "Get Text" "Read the text of an element"
        [located "selector" "Selector"]
        (some [output "text" .string "Element text"]),
    .make "web.get_attribute" .web "Get Attribute" "Read an element attribute"
        [located "selector" "Selector",
         text "attribute" "Attribute" |>.mandatory |>.hint "href"]
        (some [output "value" .string "Attribute value"]),
    .make "web.screenshot" .web "Screenshot" "Capture the current page"
        [text "path" "Save To" |>.interpolated,
         boolean "fullPage" "Full Page" |>.initially (.bool false)]
        (some [output "path" .string "Saved image path"]),
    .make "web.wait_element" .web "Wait For Element" "Wait until an element"
        [located "selector" "Selector",
         select "state" "State" ["visible", "hidden", "attached", "detached"]
             |>.initially (.str "visible"),
         number "timeout" "Timeout (s)" |>.initially (.ofInt 30)]
        none,
    .make "web.execute_js" .web "Execute JavaScript" "Run a script in the page"
        [textarea "script" "Script" |>.mandatory |>.interpolated]
        (some [output "result" .any "Value returned by the script"]),
    .make "web.scroll" .web "Scroll" "Scroll the page or an element"
        [select "direction" "Direction" ["down", "up", "to_element"] |>.initially (.str "down"),
         text "selector" "Selector" |>.interpolated |>.shownWhen "direction" (.str "to_element"),
         number "amount" "Pixels" |>.initially (.ofInt 500)]
        none,
    .make "web.handle_alert" .web "Handle Alert" "Accept or dismiss a dialog"
        [select "action" "Action" ["accept", "dismiss"] |>.initially (.str "accept"),
         text "promptText" "Prompt Text" |>.interpolated]
        (some [output "message" .string "Dialog message"]),
    .make "web.switch_tab" .web "Switch Tab" "Activate another browser tab"
        [select "by" "Find By" ["index", "title", "url"] |>.initially (.str "index"),
         text "value" "Value" |>.mandatory |>.interpolated]
        none,
    .make "web.close_browser" .web "Close Browser" "End the browser session"
        []
        none,
    .make "web.download_file" .web "Download File" "Download through the page"
        [located "selector" "Download Link",
         text "saveTo" "Save To" |>.interpolated]
        (some [output "path" .string "Downloaded file path"])]

/-- Desktop nodes. -/
def desktop : List Template :=
  [ .make "desktop.open_app" .desktop "Open Application" "Launch an application"
        [text "path" "Application" |>.mandatory |>.interpolated,
         text "args" "Arguments" |>.interpolated]
        (some [output "pid" .number "Process id"]),
    .make "desktop.click" .desktop "Desktop Click" "Click on screen"
        [text "locator" "Locator" |>.interpolated,
         number "x" "X",
         number "y" "Y",
         select "button" "Button" ["left", "right", "double"] |>.initially (.str "left")]
        none,
    .make "desktop.type_text" .desktop "Type Text" "Type with the keyboard"
        [text "text" "Text" |>.mandatory |>.interpolated,
         number "interval" "Key Interval (s)" |>.initially (.ofFloat 0.05)]
        none,
    .make "desktop.hotkey" .desktop "Hotkey" "Press a keyboard shortcut"
        [text "keys" "Keys" |>.mandatory |>.hint "ctrl+s"]
        none,
    .make "desktop.get_window" .desktop "Find Window" "Find and focus a window"
        [text "title" "Window Title" |>.mandatory |>.interpolated]
        (some [output "title" .string "Matched window title",
               output "windows" .array "All matching windows"]),
    .make "desktop.minimize" .desktop "Minimize" "Minimize the active window"
        []
        none,
    .make "desktop.maximize" .desktop "Maximize" "Maximize the active window"
        []
        none,
    .make "desktop.close_window" .desktop "Close Window" "Close the window"
        []
        none,
    .make "desktop.screenshot" .desktop "Screenshot" "Capture the screen"
        [text "path" "Save To" |>.interpolated,
         text "region" "Region" |>.hint "x,y,width,height"]
        (some [output "path" .string "Saved image path"]),
    .make "desktop.image_click" .desktop "Click Image" "Click where an image is"
        [text "imagePath" "Image" |>.mandatory |>.interpolated,
         number "confidence" "Confidence" |>.initially (.ofFloat 0.9)]
        none,
    .make "desktop.wait_image" .desktop "Wait For Image" "Wait for an image"
        [text "imagePath" "Image" |>.mandatory |>.interpolated,
         number "timeout" "Timeout (s)" |>.initially (.ofInt 30)]
        (some [output "found" .boolean "Whether the image appeared"]),
    .make "desktop.clipboard_copy" .desktop "Copy To Clipboard" "Put text on the clipboard"
        [text "text" "Text" |>.mandatory |>.interpolated]
        none]

end Workflow.Catalog
