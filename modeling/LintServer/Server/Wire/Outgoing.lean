import LintServer.Server.Wire.Incoming
import LintServer.Text.Utf8

/-!
# Messages of the server as JSON

Answers and what the server sends on its own, as the editor gets them. A log line begins with its
level and the time of day. On a stream every message is a frame: header lines, of which one states
the length of the message in bytes, an empty line, and the message.
-/

namespace LintServer

/-! ## Answers -/

namespace Refusal

/-- What goes along with a refusal. -/
def data? : Refusal → Option Json
  | .unknownMethod method => some (.str method)
  | _ => none

def toJson (r : Refusal) : Json :=
  .obj ([("code", .ofInt r.code)] ++ Json.field? "data" r.data? ++ [("message", .str r.message)])

end Refusal

namespace Outcome

/-- What the server can do: it wants whole texts, offers two kinds of code action, and knows one
command. -/
def capabilities : Json :=
  .obj [
    ("codeActionProvider", .obj [
      ("codeActionKinds", .arr [.str ActionKind.quickFix.text, .str ActionKind.fixAll.text]),
      ("resolveProvider", .bool false)]),
    ("executeCommandProvider", .obj [("commands", .arr [.str "mkdlint.fixAll"])]),
    ("textDocumentSync", .obj [
      ("change", .ofNat 1), ("openClose", .bool true), ("save", .bool true)])]

def serverInfo : Json :=
  .obj [("name", .str "mkdlint-lsp"), ("version", .str "0.1.0")]

def toJson : Outcome → Json
  | .started => .obj [("capabilities", capabilities), ("serverInfo", serverInfo)]
  | .nothing => .null
  | .actions found => .arr (found.map CodeAction.toJson)

end Outcome

/-- The fields of the response to a message that is answered. -/
def Answer.toFields? : Answer → Option Fields
  | .result id outcome => some [("id", id.toJson), ("result", outcome.toJson)]
  | .refusal id reason => some [("error", reason.toJson), ("id", id.toJson)]
  | .silence | .gone => none

/-! ## Unasked messages -/

namespace LogLevel

def name : LogLevel → String
  | .error => "Error"
  | .info => "Info"

def code : LogLevel → Nat
  | .error => 1
  | .info => 3

/-- A line of the log. -/
def line (level : LogLevel) (time text : String) : String :=
  "[" ++ level.name ++ " - " ++ time ++ "] " ++ text

end LogLevel

/-- The fields of a message that is sent at a time of day. -/
def Outgoing.toFields (time : String) : Outgoing → Fields
  | .log level text =>
    [("method", .str "window/logMessage"),
      ("params", .obj [("message", .str (level.line time text)), ("type", .ofNat level.code)])]
  | .publish uri diagnostics version =>
    [("method", .str "textDocument/publishDiagnostics"),
      ("params", .obj ([("diagnostics", .arr (diagnostics.map Diagnostic.toJson)),
        ("uri", uri.toJson)] ++ Json.field? "version" (version.map fun n => .ofInt n.toInt)))]
  | .applyEdit number edit =>
    [("id", .ofNat number), ("method", .str "workspace/applyEdit"),
      ("params", .obj [("edit", edit.toJson)])]

/-! ## Frames -/

namespace Frame

/-- A message as a frame. -/
def ofFields (fields : Fields) : List UInt8 :=
  let body := Text.bytesOf (Json.obj (("jsonrpc", .str "2.0") :: fields)).compact
  Text.bytesOf s!"Content-Length: {body.length}\r\n\r\n" ++ body

/-- The length that a header line states, if it states one. The name of a header is written in
either case. -/
def length? (line : String) : Option Nat :=
  let name := "content-length:".toList
  let chars := line.toList.map Char.toLower
  if chars.take name.length = name then
    (String.ofList ((chars.drop name.length).filter fun c => !c.isWhitespace)).toNat?
  else none

/-- The response to a message that is no JSON. -/
def parseError : Fields :=
  [("error", .obj [("code", .ofInt (-32700)), ("message", .str "Parse error")]), ("id", .null)]

/-- The time of day after a number of seconds, in hours, minutes and seconds. -/
def timeOfDay (seconds : Nat) : String :=
  let two (n : Nat) : String := if n < 10 then s!"0{n}" else toString n
  two (seconds / 3600 % 24) ++ ":" ++ two (seconds / 60 % 60) ++ ":" ++ two (seconds % 60)

end Frame

end LintServer
