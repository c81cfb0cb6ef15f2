import LintServer.Protocol.Capabilities
import LintServer.Protocol.Params
import LintServer.Server.Message

/-!
# Messages of the editor as JSON

A message names a method and has parameters. What the parameters of a method are is read here; a
message whose parameters cannot be read keeps the reason, which is the answer if one is wanted.
-/

namespace LintServer

namespace RequestId

def ofJson? : Json → Option RequestId
  | .num (.int i) => some (.number i)
  | .str s => some (.name s)
  | .null => some .null
  | _ => none

def toJson : RequestId → Json
  | .number i => .ofInt i
  | .name s => .str s
  | .null => .null

end RequestId

/-! ## Parameters -/

namespace Startup

/-- A folder of the workspace. -/
def folderShape : Shape := .record "WorkspaceFolder" [("uri", Uri.shape), ("name", .text)]

/-- The parameters with which the server is started. -/
def shape : Shape :=
  .record "InitializeParams" [
    ("processId", .optional .uint32),
    ("rootPath", .optional .text),
    ("rootUri", .omittable (.optional Uri.shape)),
    ("initializationOptions", .optional .any),
    ("capabilities", Capabilities.shape),
    ("trace", .omittable (.optional (.word ["off", "messages", "verbose"]))),
    ("workspaceFolders", .optional (.list folderShape)),
    ("clientInfo", .optional (.record "ClientInfo"
      [("name", .text), ("version", .optional .text)])),
    ("locale", .optional .text)]

def folderOfConformed (v : Json) : Except Json.DecodeError Uri := do
  Json.required (← v.toFields) "uri" Uri.ofJson

def ofConformed (v : Json) : Except Json.DecodeError Startup := do
  let fields ← v.toFields
  let folders ← Json.field fields "workspaceFolders" (Json.toList folderOfConformed)
  return {
    folders := folders.getD []
    root := ← Json.field fields "rootUri" Uri.ofJson
    settings := ← Json.field fields "initializationOptions" .ok }

end Startup

namespace Document

/-- The URI of a document and the version it now has. -/
def versionedShape : Shape :=
  .record "VersionedTextDocumentIdentifier" [("uri", Uri.shape), ("version", .int32)]

/-- A whole document with its URI. -/
def itemShape : Shape :=
  .record "TextDocumentItem"
    [("uri", Uri.shape), ("languageId", .text), ("version", .int32), ("text", .text)]

/-- A change. The range that it may name does not matter, because a change has the whole text. -/
def changeShape : Shape :=
  .record "TextDocumentContentChangeEvent"
    [("range", .optional Range.shape), ("rangeLength", .optional .uint32), ("text", .text)]

def uriOfConformed (v : Json) : Except Json.DecodeError Uri := do
  Json.required (← v.toFields) "uri" Uri.ofJson

def ofConformed (v : Json) : Except Json.DecodeError Document := do
  let fields ← v.toFields
  return {
    language := ← Json.required fields "languageId" Json.toStr
    text := ← Json.required fields "text" Json.toStr
    version := ← Json.required fields "version" Json.toInt32 }

def changeOfConformed (v : Json) : Except Json.DecodeError String := do
  Json.required (← v.toFields) "text" Json.toStr

end Document

namespace Event

def openedOfJson : Json → Except Json.DecodeError Event :=
  let shape := Shape.record "DidOpenTextDocumentParams" [("textDocument", Document.itemShape)]
  shape.decode fun v => do
    let item ← Json.required (← v.toFields) "textDocument" .ok
    return .opened (← Document.uriOfConformed item) (← Document.ofConformed item)

def changedOfJson : Json → Except Json.DecodeError Event :=
  let shape := Shape.record "DidChangeTextDocumentParams"
    [("textDocument", Document.versionedShape), ("contentChanges", .list Document.changeShape)]
  shape.decode fun v => do
    let fields ← v.toFields
    let item ← Json.required fields "textDocument" .ok
    let version ← Json.required (← item.toFields) "version" Json.toInt32
    let texts ← Json.required fields "contentChanges" (Json.toList Document.changeOfConformed)
    return .changed (← Document.uriOfConformed item) version texts

def savedOfJson : Json → Except Json.DecodeError Event :=
  let shape := Shape.record "DidSaveTextDocumentParams"
    [("textDocument", Params.identifier), ("text", .optional .text)]
  shape.decode fun v => do
    return .saved (← Json.required (← v.toFields) "textDocument" Document.uriOfConformed)

def closedOfJson : Json → Except Json.DecodeError Event :=
  let shape := Shape.record "DidCloseTextDocumentParams" [("textDocument", Params.identifier)]
  shape.decode fun v => do
    return .closed (← Json.required (← v.toFields) "textDocument" Document.uriOfConformed)

def readyOfJson : Json → Except Json.DecodeError Event :=
  (Shape.record "InitializedParams" []).decode fun _ => .ok .ready

end Event

namespace ActionQuery

/-- The diagnostics at the place in question and the kinds of action wanted. -/
def contextShape : Shape :=
  .record "CodeActionContext" [
    ("diagnostics", .list Diagnostic.shape),
    ("only", .optional (.list .text)),
    ("triggerKind", .optional .int32)]

def shape : Shape :=
  Params.ofDocument "CodeActionParams" [("range", Range.shape), ("context", contextShape)]

def ofConformed (v : Json) : Except Json.DecodeError ActionQuery := do
  let fields ← v.toFields
  let context ← Json.required fields "context" Json.toFields
  return {
    uri := ← Json.required fields "textDocument" Document.uriOfConformed
    context := ← Json.required context "diagnostics" (Json.toList Diagnostic.ofConformed)
    only := ← Json.field context "only" (Json.toList Json.toStr) }

def ofJson : Json → Except Json.DecodeError ActionQuery := shape.decode ofConformed

end ActionQuery

namespace Query

def commandShape : Shape :=
  .joined "ExecuteCommandParams"
    [("command", .text), ("arguments", .omittable (.list .any))] [Params.progress]

/-- A command with its arguments. The one that fixes everything takes the URI of a document; what
is no URI counts as none. -/
def commandOfConformed (v : Json) : Except Json.DecodeError Query := do
  let fields ← v.toFields
  let command ← Json.required fields "command" Json.toStr
  let arguments ← Json.field fields "arguments" Json.toItems
  if command = "mkdlint.fixAll" then
    let target := (arguments.getD []).head?
    return .fixAll (target.bind fun v => (Uri.ofJson v).toOption)
  else return .otherCommand command

def commandOfJson : Json → Except Json.DecodeError Query := commandShape.decode commandOfConformed

end Query

/-! ## Methods -/

namespace Call

/-- The notifications of the protocol that mean nothing to the server. -/
def unservedEvents : List String :=
  ["textDocument/willSave", "workspace/didChangeConfiguration",
    "workspace/didChangeWorkspaceFolders", "workspace/didCreateFiles",
    "workspace/didRenameFiles", "workspace/didDeleteFiles", "workspace/didChangeWatchedFiles"]

/-- Reads the parameters of a method that has some. -/
def withParams {α : Type} (decode : Json → Except Json.DecodeError α) :
    Option Json → Except String α
  | none => .error "Missing params field"
  | some params => (decode params).mapError Json.DecodeError.message

/-- Makes sure that a method without parameters has none. -/
def withoutParams : Option Json → Except String Unit
  | none => .ok ()
  | some params => .error ("Unexpected params: " ++ params.compact)

def ofMethod (method : String) (params : Option Json) : Call :=
  match method with
  | "initialize" => .start (withParams (Startup.shape.decode Startup.ofConformed) params)
  | "initialized" => .event (withParams Event.readyOfJson params)
  | "shutdown" => .stop (withoutParams params)
  | "exit" => .exit
  | "$/cancelRequest" => .cancel
  | "textDocument/didOpen" => .event (withParams Event.openedOfJson params)
  | "textDocument/didChange" => .event (withParams Event.changedOfJson params)
  | "textDocument/didSave" => .event (withParams Event.savedOfJson params)
  | "textDocument/didClose" => .event (withParams Event.closedOfJson params)
  | "textDocument/codeAction" =>
    .query ((withParams ActionQuery.ofJson params).map Query.actions)
  | "workspace/executeCommand" => .query (withParams Query.commandOfJson params)
  | _ =>
    match Params.unserved.lookup method with
    | some shape => .unserved (withParams (shape.decode fun _ => .ok ()) params)
    | none =>
      if unservedEvents.contains method then .event (.error "Method not found")
      else .unknown method

end Call

/-- A message from its fields. A message without a method is one of no known method. -/
def Message.ofJson (v : Json) : Option Message :=
  match v with
  | .obj fields =>
    let method :=
      match fields.lookup "method" with
      | some (.str method) => method
      | _ => ""
    let call := Call.ofMethod method (fields.lookup "params")
    match fields.lookup "id" with
    | none => some { call := call }
    | some id => (RequestId.ofJson? id).map fun id => { id := some id, call := call }
  | _ => none

/-! ## Replies -/

namespace EditReply

/-- The codes of errors that the protocol names, with their names. -/
def codeNames : List (Int × String) :=
  [(-32700, "Parse error"), (-32600, "Invalid request"), (-32601, "Method not found"),
    (-32602, "Invalid params"), (-32603, "Internal error"), (-32800, "Canceled"),
    (-32801, "Content modified")]

/-- What an error of a reply is called by its code. -/
def codeText (code : Int) : String := (codeNames.lookup code).getD "Server error"

def shape : Shape :=
  .record "ApplyWorkspaceEditResponse"
    [("applied", .bool), ("failureReason", .optional .text), ("failedChange", .optional .uint32)]

def ofConformed (v : Json) : Except Json.DecodeError EditReply := do
  let fields ← v.toFields
  let applied ← Json.required fields "applied" Json.toBool
  let reason ← Json.field fields "failureReason" Json.toStr
  return if applied then .applied else .rejected (reason.getD "")

def ofResult : Json → Except Json.DecodeError EditReply := shape.decode ofConformed

/-- The reply with an error. -/
def ofError (code : Int) (message : String) : EditReply :=
  .failed (codeText code ++ ": " ++ message)

/-- A reply from its fields. A result that cannot be read is an error too. -/
def ofFields (fields : Fields) : EditReply :=
  match fields.lookup "error" with
  | some (.obj error) =>
    let code := match error.lookup "code" with
      | some (.num (.int code)) => code
      | _ => 0
    let message := match error.lookup "message" with
      | some (.str message) => message
      | _ => ""
    ofError code message
  | _ =>
    match ofResult ((fields.lookup "result").getD .null) with
    | .ok reply => reply
    | .error e => ofError (-32700) e.message

end EditReply

end LintServer
