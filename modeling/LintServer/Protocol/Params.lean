import LintServer.Protocol.Diagnostic

/-!
# Parameters of requests

What the parameters of a request have to look like. Many requests are about a document or a place in
one, and most have fields that let the editor follow their progress. Requests that the server does
not serve are listed here with their parameters, which have to be right all the same
(`Params.unserved`).
-/

namespace LintServer.Params

/-! ## Recurring shapes -/

/-- A name for a piece of work, under which its progress is told. -/
def token : Shape := .oneOf "NumberOrString" [.int32, .text]

/-- The fields of a request whose progress can be told. -/
def progress : Shape := .record "WorkDoneProgressParams" [("workDoneToken", .optional token)]

/-- The fields of a request whose result can be told in parts. -/
def partialResult : Shape :=
  .record "PartialResultParams" [("partialResultToken", .optional token)]

/-- The URI that identifies a document. -/
def identifier : Shape := .record "TextDocumentIdentifier" [("uri", Uri.shape)]

/-- A place in a document. -/
def place : Shape :=
  .record "TextDocumentPositionParams"
    [("textDocument", identifier), ("position", Position.shape)]

/-- Parameters that are about a document. -/
def ofDocument (name : String) (fields : List (String × Shape)) : Shape :=
  .joined name (("textDocument", identifier) :: fields) [progress, partialResult]

/-- Parameters that are about a place in a document. -/
def ofPlace (name : String) (fields : List (String × Shape)) : Shape :=
  .joined name fields [place, progress, partialResult]

/-- Parameters that are about a place in a document, and whose result comes at once. -/
def ofPlaceAtOnce (name : String) (fields : List (String × Shape)) : Shape :=
  .joined name fields [place, progress]

/-! ## Edits and commands -/

def command : Shape :=
  .record "Command"
    [("title", .text), ("command", .text), ("arguments", .optional (.list .any))]

def textEdit : Shape := .record "TextEdit" [("range", Range.shape), ("newText", .text)]

/-- An edit that says why it is made. -/
def annotatedEdit : Shape := .joined "AnnotatedTextEdit" [("annotationId", .text)] [textEdit]

/-- Edits of one document. -/
def documentEdit : Shape :=
  .record "TextDocumentEdit" [
    ("textDocument", .record "OptionalVersionedTextDocumentIdentifier"
      [("uri", Uri.shape), ("version", .optional .int32)]),
    ("edits", .list (.oneOf "OneOf" [textEdit, annotatedEdit]))]

/-- Edits of several documents, which may also be made, named anew and removed. -/
def workspaceEdit : Shape :=
  let uri := ("uri", Uri.shape)
  let change := [
    Shape.record "CreateFile" [("kind", .word ["create"]), uri],
    .record "RenameFile"
      [("kind", .word ["rename"]), ("oldUri", Uri.shape), ("newUri", Uri.shape)],
    .record "DeleteFile" [("kind", .word ["delete"]), uri]]
  .record "WorkspaceEdit" [
    ("changes", .optional (.map [] (.list textEdit))),
    ("documentChanges", .optional (.oneOf "DocumentChanges"
      [.list documentEdit, .list (.oneOf "DocumentChangeOperation" (change ++ [documentEdit]))])),
    ("changeAnnotations", .optional (.map [] (.record "ChangeAnnotation" [
      ("label", .text),
      ("needsConfirmation", .optional .bool),
      ("description", .optional .text)])))]

/-! ## Texts for people -/

def markup : Shape :=
  .record "MarkupContent" [("kind", .word ["plaintext", "markdown"]), ("value", .text)]

def documentation : Shape := .oneOf "Documentation" [.text, markup]

/-- Help on a call, as it was shown last. -/
def signatureHelp : Shape :=
  let offsets := Shape.record "offsets" [("first", .uint32), ("second", .uint32)]
  let parameter := Shape.record "ParameterInformation" [
    ("label", .oneOf "ParameterLabel" [.text, offsets]),
    ("documentation", .optional documentation)]
  let signature := Shape.record "SignatureInformation" [
    ("label", .text),
    ("documentation", .optional documentation),
    ("parameters", .optional (.list parameter)),
    ("activeParameter", .optional .uint32)]
  .record "SignatureHelp" [
    ("signatures", .list signature),
    ("activeSignature", .optional .uint32),
    ("activeParameter", .optional .uint32)]

/-! ## Things that are resolved -/

/-- An entity in a hierarchy. Its tags are a list in a hierarchy of calls, and one in a hierarchy of
types. -/
def hierarchyItem (name : String) (tags : Shape) : Shape :=
  .record name [
    ("name", .text),
    ("kind", .int32),
    ("tags", .optional tags),
    ("detail", .optional .text),
    ("uri", Uri.shape),
    ("range", Range.shape),
    ("selectionRange", Range.shape),
    ("data", .optional .any)]

def ofItem (name : String) (item : Shape) : Shape :=
  .joined name [("item", item)] [progress, partialResult]

def callItem : Shape := hierarchyItem "CallHierarchyItem" (.list .int32)

def typeItem : Shape := hierarchyItem "TypeHierarchyItem" .int32

def documentLink : Shape :=
  .record "DocumentLink" [
    ("range", Range.shape),
    ("target", .optional Uri.shape),
    ("tooltip", .optional .text),
    ("data", .optional .any)]

def codeLens : Shape :=
  .record "CodeLens" [
    ("range", Range.shape), ("command", .optional command), ("data", .optional .any)]

def inlayHint : Shape :=
  let part := Shape.record "InlayHintLabelPart" [
    ("value", .text),
    ("tooltip", .optional (.oneOf "InlayHintLabelPartTooltip" [.text, markup])),
    ("location", .optional RelatedInformation.locationShape),
    ("command", .optional command)]
  .record "InlayHint" [
    ("position", Position.shape),
    ("label", .oneOf "InlayHintLabel" [.text, .list part]),
    ("kind", .optional .int32),
    ("textEdits", .optional (.list textEdit)),
    ("tooltip", .optional (.oneOf "InlayHintTooltip" [.text, markup])),
    ("paddingLeft", .optional .bool),
    ("paddingRight", .optional .bool),
    ("data", .optional .any)]

def completionItem : Shape :=
  .record "CompletionItem" [
    ("label", .text),
    ("labelDetails", .optional (.record "CompletionItemLabelDetails"
      [("detail", .optional .text), ("description", .optional .text)])),
    ("kind", .optional .int32),
    ("detail", .optional .text),
    ("documentation", .optional documentation),
    ("deprecated", .optional .bool),
    ("preselect", .optional .bool),
    ("sortText", .optional .text),
    ("filterText", .optional .text),
    ("insertText", .optional .text),
    ("insertTextFormat", .optional .int32),
    ("insertTextMode", .optional .int32),
    ("textEdit", .optional (.oneOf "CompletionTextEdit" [textEdit,
      .record "InsertReplaceEdit"
        [("newText", .text), ("insert", Range.shape), ("replace", Range.shape)]])),
    ("additionalTextEdits", .optional (.list textEdit)),
    ("command", .optional command),
    ("commitCharacters", .optional (.list .text)),
    ("data", .optional .any),
    ("tags", .optional (.list .int32))]

def codeAction : Shape :=
  .record "CodeAction" [
    ("title", .text),
    ("kind", .optional .text),
    ("diagnostics", .optional (.list Diagnostic.shape)),
    ("edit", .optional workspaceEdit),
    ("command", .optional command),
    ("isPreferred", .optional .bool),
    ("disabled", .optional (.record "CodeActionDisabled" [("reason", .text)])),
    ("data", .optional .any)]

def workspaceSymbol : Shape :=
  .record "WorkspaceSymbol" [
    ("name", .text),
    ("kind", .int32),
    ("tags", .optional (.list .int32)),
    ("containerName", .optional .text),
    ("location", .oneOf "OneOf"
      [RelatedInformation.locationShape, .record "WorkspaceLocation" [("uri", Uri.shape)]]),
    ("data", .optional .any)]

/-! ## Formatting and files -/

/-- How a document is to be formatted. Options that the protocol does not know are flags, numbers or
texts. -/
def formatting : Shape :=
  let flags := ["trimTrailingWhitespace", "insertFinalNewline", "trimFinalNewlines"]
  .joined "FormattingOptions"
    ([("tabSize", .uint32), ("insertSpaces", .bool)] ++ flags.map (·, .optional .bool))
    [.map (["tabSize", "insertSpaces"] ++ flags)
      (.oneOf "FormattingProperty" [.bool, .int32, .text])]

def files (name item : String) (keys : List String) : Shape :=
  .record name [("files", .list (.record item (keys.map (·, .text))))]

def color : Shape :=
  .record "Color" [("red", .number), ("green", .number), ("blue", .number), ("alpha", .number)]

/-! ## Requests that are not served -/

/-- The requests of the protocol that the server does not serve, with their parameters. -/
def unserved : List (String × Shape) := [
  ("textDocument/willSaveWaitUntil",
    .record "WillSaveTextDocumentParams" [("textDocument", identifier), ("reason", .int32)]),
  ("textDocument/declaration", ofPlace "GotoDefinitionParams" []),
  ("textDocument/definition", ofPlace "GotoDefinitionParams" []),
  ("textDocument/typeDefinition", ofPlace "GotoDefinitionParams" []),
  ("textDocument/implementation", ofPlace "GotoDefinitionParams" []),
  ("textDocument/references", ofPlace "ReferenceParams"
    [("context", .record "ReferenceContext" [("includeDeclaration", .bool)])]),
  ("textDocument/prepareCallHierarchy", ofPlaceAtOnce "CallHierarchyPrepareParams" []),
  ("callHierarchy/incomingCalls", ofItem "CallHierarchyIncomingCallsParams" callItem),
  ("callHierarchy/outgoingCalls", ofItem "CallHierarchyOutgoingCallsParams" callItem),
  ("textDocument/prepareTypeHierarchy", ofPlaceAtOnce "TypeHierarchyPrepareParams" []),
  ("typeHierarchy/supertypes", ofItem "TypeHierarchySupertypesParams" typeItem),
  ("typeHierarchy/subtypes", ofItem "TypeHierarchySubtypesParams" typeItem),
  ("textDocument/documentHighlight", ofPlace "DocumentHighlightParams" []),
  ("textDocument/documentLink", ofDocument "DocumentLinkParams" []),
  ("documentLink/resolve", documentLink),
  ("textDocument/hover", ofPlaceAtOnce "HoverParams" []),
  ("textDocument/codeLens", ofDocument "CodeLensParams" []),
  ("codeLens/resolve", codeLens),
  ("textDocument/foldingRange", ofDocument "FoldingRangeParams" []),
  ("textDocument/selectionRange", ofDocument "SelectionRangeParams"
    [("positions", .list Position.shape)]),
  ("textDocument/documentSymbol", ofDocument "DocumentSymbolParams" []),
  ("textDocument/semanticTokens/full", ofDocument "SemanticTokensParams" []),
  ("textDocument/semanticTokens/full/delta", ofDocument "SemanticTokensDeltaParams"
    [("previousResultId", .text)]),
  ("textDocument/semanticTokens/range", ofDocument "SemanticTokensRangeParams"
    [("range", Range.shape)]),
  ("textDocument/inlineValue",
    .joined "InlineValueParams" [
      ("textDocument", identifier),
      ("range", Range.shape),
      ("context", .record "InlineValueContext"
        [("frameId", .int32), ("stoppedLocation", Range.shape)])] [progress]),
  ("textDocument/inlayHint",
    .joined "InlayHintParams" [("textDocument", identifier), ("range", Range.shape)] [progress]),
  ("inlayHint/resolve", inlayHint),
  ("textDocument/moniker", ofPlace "MonikerParams" []),
  ("textDocument/completion", ofPlace "CompletionParams"
    [("context", .optional (.record "CompletionContext"
      [("triggerKind", .int32), ("triggerCharacter", .optional .text)]))]),
  ("completionItem/resolve", completionItem),
  ("textDocument/diagnostic", ofDocument "DocumentDiagnosticParams"
    [("identifier", .optional .text), ("previousResultId", .optional .text)]),
  ("workspace/diagnostic",
    .joined "WorkspaceDiagnosticParams" [
      ("identifier", .optional .text),
      ("previousResultIds", .list (.record "PreviousResultId"
        [("uri", Uri.shape), ("value", .text)]))] [progress, partialResult]),
  ("textDocument/signatureHelp", ofPlaceAtOnce "SignatureHelpParams"
    [("context", .optional (.record "SignatureHelpContext" [
      ("triggerKind", .int32),
      ("triggerCharacter", .optional .text),
      ("isRetrigger", .bool),
      ("activeSignatureHelp", .optional signatureHelp)]))]),
  ("codeAction/resolve", codeAction),
  ("textDocument/documentColor", ofDocument "DocumentColorParams" []),
  ("textDocument/colorPresentation", ofDocument "ColorPresentationParams"
    [("color", color), ("range", Range.shape)]),
  ("textDocument/formatting",
    .joined "DocumentFormattingParams"
      [("textDocument", identifier), ("options", formatting)] [progress]),
  ("textDocument/rangeFormatting",
    .joined "DocumentRangeFormattingParams"
      [("textDocument", identifier), ("range", Range.shape), ("options", formatting)] [progress]),
  ("textDocument/onTypeFormatting",
    .joined "DocumentOnTypeFormattingParams" [("ch", .text), ("options", formatting)] [place]),
  ("textDocument/rename", ofPlaceAtOnce "RenameParams" [("newName", .text)]),
  ("textDocument/prepareRename", place),
  ("textDocument/linkedEditingRange", ofPlaceAtOnce "LinkedEditingRangeParams" []),
  ("workspace/symbol",
    .joined "WorkspaceSymbolParams" [("query", .text)] [partialResult, progress]),
  ("workspaceSymbol/resolve", workspaceSymbol),
  ("workspace/willCreateFiles", files "CreateFilesParams" "FileCreate" ["uri"]),
  ("workspace/willRenameFiles", files "RenameFilesParams" "FileRename" ["oldUri", "newUri"]),
  ("workspace/willDeleteFiles", files "DeleteFilesParams" "FileDelete" ["uri"])]

end LintServer.Params
