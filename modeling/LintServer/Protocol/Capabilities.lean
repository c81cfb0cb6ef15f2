import LintServer.Json.Shape

/-!
# Capabilities of an editor

When an editor starts the server it says what it can do. The server makes no use of that, but an
editor that says it wrongly is not served. The capabilities come in groups, for the workspace, for
documents, for windows and for all of these; nearly all are flags that may be absent.
-/

namespace LintServer.Capabilities

/-! ## Recurring shapes -/

/-- Flags with these keys. -/
def flags (keys : List String) : List (String × Shape) := keys.map (·, .optional .bool)

/-- A group that may be absent. -/
def group (key name : String) (fields : List (String × Shape)) : String × Shape :=
  (key, .optional (.record name fields))

/-- A capability that the server may ask for later on. -/
def dynamic : String := "dynamicRegistration"

/-- A capability of which only that is said. -/
def dynamicOnly (key : String) : String × Shape :=
  group key "DynamicRegistrationClientCapabilities" (flags [dynamic])

/-- Whether the server may have the editor ask anew. -/
def refreshing (key name : String) : String × Shape := group key name (flags ["refreshSupport"])

/-- What can be asked for later on. -/
def resolving (name : String) : String × Shape :=
  group "resolveSupport" name [("properties", .list .text)]

/-- Kinds, as their numbers. -/
def kinds (key name : String) : String × Shape :=
  group key name [("valueSet", .optional (.list .int32))]

/-- Formats of texts for people. -/
def formats (key : String) : String × Shape :=
  (key, .optional (.list (.word ["plaintext", "markdown"])))

/-- The tags that the editor knows. It may also only say whether it knows any. -/
def tags : String × Shape :=
  ("tagSupport", .omittable <| .optional <| .scalar fun v =>
    match v with
    | .bool _ => .ok ()
    | v => ((Shape.record "TagSupport" [("valueSet", .list .int32)]).conform v).map fun _ => ())

/-! ## Workspace -/

def workspace : List (String × Shape) :=
  flags ["applyEdit"] ++ [
    group "workspaceEdit" "WorkspaceEditClientCapabilities" [
      ("documentChanges", .optional .bool),
      ("resourceOperations", .optional (.list (.word ["create", "rename", "delete"]))),
      ("failureHandling",
        .optional (.word ["abort", "transactional", "textOnlyTransactional", "undo"])),
      ("normalizesLineEndings", .optional .bool),
      group "changeAnnotationSupport" "ChangeAnnotationWorkspaceEditClientCapabilities"
        (flags ["groupsOnLabel"])],
    dynamicOnly "didChangeConfiguration",
    group "didChangeWatchedFiles" "DidChangeWatchedFilesClientCapabilities"
      (flags [dynamic, "relativePatternSupport"]),
    group "symbol" "WorkspaceSymbolClientCapabilities" [
      (dynamic, .optional .bool),
      kinds "symbolKind" "SymbolKindCapability",
      tags,
      resolving "WorkspaceSymbolResolveSupportCapability"],
    dynamicOnly "executeCommand"] ++
  flags ["workspaceFolders", "configuration"] ++ [
    refreshing "semanticTokens" "SemanticTokensWorkspaceClientCapabilities",
    refreshing "codeLens" "CodeLensWorkspaceClientCapabilities",
    group "fileOperations" "WorkspaceFileOperationsClientCapabilities"
      (flags [dynamic, "didCreate", "willCreate", "didRename", "willRename", "didDelete",
        "willDelete"]),
    refreshing "inlineValue" "InlineValueWorkspaceClientCapabilities",
    refreshing "inlayHint" "InlayHintWorkspaceClientCapabilities",
    refreshing "diagnostic" "DiagnosticWorkspaceClientCapabilities"]

/-! ## Documents -/

def completionItem : List (String × Shape) :=
  flags ["snippetSupport", "commitCharactersSupport"] ++ [formats "documentationFormat"] ++
  flags ["deprecatedSupport", "preselectSupport"] ++ [tags] ++
  flags ["insertReplaceSupport"] ++ [
    resolving "CompletionItemCapabilityResolveSupport",
    group "insertTextModeSupport" "InsertTextModeSupport" [("valueSet", .list .int32)]] ++
  flags ["labelDetailsSupport"]

def completion : List (String × Shape) := [
  (dynamic, .optional .bool),
  group "completionItem" "CompletionItemCapability" completionItem,
  kinds "completionItemKind" "CompletionItemKindCapability",
  ("contextSupport", .optional .bool),
  ("insertTextMode", .optional .int32),
  group "completionList" "CompletionListCapability"
    [("itemDefaults", .optional (.list .text))]]

def signatureHelp : List (String × Shape) := [
  (dynamic, .optional .bool),
  group "signatureInformation" "SignatureInformationSettings" [
    formats "documentationFormat",
    group "parameterInformation" "ParameterInformationSettings" (flags ["labelOffsetSupport"]),
    ("activeParameterSupport", .optional .bool)],
  ("contextSupport", .optional .bool)]

def codeAction : List (String × Shape) :=
  flags [dynamic] ++ [
    group "codeActionLiteralSupport" "CodeActionLiteralSupport" [
      ("codeActionKind", .record "CodeActionKindLiteralSupport" [("valueSet", .list .text)])]] ++
  flags ["isPreferredSupport", "disabledSupport", "dataSupport"] ++
  [resolving "CodeActionCapabilityResolveSupport"] ++ flags ["honorsChangeAnnotations"]

def semanticTokens : List (String × Shape) := [
    (dynamic, .optional .bool),
    ("requests", .record "SemanticTokensClientCapabilitiesRequests" [
      ("range", .optional .bool),
      ("full", .optional (.oneOf "SemanticTokensFullOptions" [
        .bool, .record "Delta" (flags ["delta"])]))]),
    ("tokenTypes", .list .text),
    ("tokenModifiers", .list .text),
    ("formats", .list .text)] ++
  flags ["overlappingTokenSupport", "multilineTokenSupport", "serverCancelSupport",
    "augmentsSyntaxTokens"]

def document : List (String × Shape) := [
  group "synchronization" "TextDocumentSyncClientCapabilities"
    (flags [dynamic, "willSave", "willSaveWaitUntil", "didSave"]),
  group "completion" "CompletionClientCapabilities" completion,
  group "hover" "HoverClientCapabilities" (flags [dynamic] ++ [formats "contentFormat"]),
  group "signatureHelp" "SignatureHelpClientCapabilities" signatureHelp,
  dynamicOnly "references",
  dynamicOnly "documentHighlight",
  group "documentSymbol" "DocumentSymbolClientCapabilities" [
    (dynamic, .optional .bool),
    kinds "symbolKind" "SymbolKindCapability",
    ("hierarchicalDocumentSymbolSupport", .optional .bool),
    tags],
  dynamicOnly "formatting",
  dynamicOnly "rangeFormatting",
  dynamicOnly "onTypeFormatting",
  group "declaration" "GotoCapability" (flags [dynamic, "linkSupport"]),
  group "definition" "GotoCapability" (flags [dynamic, "linkSupport"]),
  group "typeDefinition" "GotoCapability" (flags [dynamic, "linkSupport"]),
  group "implementation" "GotoCapability" (flags [dynamic, "linkSupport"]),
  group "codeAction" "CodeActionClientCapabilities" codeAction,
  dynamicOnly "codeLens",
  group "documentLink" "DocumentLinkClientCapabilities" (flags [dynamic, "tooltipSupport"]),
  dynamicOnly "colorProvider",
  group "rename" "RenameClientCapabilities" [
    (dynamic, .optional .bool),
    ("prepareSupport", .optional .bool),
    ("prepareSupportDefaultBehavior", .optional .int32),
    ("honorsChangeAnnotations", .optional .bool)],
  group "publishDiagnostics" "PublishDiagnosticsClientCapabilities"
    (flags ["relatedInformation"] ++ [tags] ++
      flags ["versionSupport", "codeDescriptionSupport", "dataSupport"]),
  group "foldingRange" "FoldingRangeClientCapabilities" [
    (dynamic, .optional .bool),
    ("rangeLimit", .optional .uint32),
    ("lineFoldingOnly", .optional .bool),
    group "foldingRangeKind" "FoldingRangeKindCapability"
      [("valueSet", .optional (.list (.word ["comment", "imports", "region"])))],
    group "foldingRange" "FoldingRangeCapability" (flags ["collapsedText"])],
  group "selectionRange" "SelectionRangeClientCapabilities" (flags [dynamic]),
  dynamicOnly "linkedEditingRange",
  dynamicOnly "callHierarchy",
  group "semanticTokens" "SemanticTokensClientCapabilities" semanticTokens,
  dynamicOnly "moniker",
  dynamicOnly "typeHierarchy",
  dynamicOnly "inlineValue",
  group "inlayHint" "InlayHintClientCapabilities"
    (flags [dynamic] ++ [resolving "InlayHintResolveClientCapabilities"]),
  group "diagnostic" "DiagnosticClientCapabilities" (flags [dynamic, "relatedDocumentSupport"])]

/-! ## Windows and the whole -/

def window : List (String × Shape) := [
  ("workDoneProgress", .optional .bool),
  group "showMessage" "ShowMessageRequestClientCapabilities" [
    group "messageActionItem" "MessageActionItemCapabilities"
      (flags ["additionalPropertiesSupport"])],
  group "showDocument" "ShowDocumentClientCapabilities" [("support", .bool)]]

def general : List (String × Shape) := [
  group "regularExpressions" "RegularExpressionsClientCapabilities"
    [("engine", .text), ("version", .optional .text)],
  group "markdown" "MarkdownClientCapabilities"
    [("parser", .text), ("version", .optional .text), ("allowedTags", .optional (.list .text))],
  group "staleRequestSupport" "StaleRequestSupportClientCapabilities"
    [("cancel", .bool), ("retryOnContentModified", .list .text)],
  ("positionEncodings", .optional (.list .text))]

def shape : Shape :=
  .record "ClientCapabilities" [
    group "workspace" "WorkspaceClientCapabilities" workspace,
    group "textDocument" "TextDocumentClientCapabilities" document,
    group "window" "WindowClientCapabilities" window,
    group "general" "GeneralClientCapabilities" general,
    ("experimental", .optional .any)]

end LintServer.Capabilities
