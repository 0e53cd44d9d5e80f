import RemoteLsp.Json.Schema

/-!
# Parameters of protocol messages

The declared types of the parameters the daemon decodes itself, field by field in their
declaration order. Document URIs are strings of type `uri.URI`; line and character
positions are unsigned 32-bit integers; a document version is a signed one.

Client capabilities are passed on to every server. Their hover and synchronization parts
are declared in full; the other parts are kept as the objects the editor sent.
-/

namespace RemoteLsp.Lsp

open Json

/-- A field that is always written. -/
def req (name : String) (s : Schema) : String × Schema × Bool := (name, s, false)

/-- A field left out when empty. -/
def opt (name : String) (s : Schema) : String × Schema × Bool := (name, s, true)

/-- A plain string. -/
def str : Schema := .text "string"

/-- A document URI. -/
def uriText : Schema := .text "uri.URI"

/-- A signed 32-bit integer. -/
def int32 : Schema := .integer "int32" (-2147483648) 2147483647

/-- An unsigned 32-bit integer. -/
def uint32 : Schema := .integer "uint32" 0 4294967295

/-- A record of the protocol package. -/
def protocolRecord (name : String) (fields : List (String × Schema × Bool)) : Schema :=
  .record ("protocol." ++ name) name fields

/-- A pointer to a capability record kept as sent. -/
def looseCapability (name : String) : Schema := .pointer (.loose ("protocol." ++ name))

/-- A position in a document. -/
def position : Schema := protocolRecord "Position" [req "line" uint32, req "character" uint32]

/-- A range of a document. -/
def range : Schema := protocolRecord "Range" [req "start" position, req "end" position]

/-- Hover capabilities of a client. -/
def hoverCapabilities : Schema :=
  .pointer (protocolRecord "HoverTextDocumentClientCapabilities"
    [opt "dynamicRegistration" .flag,
     opt "contentFormat" (.list "[]protocol.MarkupKind" (.text "protocol.MarkupKind"))])

/-- Document synchronization capabilities of a client. -/
def syncCapabilities : Schema :=
  .pointer (protocolRecord "TextDocumentSyncClientCapabilities"
    [opt "dynamicRegistration" .flag, opt "willSave" .flag, opt "willSaveWaitUntil" .flag,
     opt "didSave" .flag])

/-- Text document capabilities of a client. -/
def textDocumentCapabilities : Schema :=
  .pointer (protocolRecord "TextDocumentClientCapabilities"
    [opt "synchronization" syncCapabilities,
     opt "completion" (looseCapability "CompletionTextDocumentClientCapabilities"),
     opt "hover" hoverCapabilities,
     opt "signatureHelp" (looseCapability "SignatureHelpTextDocumentClientCapabilities"),
     opt "declaration" (looseCapability "DeclarationTextDocumentClientCapabilities"),
     opt "definition" (looseCapability "DefinitionTextDocumentClientCapabilities"),
     opt "typeDefinition" (looseCapability "TypeDefinitionTextDocumentClientCapabilities"),
     opt "implementation" (looseCapability "ImplementationTextDocumentClientCapabilities"),
     opt "references" (looseCapability "ReferencesTextDocumentClientCapabilities"),
     opt "documentHighlight" (looseCapability "DocumentHighlightClientCapabilities"),
     opt "documentSymbol" (looseCapability "DocumentSymbolClientCapabilities"),
     opt "codeAction" (looseCapability "CodeActionClientCapabilities"),
     opt "codeLens" (looseCapability "CodeLensClientCapabilities"),
     opt "documentLink" (looseCapability "DocumentLinkClientCapabilities"),
     opt "colorProvider" (looseCapability "DocumentColorClientCapabilities"),
     opt "formatting" (looseCapability "DocumentFormattingClientCapabilities"),
     opt "rangeFormatting" (looseCapability "DocumentRangeFormattingClientCapabilities"),
     opt "onTypeFormatting" (looseCapability "DocumentOnTypeFormattingClientCapabilities"),
     opt "publishDiagnostics" (looseCapability "PublishDiagnosticsClientCapabilities"),
     opt "rename" (looseCapability "RenameClientCapabilities"),
     opt "foldingRange" (looseCapability "FoldingRangeClientCapabilities"),
     opt "selectionRange" (looseCapability "SelectionRangeClientCapabilities"),
     opt "callHierarchy" (looseCapability "CallHierarchyClientCapabilities"),
     opt "semanticTokens" (looseCapability "SemanticTokensClientCapabilities"),
     opt "linkedEditingRange" (looseCapability "LinkedEditingRangeClientCapabilities"),
     opt "moniker" (looseCapability "MonikerClientCapabilities")])

/-- The capabilities of a client. -/
def clientCapabilities : Schema :=
  protocolRecord "ClientCapabilities"
    [opt "workspace" (looseCapability "WorkspaceClientCapabilities"),
     opt "textDocument" textDocumentCapabilities,
     opt "window" (looseCapability "WindowClientCapabilities"),
     opt "general" (looseCapability "GeneralClientCapabilities"),
     opt "experimental" .dynamic]

/-- The name and version of a client. -/
def clientInfo : Schema :=
  .pointer (protocolRecord "ClientInfo" [req "name" str, opt "version" str])

/-- A workspace folder. -/
def workspaceFolder : Schema := protocolRecord "WorkspaceFolder" [req "uri" str, req "name" str]

/-- The parameters of `initialize`. -/
def initializeParams : Schema :=
  protocolRecord "InitializeParams"
    [opt "workDoneToken" (.pointer .token),
     req "processId" int32,
     opt "clientInfo" clientInfo,
     opt "locale" str,
     opt "rootPath" str,
     opt "rootUri" uriText,
     opt "initializationOptions" .dynamic,
     req "capabilities" clientCapabilities,
     opt "trace" (.text "protocol.TraceValue"),
     opt "workspaceFolders" (.list "[]protocol.WorkspaceFolder" workspaceFolder)]

/-- The parameters of `initialized`. -/
def initializedParams : Schema := protocolRecord "InitializedParams" []

/-- The parameters of `workspace/didChangeConfiguration`. -/
def didChangeConfigurationParams : Schema :=
  protocolRecord "DidChangeConfigurationParams" [opt "settings" .dynamic]

/-- A document with its text. -/
def textDocumentItem : Schema :=
  protocolRecord "TextDocumentItem"
    [req "uri" uriText, req "languageId" (.text "protocol.LanguageIdentifier"),
     req "version" int32, req "text" str]

/-- The parameters of `textDocument/didOpen`. -/
def didOpenParams : Schema :=
  protocolRecord "DidOpenTextDocumentParams" [req "textDocument" textDocumentItem]

/-- A document at a version. -/
def versionedDocument : Schema :=
  protocolRecord "VersionedTextDocumentIdentifier" [req "uri" uriText, req "version" int32]

/-- One change of a document's content. -/
def contentChange : Schema :=
  protocolRecord "TextDocumentContentChangeEvent"
    [opt "range" (.pointer range), opt "rangeLength" uint32, req "text" str]

/-- The parameters of `textDocument/didChange`. -/
def didChangeParams : Schema :=
  protocolRecord "DidChangeTextDocumentParams"
    [req "textDocument" versionedDocument,
     req "contentChanges"
       (.list "[]protocol.TextDocumentContentChangeEvent" contentChange)]

/-- A document named by its URI. -/
def documentIdentifier : Schema := protocolRecord "TextDocumentIdentifier" [req "uri" uriText]

/-- The parameters of `textDocument/didClose`. -/
def didCloseParams : Schema :=
  protocolRecord "DidCloseTextDocumentParams" [req "textDocument" documentIdentifier]

/-- The parameters of `workspace/executeCommand` with each argument kept as its text. -/
def executeCommandParams : Schema :=
  .record
    "struct \x7b Command string \"json:\\\"command\\\"\"; Arguments []jsontext.Value \"json:\\\"arguments,omitempty\\\"\" \x7d"
    "" [req "command" str, opt "arguments" (.list "[]jsontext.Value" .raw)]

/-- The per-session options an editor sends in `initializationOptions`. -/
def initializationOptions : Schema :=
  .record "sessionconfig.InitializationOptions" "InitializationOptions"
    [opt "host" (.pointer str), opt "environment" (.pointer str),
     opt "workspaceRoot" (.pointer str), opt "backend" (.pointer str),
     opt "autoInstall" (.pointer .flag), opt "notifyOnStart" (.pointer .flag),
     opt "allowPrompt" (.pointer .flag)]

end RemoteLsp.Lsp
