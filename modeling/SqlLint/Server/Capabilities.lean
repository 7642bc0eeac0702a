import SqlLint.Json.Shape

/-!
# What an editor can do

An editor tells the service at the start what it can do.  The service makes no use of that, but
takes it only if it is well formed, which `Capabilities.shape` describes.
-/

namespace SqlLint.Capabilities

open Shape

/-! ## Parts -/

/-- A group of flags of which one says that the editor can be asked for more later on. -/
def dynamic (names : List String) : Shape := flags ("dynamicRegistration" :: names)

/-- The fields of a feature that can be asked for later on, with more of its own. -/
def feature (fields : List (String × Shape)) : Shape :=
  options (("dynamicRegistration", .flag) :: fields)

/-- A set of values that may be left out. -/
def valueSet (item : Shape) : Shape := options [("valueSet", .list item)]

/-- A set of values. -/
def givenSet (item : Shape) : Shape := .record [need "valueSet" (.list item)]

/-- The properties that the editor asks for when it needs them. -/
def resolved : Shape := .record [need "properties" (.list .text)]

/-- The kinds of formatted texts. -/
def markup : Shape := .list (.word ["plaintext", "markdown"])

/-- The tags that the editor knows; older editors only say whether they know any. -/
def tags : String × Need × Shape := ("tagSupport", .missable, .either .flag (givenSet .number))

/-- A feature with links. -/
def linked : Shape := dynamic ["linkSupport"]

/-- Whether the editor can be told to ask again. -/
def refreshed : Shape := flags ["refreshSupport"]

/-! ## Groups -/

/-- What the editor can do with the workspace. -/
def workspace : Shape :=
  options [
    ("applyEdit", .flag),
    ("workspaceEdit", options [
      ("documentChanges", .flag),
      ("resourceOperations", .list (.word ["create", "rename", "delete"])),
      ("failureHandling", .word ["abort", "transactional", "textOnlyTransactional", "undo"]),
      ("normalizesLineEndings", .flag),
      ("changeAnnotationSupport", flags ["groupsOnLabel"])]),
    ("didChangeConfiguration", dynamic []),
    ("didChangeWatchedFiles", dynamic ["relativePatternSupport"]),
    ("symbol", .record [
      field "dynamicRegistration" .flag, field "symbolKind" (valueSet .number), tags,
      field "resolveSupport" resolved]),
    ("executeCommand", dynamic []),
    ("workspaceFolders", .flag),
    ("configuration", .flag),
    ("semanticTokens", refreshed),
    ("codeLens", refreshed),
    ("fileOperations", dynamic [
      "didCreate", "willCreate", "didRename", "willRename", "didDelete", "willDelete"]),
    ("inlineValue", refreshed),
    ("inlayHint", refreshed),
    ("diagnostic", refreshed)]

/-- What the editor can do with an item of a list of completions. -/
def completionItem : Shape :=
  .record [
    field "snippetSupport" .flag, field "commitCharactersSupport" .flag,
    field "documentationFormat" markup, field "deprecatedSupport" .flag,
    field "preselectSupport" .flag, tags, field "insertReplaceSupport" .flag,
    field "resolveSupport" resolved, field "insertTextModeSupport" (givenSet .number),
    field "labelDetailsSupport" .flag]

/-- What the editor can do with completions. -/
def completion : Shape :=
  feature [
    ("completionItem", completionItem), ("completionItemKind", valueSet .number),
    ("contextSupport", .flag), ("insertTextMode", .number),
    ("completionList", options [("itemDefaults", .list .text)])]

/-- What the editor can do with the meanings of words. -/
def semanticTokens : Shape :=
  .record [
    field "dynamicRegistration" .flag,
    need "requests" (options [
      ("range", .flag), ("full", .either .flag (.named [field "delta" .flag]))]),
    need "tokenTypes" (.list .text), need "tokenModifiers" (.list .text),
    need "formats" (.list .text),
    field "overlappingTokenSupport" .flag, field "multilineTokenSupport" .flag,
    field "serverCancelSupport" .flag, field "augmentsSyntaxTokens" .flag]

/-- What the editor can do with quick fixes. -/
def codeAction : Shape :=
  feature [
    ("codeActionLiteralSupport", .record [need "codeActionKind" (givenSet .text)]),
    ("isPreferredSupport", .flag), ("disabledSupport", .flag), ("dataSupport", .flag),
    ("resolveSupport", resolved), ("honorsChangeAnnotations", .flag)]

/-- What the editor can do with a document. -/
def textDocument : Shape :=
  options [
    ("synchronization", dynamic ["willSave", "willSaveWaitUntil", "didSave"]),
    ("completion", completion),
    ("hover", feature [("contentFormat", markup)]),
    ("signatureHelp", feature [
      ("signatureInformation", options [
        ("documentationFormat", markup),
        ("parameterInformation", flags ["labelOffsetSupport"]),
        ("activeParameterSupport", .flag)]),
      ("contextSupport", .flag)]),
    ("references", dynamic []),
    ("documentHighlight", dynamic []),
    ("documentSymbol", .record [
      field "dynamicRegistration" .flag, field "symbolKind" (valueSet .number),
      field "hierarchicalDocumentSymbolSupport" .flag, tags]),
    ("formatting", dynamic []),
    ("rangeFormatting", dynamic []),
    ("onTypeFormatting", dynamic []),
    ("declaration", linked),
    ("definition", linked),
    ("typeDefinition", linked),
    ("implementation", linked),
    ("codeAction", codeAction),
    ("codeLens", dynamic []),
    ("documentLink", dynamic ["tooltipSupport"]),
    ("colorProvider", dynamic []),
    ("rename", feature [
      ("prepareSupport", .flag), ("prepareSupportDefaultBehavior", .number),
      ("honorsChangeAnnotations", .flag)]),
    ("publishDiagnostics", .record [
      field "relatedInformation" .flag, tags, field "versionSupport" .flag,
      field "codeDescriptionSupport" .flag, field "dataSupport" .flag]),
    ("foldingRange", feature [
      ("rangeLimit", .count), ("lineFoldingOnly", .flag),
      ("foldingRangeKind", valueSet (.word ["comment", "imports", "region"])),
      ("foldingRange", flags ["collapsedText"])]),
    ("selectionRange", dynamic []),
    ("linkedEditingRange", dynamic []),
    ("callHierarchy", dynamic []),
    ("semanticTokens", semanticTokens),
    ("moniker", dynamic []),
    ("typeHierarchy", dynamic []),
    ("inlineValue", dynamic []),
    ("inlayHint", feature [("resolveSupport", resolved)]),
    ("diagnostic", dynamic ["relatedDocumentSupport"])]

/-- What the editor can do with its window. -/
def window : Shape :=
  options [
    ("workDoneProgress", .flag),
    ("showMessage", options [("messageActionItem", flags ["additionalPropertiesSupport"])]),
    ("showDocument", .record [need "support" .flag])]

/-- What the editor can do in general. -/
def general : Shape :=
  options [
    ("regularExpressions", .record [need "engine" .text, field "version" .text]),
    ("markdown", .record [
      need "parser" .text, field "version" .text, field "allowedTags" (.list .text)]),
    ("staleRequestSupport", .record [
      need "cancel" .flag, need "retryOnContentModified" (.list .text)]),
    ("positionEncodings", .list .text)]

/-- What an editor says that it can do. -/
def shape : Shape :=
  options [
    ("workspace", workspace), ("textDocument", textDocument), ("window", window),
    ("general", general), ("experimental", .any)]

end SqlLint.Capabilities
