import SubversionR.Daemon.State

/-!
# Daemon parameters — what the remaining requests may say

The parameter readers of the daemon's `state.rs` for the requests that read contents, properties and
history, check out a working copy, discover working copies or run an operation.  A reader reports
the name of the first field it rejects.  The readers of the operations all have one shape (an object
with a fixed set of keys, version 1, then one check after the other), so each of them is its list of
checks; `revert_options` alone lets unknown keys pass.

* `remotePreflightUrls` — the URLs an operation of some kind would contact.
-/

namespace SubversionR

open JsonValues

/-! ## Values -/

/-- `Path::new(path).is_absolute()` on Windows: a path below a drive root, or a path with one of the
prefixes that start with two separators. -/
def isAbsoluteWindows (path : Text) : Bool :=
  let separator : Char → Bool := fun c => c == '/' || c == '\\'
  match path with
  | first :: second :: rest =>
    if separator first && separator second then
      let named (mark : Char) : Bool :=
        decide (rest.head? = some mark) && (rest.drop 1).head?.any separator
      if named '?' && decide ('/' ∉ path.take 8) then true
      else if named '.' then true
      else
        let server := rest.takeWhile fun c => !separator c
        let share := ((rest.drop server.length).drop 1).takeWhile fun c => !separator c
        decide (server ≠ []) && decide (share ≠ [])
    else first.isAlpha && second == ':' && rest.head?.any separator
  | _ => false

/-- `Path::new(path).is_absolute()`. -/
def isAbsoluteRustPath (platform : Platform) (path : Text) : Bool :=
  match platform with
  | .posix => decide (path.head? = some '/')
  | .windows => isAbsoluteWindows path

/-- `string_param` with a filter on the text. -/
def stringParamWith (value : Json) (field : String) (test : Text → Bool) : Option Text :=
  match value.prop field with
  | some (.str text) => if Text.nonBlankRust text && test text then some text else none
  | _ => none

/-- `Value::as_str` with a filter on the text. -/
def textValue (value : Json) (field : String) (test : Text → Bool) : Bool :=
  match value.prop field with
  | some (.str text) => test text
  | _ => false

def boolParam (value : Json) (field : String) : Option Bool :=
  match value.prop field with
  | some (.bool b) => some b
  | _ => none

def u64Param (value : Json) (field : String) : Option Nat :=
  match value.prop field with
  | some (.int n) => if 0 ≤ n ∧ n < 2 ^ 64 then some n.toNat else none
  | _ => none

/-- `string_array_param_inner`: every text is trimmed. -/
def stringArrayParam (params : Json) (field : String) (allowEmpty : Bool) : Option (List Text) :=
  match params.prop field with
  | some (.arr values) =>
    let texts := values.mapM fun
      | .str text =>
        if Text.nonBlankRust text then some (Text.trimMatches Text.rustWhitespace text) else none
      | _ => none
    texts.bind fun texts => if allowEmpty || decide (texts ≠ []) then some texts else none
  | _ => none

/-- `string_array_value`: the texts are kept as they are. -/
def stringArrayValue (value : Option Json) (allowEmpty : Bool) : Option (List Text) :=
  match value with
  | some (.arr values) =>
    let texts := values.mapM fun
      | .str text => if Text.nonBlankRust text then some text else none
      | _ => none
    texts.bind fun texts => if allowEmpty || decide (texts ≠ []) then some texts else none
  | _ => none

/-! ## Texts -/

/-- `MAX_SVN_REVNUM`. -/
def maxSvnRevnum : Nat := 2147483647

/-- `valid_revision_number_text`. -/
def validRevisionNumberText (number : Text) : Bool :=
  if number = [] ∨ (1 < number.length ∧ number.head? = some '0') then false
  else number.all Char.isDigit
    && decide (number.foldl (fun n c => 10 * n + (c.toNat - 48)) 0 ≤ maxSvnRevnum)

/-- `valid_numbered_revision`. -/
def validNumberedRevision : Text → Bool
  | 'r' :: number => validRevisionNumberText number
  | _ => false

/-- `valid_content_revision`. -/
def validContentRevision (revision : Text) : Bool :=
  revision = "base" || revision = "head" || validNumberedRevision revision

def withoutBackslash (path : Text) : Bool := decide ('\\' ∉ path)

/-- `valid_update_path`, `valid_property_path`, `valid_commit_path` and `valid_history_path`. -/
def validPathOrRoot (path : Text) : Bool :=
  path = "." || (withoutBackslash path && validRepositoryRelativePath path)

/-- `valid_lock_path`, `valid_move_path` and `valid_blame_path`. -/
def validPathBelowRoot (path : Text) : Bool :=
  path ≠ "." && withoutBackslash path && validRepositoryRelativePath path

/-- `valid_changelist_path` and the filter of `property_path_param`. -/
def validSlashPath (path : Text) : Bool := withoutBackslash path && validRepositoryRelativePath path

/-- `valid_checkout_url` and `valid_branch_url`. -/
def validUrlText (url : Text) : Bool :=
  url.nonBlankRust && decide ('\x00' ∉ url) && decide ('\r' ∉ url) && decide ('\n' ∉ url)

/-- `valid_checkout_target_path`. -/
def validCheckoutTargetPath (platform : Platform) (path : Text) : Bool :=
  path.nonBlankRust && decide ('\x00' ∉ path) && isAbsoluteRustPath platform path

/-- `valid_changelist_name`. -/
def validChangelistName (name : Text) : Bool := validUrlText name

/-- `valid_commit_message` and `valid_lock_comment`. -/
def validMessage (message : Text) : Bool :=
  message.nonBlankRust && decide ('\x00' ∉ message) && decide ('\r' ∉ message)

/-- `valid_property_value`. -/
def validPropertyValue (value : Text) : Bool := decide ('\x00' ∉ value) && decide ('\r' ∉ value)

/-- `valid_property_name`. -/
def validPropertyName (name : Text) : Bool :=
  validUrlText name && (name.splitOn ':').all fun part =>
    decide (part ≠ []) && part.all fun c =>
      (c.toNat < 128) && (c.isAlphanum || c == '.' || c == '-' || c == '_')

/-- The four depths of `valid_checkout_depth`. -/
def validCheckoutDepth (depth : Text) : Bool :=
  decide (depth ∈ ([("empty" : Text), ("files" : Text), ("immediates" : Text),
    ("infinity" : Text)] : List Text))

/-- `valid_update_depth`. -/
def validUpdateDepth (depth : Text) : Bool := depth = "workingCopy" || validCheckoutDepth depth

/-- `valid_resolve_choice`. -/
def validResolveChoice (choice : Text) : Bool :=
  decide (choice ∈ ([("working" : Text), ("base" : Text), ("mineFull" : Text),
    ("theirsFull" : Text),
    ("mineConflict" : Text), ("theirsConflict" : Text)] : List Text))

/-- `update_revision_value`. -/
def updateRevisionValue : Option Json → Bool
  | some (.str text) => text = "head"
  | some (.int n) => decide (0 ≤ n ∧ n ≤ maxSvnRevnum)
  | _ => false

/-- `merge_revision_value`. -/
def mergeRevisionValue : Option Json → Option Int
  | some (.int n) => if 0 ≤ n ∧ n ≤ maxSvnRevnum then some n else none
  | _ => none

/-! ## Lists of checks -/

/-- One check on an object, with the field that is reported when it fails. -/
structure FieldCheck where
  field : Text
  test : Json → Bool

namespace FieldCheck

/-- The first failing check decides the answer. -/
def runAll (checks : List FieldCheck) (value : Json) : Except Text Unit :=
  match checks.find? fun check => !check.test value with
  | some check => .error check.field
  | none => .ok ()

/-- `field` is a text that passes `test`; `scope` is put in front of the reported name. -/
def text (scope : Text) (field : String) (test : Text → Bool) : FieldCheck :=
  ⟨scope ++ field.toList, fun value => textValue value field test⟩

/-- `field` is a text that is not blank and passes `test`. -/
def stringParam (field : String) (test : Text → Bool) : FieldCheck :=
  ⟨field.toList, fun value => (stringParamWith value field test).isSome⟩

def bool (scope : Text) (field : String) : FieldCheck :=
  ⟨scope ++ field.toList, fun value => (boolParam value field).isSome⟩

/-- `field` is `false`. -/
def isFalse (scope : Text) (field : String) : FieldCheck :=
  ⟨scope ++ field.toList, fun value => boolParam value field = some false⟩

/-- `field` is a number in a range. -/
def number (field : String) (low high : Nat) : FieldCheck :=
  ⟨field.toList, fun value => (u64Param value field).any fun n => low ≤ n && n ≤ high⟩

/-- `paths` is a list of at least one text, each of which passes `test`. -/
def paths (test : Text → Bool) : FieldCheck :=
  ⟨"options.paths", fun value =>
    (stringArrayValue (value.prop "paths") false).any fun paths => paths.all test⟩

/-- The list of paths has one element. -/
def onePath : FieldCheck :=
  ⟨"options.paths", fun value =>
    (stringArrayValue (value.prop "paths") false).any fun paths => paths.length = 1⟩

/-- No path is given twice (`has_duplicate_strings`). -/
def distinctPaths : FieldCheck :=
  ⟨"options.paths", fun value =>
    (stringArrayValue (value.prop "paths") false).any fun paths => decide paths.Nodup⟩

/-- `changelist_array_value`. -/
def changelists : FieldCheck :=
  ⟨"options.changelists", fun value =>
    (stringArrayValue (value.prop "changelists") true).any fun names =>
      names.all validChangelistName && decide names.Nodup⟩

def revision (field : String) : FieldCheck :=
  ⟨"options." ++ field.toList, fun value => updateRevisionValue (value.prop field)⟩

/-- A sticky depth needs a depth of its own. -/
def stickyDepth : FieldCheck :=
  ⟨"options.depthIsSticky", fun value =>
    !(textValue value "depth" (fun depth => depth = "workingCopy")
      && boolParam value "depthIsSticky" = some true)⟩

/-- Two texts of the object differ. -/
def differ (field other : String) : FieldCheck :=
  ⟨"options." ++ field.toList, fun value =>
    !(textValue value field fun text => textValue value other fun text' => text = text')⟩

end FieldCheck

/-! ## Reading and history -/

/-- `content_path_param` and `content_revision_param`. -/
def contentGetChecks : List FieldCheck :=
  [.stringParam "path" (fun path => path ≠ "." && validRepositoryRelativePath path),
   .stringParam "revision" validContentRevision]

/-- `property_path_param`. -/
def propertiesListChecks : List FieldCheck := [.stringParam "path" validSlashPath]

/-- `history_log_request`. -/
def historyLogChecks : List FieldCheck :=
  [.stringParam "path" validPathOrRoot,
   .stringParam "startRevision" (fun revision =>
     revision = "head" || validNumberedRevision revision),
   .stringParam "endRevision" validNumberedRevision,
   .number "limit" 1 500,
   .bool [] "discoverChangedPaths",
   .bool [] "strictNodeHistory",
   .bool [] "includeMergedRevisions"]

/-- `history_blame_request`. -/
def historyBlameChecks : List FieldCheck :=
  let pegOrEnd : Text → Bool := fun revision =>
    revision = "base" || revision = "head" || validNumberedRevision revision
  [.stringParam "path" validPathBelowRoot,
   .stringParam "pegRevision" pegOrEnd,
   .stringParam "startRevision" validNumberedRevision,
   .stringParam "endRevision" pegOrEnd,
   .number "lineStart" 1 (2 ^ 63 - 1),
   .number "lineLimit" 1 5000,
   .stringParam "ignoreWhitespace" (fun value =>
     value = "none" || value = "change" || value = "all"),
   .bool [] "ignoreEolStyle",
   .bool [] "ignoreMimeType",
   .bool [] "includeMergedRevisions"]

/-! ## Checkout -/

structure RepositoryCheckoutRequest where
  url : Text
  targetPath : Text

/-- `repository_checkout_request`; of the request the URL and the target are kept. -/
def repositoryCheckoutRequest (platform : Platform) (params : Json) :
    Except Text RepositoryCheckoutRequest :=
  match unexpectedParam params
    ["url", "targetPath", "revision", "depth", "ignoreExternals", "remote"] with
  | some field => .error field
  | none =>
    match stringParamWith params "url" validUrlText with
    | none => .error "url"
    | some url =>
      match stringParamWith params "targetPath" (validCheckoutTargetPath platform) with
      | none => .error "targetPath"
      | some targetPath =>
        match FieldCheck.runAll
          [⟨"revision", fun value => updateRevisionValue (value.prop "revision")⟩,
           .stringParam "depth" validCheckoutDepth,
           .bool [] "ignoreExternals"] params with
        | .error field => .error field
        | .ok _ => .ok ⟨url, targetPath⟩

/-! ## Operations -/

inductive OperationKind where
  | revert
  | add
  | remove
  | move
  | resolve
  | cleanup
  | upgrade
  | update
  | propertySet
  | propertyDelete
  | changelistSet
  | changelistClear
  | lock
  | unlock
  | branchCreate
  | switch
  | relocate
  | merge
  | commit
deriving DecidableEq

namespace OperationKind

def word : OperationKind → Text
  | revert => "revert"
  | add => "add"
  | remove => "remove"
  | move => "move"
  | resolve => "resolve"
  | cleanup => "cleanup"
  | upgrade => "upgrade"
  | update => "update"
  | propertySet => "propertySet"
  | propertyDelete => "propertyDelete"
  | changelistSet => "changelistSet"
  | changelistClear => "changelistClear"
  | lock => "lock"
  | unlock => "unlock"
  | branchCreate => "branchCreate"
  | switch => "switch"
  | relocate => "relocate"
  | merge => "merge"
  | commit => "commit"

def all : List OperationKind :=
  [revert, add, remove, move, resolve, cleanup, upgrade, update, propertySet, propertyDelete,
   changelistSet, changelistClear, lock, unlock, branchCreate, switch, relocate, merge, commit]

def ofText? (kind : Text) : Option OperationKind := all.find? fun k => decide (k.word = kind)

end OperationKind

/-- The common part of the option readers: an object with the given keys, version 1, the checks. -/
def operationOptions (keys : List String) (checks : List FieldCheck) (params : Json) :
    Except Text Json :=
  match params.prop "options" with
  | some (.obj fields) =>
    match unexpectedParam (.obj fields) ("version" :: keys) with
    | some key => .error ("options." ++ key)
    | none =>
      if u64Param (.obj fields) "version" ≠ some 1 then .error "options.version"
      else (FieldCheck.runAll checks (.obj fields)).map fun _ => .obj fields
  | _ => .error "options"

/-- `revert_options`: unknown keys are let pass. -/
def revertOptions (params : Json) : Except Text Json :=
  match params.prop "options" with
  | some (.obj fields) =>
    if u64Param (.obj fields) "version" ≠ some 1 then .error "options.version"
    else (FieldCheck.runAll
      [.paths validRepositoryRelativePath, .text "options." "depth" validCheckoutDepth,
        .changelists,
       .bool "options." "clearChangelists", .bool "options." "metadataOnly",
       .bool "options." "addedKeepLocal"] (.obj fields)).map fun _ => .obj fields
  | _ => .error "options"

def addOptions : Json → Except Text Json :=
  operationOptions ["paths", "depth", "force", "noIgnore", "noAutoprops", "addParents"]
    [.paths validRepositoryRelativePath, .onePath, .text "options." "depth" validCheckoutDepth,
     .bool "options." "force", .bool "options." "noIgnore", .bool "options." "noAutoprops",
     .bool "options." "addParents"]

def removeOptions : Json → Except Text Json :=
  operationOptions ["paths", "force", "keepLocal"]
    [.paths validRepositoryRelativePath, .distinctPaths, .bool "options." "force",
     .bool "options." "keepLocal"]

def moveOptions : Json → Except Text Json :=
  operationOptions ["sourcePath", "destinationPath", "makeParents"]
    [.text "options." "sourcePath" validPathBelowRoot,
     .text "options." "destinationPath" validPathBelowRoot,
     .differ "destinationPath" "sourcePath", .bool "options." "makeParents"]

def resolveOptions : Json → Except Text Json :=
  operationOptions ["paths", "depth", "choice"]
    [.paths validRepositoryRelativePath, .onePath,
     .text "options." "depth" (fun depth => depth = "empty"),
     .text "options." "choice" validResolveChoice]

def cleanupOptions : Json → Except Text Json :=
  operationOptions ["path", "breakLocks", "fixRecordedTimestamps", "clearDavCache",
      "vacuumPristines", "includeExternals"]
    [.text "options." "path" (fun path => path = "."), .bool "options." "breakLocks",
     .bool "options." "fixRecordedTimestamps", .bool "options." "clearDavCache",
     .bool "options." "vacuumPristines", .bool "options." "includeExternals"]

def upgradeOptions : Json → Except Text Json :=
  operationOptions ["path"] [.text "options." "path" (fun path => path = ".")]

def updateOptions : Json → Except Text Json :=
  operationOptions ["path", "revision", "depth", "depthIsSticky", "ignoreExternals"]
    [.text "options." "path" validPathOrRoot, .revision "revision",
     .text "options." "depth" validUpdateDepth, .bool "options." "depthIsSticky", .stickyDepth,
     .bool "options." "ignoreExternals"]

def propertySetOptions : Json → Except Text Json :=
  operationOptions ["path", "name", "value"]
    [.text "options." "path" validPathOrRoot, .text "options." "name" validPropertyName,
     .text "options." "value" validPropertyValue]

def propertyDeleteOptions : Json → Except Text Json :=
  operationOptions ["path", "name"]
    [.text "options." "path" validPathOrRoot, .text "options." "name" validPropertyName]

def changelistSetOptions : Json → Except Text Json :=
  operationOptions ["paths", "depth", "changelist", "changelists"]
    [.paths validSlashPath, .distinctPaths, .text "options." "depth" validCheckoutDepth,
     .text "options." "changelist" validChangelistName, .changelists]

def changelistClearOptions : Json → Except Text Json :=
  operationOptions ["paths", "depth", "changelists"]
    [.paths validSlashPath, .distinctPaths, .text "options." "depth" validCheckoutDepth,
     .changelists]

/-- The comment may be `null`. -/
def lockOptions : Json → Except Text Json :=
  operationOptions ["paths", "comment", "stealLock"]
    [.paths validPathBelowRoot, .distinctPaths,
     ⟨"options.comment", fun options =>
       match options.prop "comment" with
       | some .null => true
       | some (.str comment) => validMessage comment
       | _ => false⟩,
     .bool "options." "stealLock"]

def unlockOptions : Json → Except Text Json :=
  operationOptions ["paths", "breakLock"]
    [.paths validPathBelowRoot, .distinctPaths, .bool "options." "breakLock"]

def branchCreateOptions : Json → Except Text Json :=
  operationOptions ["sourceUrl", "destinationUrl", "revision", "message", "makeParents",
      "ignoreExternals"]
    [.text "options." "sourceUrl" validUrlText, .text "options." "destinationUrl" validUrlText,
     .differ "destinationUrl" "sourceUrl", .revision "revision",
     .text "options." "message" validMessage, .bool "options." "makeParents",
     .bool "options." "ignoreExternals"]

def switchOptions : Json → Except Text Json :=
  operationOptions ["path", "url", "revision", "depth", "depthIsSticky", "ignoreExternals",
      "ignoreAncestry"]
    [.text "options." "path" validPathOrRoot, .text "options." "url" validUrlText,
     .revision "revision", .text "options." "depth" validUpdateDepth,
     .bool "options." "depthIsSticky", .stickyDepth, .bool "options." "ignoreExternals",
     .bool "options." "ignoreAncestry"]

def relocateOptions : Json → Except Text Json :=
  operationOptions ["fromUrl", "toUrl", "ignoreExternals"]
    [.text "options." "fromUrl" validUrlText, .text "options." "toUrl" validUrlText,
     .differ "toUrl" "fromUrl", .bool "options." "ignoreExternals"]

def mergeOptions : Json → Except Text Json :=
  operationOptions ["sourceUrl", "targetPath", "startRevision", "endRevision", "depth",
      "ignoreMergeinfo", "diffIgnoreAncestry", "forceDelete", "recordOnly", "dryRun",
      "allowMixedRevisions"]
    [.text "options." "sourceUrl" validUrlText, .text "options." "targetPath" validPathOrRoot,
     ⟨"options.startRevision", fun options =>
       (mergeRevisionValue (options.prop "startRevision")).isSome⟩,
     ⟨"options.endRevision", fun options =>
       (mergeRevisionValue (options.prop "endRevision")).isSome⟩,
     ⟨"options.endRevision", fun options =>
       decide (mergeRevisionValue (options.prop "startRevision")
         ≠ mergeRevisionValue (options.prop "endRevision"))⟩,
     .text "options." "depth" validCheckoutDepth, .bool "options." "ignoreMergeinfo",
     .bool "options." "diffIgnoreAncestry", .bool "options." "forceDelete",
     .bool "options." "recordOnly", .bool "options." "dryRun",
     .bool "options." "allowMixedRevisions"]

def commitOptions : Json → Except Text Json :=
  operationOptions ["paths", "message", "depth", "changelists", "keepLocks", "keepChangelists",
      "commitAsOperations", "includeFileExternals", "includeDirExternals"]
    [.text "options." "message" validMessage, .changelists, .paths validPathOrRoot, .distinctPaths,
     .text "options." "depth" (fun depth => depth = "empty"), .isFalse "options." "keepLocks",
     .isFalse "options." "keepChangelists", .isFalse "options." "commitAsOperations",
     .isFalse "options." "includeFileExternals", .isFalse "options." "includeDirExternals"]

/-- The options reader of each kind. -/
def OperationKind.options : OperationKind → Json → Except Text Json
  | .revert => revertOptions
  | .add => addOptions
  | .remove => removeOptions
  | .move => moveOptions
  | .resolve => resolveOptions
  | .cleanup => cleanupOptions
  | .upgrade => upgradeOptions
  | .update => updateOptions
  | .propertySet => propertySetOptions
  | .propertyDelete => propertyDeleteOptions
  | .changelistSet => changelistSetOptions
  | .changelistClear => changelistClearOptions
  | .lock => lockOptions
  | .unlock => unlockOptions
  | .branchCreate => branchCreateOptions
  | .switch => switchOptions
  | .relocate => relocateOptions
  | .merge => mergeOptions
  | .commit => commitOptions

/-- The text of an option the reader has accepted. -/
def optionText (options : Json) (field : String) : Text :=
  match options.prop field with
  | some (.str text) => text
  | _ => []

/-- The URLs an operation contacts, the repository's own first; `none` for a local operation. -/
def remotePreflightUrls (kind : OperationKind) (repositoryRootUrl : Text) (options : Json) :
    Option (List Text) :=
  match kind with
  | .update | .lock | .unlock | .commit => some [repositoryRootUrl]
  | .branchCreate =>
    some [repositoryRootUrl, optionText options "sourceUrl", optionText options "destinationUrl"]
  | .switch => some [repositoryRootUrl, optionText options "url"]
  | .relocate =>
    some [repositoryRootUrl, optionText options "fromUrl", optionText options "toUrl"]
  | .merge => some [repositoryRootUrl, optionText options "sourceUrl"]
  | _ => none

end SubversionR
