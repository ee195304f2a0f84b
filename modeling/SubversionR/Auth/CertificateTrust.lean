import SubversionR.Lib.Json
import SubversionR.Auth.Hash

/-!
# Certificate trust — concurrent requests and the prompts they share

The daemon asks the extension whether a server certificate is to be trusted.  The controller answers
from a record in secret storage, or from a prompt; requests with the same prompt key share one
prompt.  Every await of `handleCertificateTrustRequest` and `promptForCertificateTrust` ends at a
moment of its own, so the model has one event for each piece of code between two awaits.

* `entry`, `afterRead`, `afterDecision` — those pieces, as functions;
* `TrustCall`, `TrustPrompt` — where a request and a prompt stand;
* `TrustSystem.step` — one event.

A record in secret storage is the value `JSON.parse` makes of it, if it makes one.
-/

namespace SubversionR

open JsonValues

/-! ## Requests and responses -/

inductive RequestOrigin where
  | foreground
  | background
deriving DecidableEq

/-- A `CertificateTrustRequest`, without the dates and names that only the prompt reads. -/
structure CertificateTrustRequest where
  requestId : Text
  realm : Text
  host : Text
  fingerprint : Text
  fingerprintAlgorithm : Text
  failures : List Text
  interactive : Bool
  persistenceAllowed : Bool
  origin : RequestOrigin
  timeoutMs : Int
deriving DecidableEq

/-- The picks of the user that trust the certificate. -/
inductive CertificateTrust where
  | once
  | permanent
deriving DecidableEq

structure CertificateTrustError where
  code : Text
  category : Text
  messageKey : Text
  realmHash : Text
  fingerprint : Text
  fingerprintAlgorithm : Text
  failureCount : Nat
  origin : RequestOrigin
deriving DecidableEq

inductive CertificateTrustResponse where
  | trust (requestId : Text) (certificateTrust : CertificateTrust)
      (fingerprint fingerprintAlgorithm : Text)
  | reject (requestId : Text) (error : CertificateTrustError)
deriving DecidableEq

namespace CertificateTrustResponse

def isTrust : CertificateTrustResponse → Bool
  | .trust .. => true
  | .reject .. => false

def withRequestId (response : CertificateTrustResponse) (requestId : Text) :
    CertificateTrustResponse :=
  match response with
  | .trust _ certificateTrust fingerprint algorithm =>
    .trust requestId certificateTrust fingerprint algorithm
  | .reject _ error => .reject requestId error

end CertificateTrustResponse

def supportedFingerprintAlgorithm : Text := "sha256-der"

namespace CertificateTrustRequest

def realmHash (hash : TextHash) (request : CertificateTrustRequest) : Text :=
  hash.hex (("certificate" : Text) ++ '\x00' :: request.realm)

def certificateTrustStorageKey (hash : TextHash) (request : CertificateTrustRequest) : Text :=
  ("subversionr.certificateTrust.v1." : Text) ++ request.realmHash hash

def certificatePromptKey (hash : TextHash) (request : CertificateTrustRequest) : Text :=
  request.certificateTrustStorageKey hash ++ '\x00' :: (request.fingerprintAlgorithm ++
    '\x00' :: (request.fingerprint ++ '\x00' ::
      (if request.persistenceAllowed then "true" else "false" : Text)))

def trust (request : CertificateTrustRequest) (certificateTrust : CertificateTrust) :
    CertificateTrustResponse :=
  .trust request.requestId certificateTrust request.fingerprint request.fingerprintAlgorithm

def reject (hash : TextHash) (request : CertificateTrustRequest) (code category messageKey : Text) :
    CertificateTrustResponse :=
  .reject request.requestId
    { code, category, messageKey, realmHash := request.realmHash hash,
      fingerprint := request.fingerprint, fingerprintAlgorithm := request.fingerprintAlgorithm,
      failureCount := request.failures.length, origin := request.origin }

/-- No prompt may be shown. -/
def isSilent (request : CertificateTrustRequest) : Bool :=
  !request.interactive || decide (request.origin = .background)

end CertificateTrustRequest

/-! ## Records -/

/-- A text in secret storage: what `JSON.parse` makes of it, `none` if it throws. -/
abbrev StoredText := Option Json

structure StoredCertificateTrust where
  fingerprint : Text
  fingerprintAlgorithm : Text
  trustedAt : Text

namespace StoredCertificateTrust

/-- The record the controller accepts. -/
def ofStored (stored : StoredText) : Option StoredCertificateTrust :=
  match stored with
  | none => none
  | some json =>
    match json.prop "version", json.prop "fingerprint", json.prop "fingerprintAlgorithm",
      json.prop "trustedAt" with
    | some (.int 1), some (.str fingerprint), some (.str algorithm), some (.str trustedAt) =>
      if algorithm = supportedFingerprintAlgorithm then some ⟨fingerprint, algorithm, trustedAt⟩
      else none
    | _, _, _, _ => none

/-- The record the controller writes. -/
def toStored (record : StoredCertificateTrust) : StoredText :=
  some (.obj [("version", .int 1), ("fingerprint", .str record.fingerprint),
    ("fingerprintAlgorithm", .str record.fingerprintAlgorithm),
    ("trustedAt", .str record.trustedAt)])

end StoredCertificateTrust

/-! ## The pieces of the handler -/

namespace CertificateTrustRequest

/-- `handleCertificateTrustRequest` up to its first await: the response, if it needs none. -/
def entry (hash : TextHash) (request : CertificateTrustRequest) (trusted : Bool) :
    Option CertificateTrustResponse :=
  if trusted = false then
    some (request.reject hash "SUBVERSIONR_CERTIFICATE_UNTRUSTED_WORKSPACE" "lifecycle"
      "error.auth.certificateUntrustedWorkspace")
  else if request.realm.nonBlankJs = false then
    some (request.reject hash "SUBVERSIONR_CERTIFICATE_REALM_REQUIRED" "auth"
      "error.auth.certificateRealmRequired")
  else if request.fingerprintAlgorithm ≠ supportedFingerprintAlgorithm then
    some (request.reject hash "SUBVERSIONR_CERTIFICATE_FINGERPRINT_ALGORITHM_UNSUPPORTED" "auth"
      "error.auth.certificateFingerprintAlgorithmUnsupported")
  else none

/-- The stored certificate is that of the request. -/
def matchesRecord (request : CertificateTrustRequest) (record : StoredCertificateTrust) : Bool :=
  decide (record.fingerprint = request.fingerprint) &&
    decide (record.fingerprintAlgorithm = request.fingerprintAlgorithm)

/-- The piece after the read of the record: the response, or `none` if a prompt is needed. -/
def afterRead (hash : TextHash) (request : CertificateTrustRequest) (raw : Option StoredText) :
    Option CertificateTrustResponse :=
  match raw with
  | none =>
    if request.isSilent then
      some (request.reject hash "SUBVERSIONR_CERTIFICATE_NON_INTERACTIVE" "auth"
        "error.auth.certificateNonInteractive")
    else none
  | some stored =>
    match StoredCertificateTrust.ofStored stored with
    | none =>
      some (request.reject hash "SUBVERSIONR_CERTIFICATE_STORE_INVALID" "auth"
        "error.auth.certificateStoreInvalid")
    | some record =>
      if request.matchesRecord record then some (request.trust .permanent)
      else if request.isSilent then
        some (request.reject hash "SUBVERSIONR_CERTIFICATE_CHANGED" "auth"
          "error.auth.certificateChanged")
      else none

end CertificateTrustRequest

/-- What `withCertificateTimeout` resolves with. -/
inductive PromptResult where
  | timeout
  | dismissed
  | rejected
  | trusted (trust : CertificateTrust)
deriving DecidableEq

/-- What the prompt does with the decision: it answers, or it writes the record first. -/
inductive PromptAnswer where
  | answers (response : CertificateTrustResponse)
  | stores
deriving DecidableEq

/-- `promptForCertificateTrust` after the decision. -/
def CertificateTrustRequest.afterDecision (hash : TextHash) (request : CertificateTrustRequest) :
    PromptResult → PromptAnswer
  | .timeout => .answers (request.reject hash "SUBVERSIONR_CERTIFICATE_TIMEOUT" "auth"
      "error.auth.certificateTimeout")
  | .dismissed => .answers (request.reject hash "SUBVERSIONR_CERTIFICATE_CANCELLED" "auth"
      "error.auth.certificateCancelled")
  | .rejected => .answers (request.reject hash "SUBVERSIONR_CERTIFICATE_REJECTED" "auth"
      "error.auth.certificateRejected")
  | .trusted .permanent =>
    if request.persistenceAllowed then .stores
    else .answers (request.reject hash "SUBVERSIONR_CERTIFICATE_PERSISTENCE_DISALLOWED" "auth"
      "error.auth.certificatePersistenceDisallowed")
  | .trusted .once => .answers (request.trust .once)

/-! ## The system -/

inductive TrustCallStage where
  | absent
  /-- The record is being read. -/
  | reading
  /-- The record was read; the handler has not gone on. -/
  | hasRead (raw : Option StoredText)
  /-- A prompt is awaited; the call that created it removes it afterwards. -/
  | waiting (prompt : Nat) (created : Bool)
  | responded (response : CertificateTrustResponse)
  | threw

structure TrustCall where
  request : CertificateTrustRequest
  stage : TrustCallStage

inductive TrustPromptStage where
  /-- The prompt is shown. -/
  | asking
  /-- The record is being stored; `written` says with what outcome. -/
  | storing (written : Bool)
  | resolved (response : CertificateTrustResponse)
  | rejected

structure TrustPrompt where
  request : CertificateTrustRequest
  stage : TrustPromptStage
  /-- What the user picked. -/
  picked : Option CertificateTrust

structure TrustSystem where
  workspaceTrusted : Bool
  secretStorage : Text → Option StoredText
  pendingInteractivePrompts : Text → Option Nat
  promptCount : Nat
  prompts : Nat → TrustPrompt
  calls : Nat → TrustCall

inductive TrustEvent where
  | workspaceTrust (trusted : Bool)
  | call (n : Nat) (request : CertificateTrustRequest)
  /-- Secret storage looks the record up. -/
  | read (n : Nat)
  | readFails (n : Nat)
  /-- The handler goes on after the read. -/
  | resume (n : Nat)
  /-- The prompt ends and its code goes on; `written` is the outcome of the store, if any. -/
  | decide (prompt : Nat) (result : PromptResult) (written : Bool) (now : Text)
  | promptFails (prompt : Nat)
  /-- The store ends. -/
  | stored (prompt : Nat)
  /-- The handler goes on after the prompt. -/
  | deliver (n : Nat)

namespace TrustSystem

def emptyRequest : CertificateTrustRequest := ⟨[], [], [], [], [], [], false, false, .background, 0⟩

def new (trusted : Bool) (secretStorage : Text → Option StoredText) : TrustSystem where
  workspaceTrusted := trusted
  secretStorage := secretStorage
  pendingInteractivePrompts := fun _ => none
  promptCount := 0
  prompts := fun _ => ⟨emptyRequest, .rejected, none⟩
  calls := fun _ => ⟨emptyRequest, .absent⟩

def setCall (system : TrustSystem) (n : Nat) (stage : TrustCallStage) : TrustSystem :=
  { system with calls := Function.update system.calls n { system.calls n with stage } }

def setPrompt (system : TrustSystem) (p : Nat) (prompt : TrustPrompt) : TrustSystem :=
  { system with prompts := Function.update system.prompts p prompt }

def setPending (system : TrustSystem) (key : Text) (prompt : Option Nat) : TrustSystem :=
  { system with
    pendingInteractivePrompts := Function.update system.pendingInteractivePrompts key prompt }

/-- The prompt of a request: the pending one, or a new one. -/
def awaitPrompt (hash : TextHash) (system : TrustSystem) (n : Nat) : TrustSystem :=
  let request := (system.calls n).request
  let pendingKey := request.certificatePromptKey hash
  match system.pendingInteractivePrompts pendingKey with
  | some prompt => system.setCall n (.waiting prompt false)
  | none =>
    let prompt := system.promptCount
    let system := system.setPrompt prompt ⟨request, .asking, none⟩
    let system := system.setPending pendingKey (some prompt)
    { system.setCall n (.waiting prompt true) with promptCount := prompt + 1 }

/-- The prompt ends: its answer is there, or the record is written first. -/
def decidePrompt (hash : TextHash) (system : TrustSystem) (p : Nat) (result : PromptResult)
    (written : Bool) (now : Text) : TrustSystem :=
  let prompt := system.prompts p
  let picked := match result with
    | .trusted trust => some trust
    | _ => none
  match prompt.request.afterDecision hash result with
  | .answers response => system.setPrompt p { prompt with stage := .resolved response, picked }
  | .stores =>
    let system := system.setPrompt p { prompt with stage := .storing written, picked }
    if written then
      { system with
        secretStorage := Function.update system.secretStorage
          (prompt.request.certificateTrustStorageKey hash)
          (some (StoredCertificateTrust.toStored
            ⟨prompt.request.fingerprint, prompt.request.fingerprintAlgorithm, now⟩)) }
    else system

/-- The handler ends with the prompt; the call that created the prompt removes it. -/
def deliverPrompt (hash : TextHash) (system : TrustSystem) (n p : Nat) (created : Bool)
    (stage : TrustCallStage) : TrustSystem :=
  let pendingKey := (system.calls n).request.certificatePromptKey hash
  let system := system.setCall n stage
  if created && decide (system.pendingInteractivePrompts pendingKey = some p) then
    system.setPending pendingKey none
  else system

def step (hash : TextHash) (system : TrustSystem) : TrustEvent → Option TrustSystem
  | .workspaceTrust trusted => some { system with workspaceTrusted := trusted }
  | .call n request =>
    match (system.calls n).stage with
    | .absent =>
      let stage := match request.entry hash system.workspaceTrusted with
        | some response => .responded response
        | none => .reading
      some { system with calls := Function.update system.calls n ⟨request, stage⟩ }
    | _ => none
  | .read n =>
    match (system.calls n).stage with
    | .reading =>
      let key := (system.calls n).request.certificateTrustStorageKey hash
      some (system.setCall n (.hasRead (system.secretStorage key)))
    | _ => none
  | .readFails n =>
    match (system.calls n).stage with
    | .reading => some (system.setCall n .threw)
    | _ => none
  | .resume n =>
    match (system.calls n).stage with
    | .hasRead raw =>
      match (system.calls n).request.afterRead hash raw with
      | some response => some (system.setCall n (.responded response))
      | none => some (system.awaitPrompt hash n)
    | _ => none
  | .decide p result written now =>
    match (system.prompts p).stage with
    | .asking =>
      -- a prompt without time has ended before the user can answer
      if result = .timeout ∨ 0 < (system.prompts p).request.timeoutMs then
        some (system.decidePrompt hash p result written now)
      else none
    | _ => none
  | .promptFails p =>
    match (system.prompts p).stage with
    | .asking => some (system.setPrompt p { system.prompts p with stage := .rejected })
    | _ => none
  | .stored p =>
    match (system.prompts p).stage with
    | .storing true =>
      some (system.setPrompt p { system.prompts p with
        stage := .resolved ((system.prompts p).request.trust .permanent) })
    | .storing false => some (system.setPrompt p { system.prompts p with stage := .rejected })
    | _ => none
  | .deliver n =>
    match (system.calls n).stage with
    | .waiting p created =>
      match (system.prompts p).stage with
      | .resolved response =>
        some (system.deliverPrompt hash n p created
          (.responded (response.withRequestId (system.calls n).request.requestId)))
      | .rejected => some (system.deliverPrompt hash n p created .threw)
      | _ => none
    | _ => none

end TrustSystem

end SubversionR
