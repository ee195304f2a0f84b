import SubversionR.Daemon.Requests
import SubversionR.Daemon.Session

/-!
# Remote access — workspace trust, envelopes and repository URLs

The checks of the daemon's `remote.rs` that stand before a remote worker is launched.  A request
that reaches a server carries an *envelope*: who may be contacted, with which profile, under which
*trust epoch*.  The preflight classifies every URL the request names and compares all of them with
the envelope and with the trust state.

Decoding a JSON value into an envelope and reading an IP address are library code of the source
(`serde`, `std::net`); `RemoteCodec` stands for them.

* `RemoteTrustState.validateUpdate_eq_ok_iff` — an update must name the next epoch;
* `preflightRepositoryUrls_eq_some` — what a successful preflight has checked.
-/

namespace SubversionR

open JsonValues Fallible

/-! ## The envelope -/

structure CanonicalEndpoint where
  scheme : RemoteScheme
  canonicalHost : Text
  effectivePort : Nat
deriving DecidableEq, Inhabited

inductive RemoteServerAuth where
  | anonymous
  | basic
  | cramMd5
  | windowsIntegrated
deriving DecidableEq, Inhabited

inductive ServerAccountSnapshot where
  | none
  | fixed (username : Text)
  | chooseForeground
deriving DecidableEq, Inhabited

inductive TlsTrustPolicy where
  | windowsRootsThenBroker
  | explicitCaThenBroker
deriving DecidableEq

structure TlsProfileSnapshot where
  trust : TlsTrustPolicy
  caBundlePath : Option Text
deriving DecidableEq

/-- A proxy configuration is refused whatever it says. -/
inductive ProxyProfileSnapshot where
  | none
  | configuration
deriving DecidableEq, Inhabited

/-- An SSH profile is refused whatever it says. -/
inductive SshProfileSnapshot where
  | none
  | openSsh
deriving DecidableEq, Inhabited

inductive RedirectPolicy where
  | rejectAll
  | sameAuthorityInitialOptions301
deriving DecidableEq, Inhabited

structure RemoteAccessProfileSnapshot where
  schema : Text
  profileId : Text
  authority : CanonicalEndpoint
  serverAuth : RemoteServerAuth
  serverAccount : ServerAccountSnapshot
  tls : Option TlsProfileSnapshot
  proxy : ProxyProfileSnapshot
  ssh : SshProfileSnapshot
  redirectPolicy : RedirectPolicy
deriving DecidableEq, Inhabited

inductive RemoteOperationIntent where
  | foreground
  | background
deriving DecidableEq, Inhabited

inductive RemoteInteraction where
  | allowed
  | forbidden
deriving DecidableEq, Inhabited

/-- `RemoteOperationEnvelope` as the daemon reads it; its `workspaceTrust` has one value only. -/
structure RemoteEnvelope where
  version : Nat
  operationId : Text
  intent : RemoteOperationIntent
  interaction : RemoteInteraction
  timeoutMs : Nat
  trustEpoch : Nat
  profile : RemoteAccessProfileSnapshot
  expectedOrigin : CanonicalEndpoint
deriving DecidableEq, Inhabited

/-- The library functions the preflight relies on.  `ipv4` and `ipv6` read an address and write it
back in its canonical form. -/
structure RemoteCodec where
  decodeEnvelope : Json → Option RemoteEnvelope
  ipv4 : Text → Option Text
  ipv6 : Text → Option Text

inductive RemoteConfigServerAuth where
  | anonymous
  | basic
  | cramMd5
deriving DecidableEq

structure RemoteConfigPlan where
  scheme : RemoteScheme
  serverAuth : RemoteConfigServerAuth
  timeoutMs : Nat
  trustWindowsRoots : Bool
deriving DecidableEq

/-- `ValidatedRemoteOperation` without its deadline. -/
structure ValidatedRemoteOperation where
  endpoint : CanonicalEndpoint
  envelope : RemoteEnvelope
  config : RemoteConfigPlan
deriving DecidableEq

/-! ## Refusals -/

/-- Why the preflight refuses a request. -/
inductive RemoteRefusal where
  | contractInvalid (field : Text)
  | envelopeRequired
  | envelopeForbidden
  | originMismatch
  | trustEpochMismatch
  | trustEpochExhausted
  | proxyUnsupported
  | redirectPolicyUnsupported
  | tlsPolicyUnsupported
  | sshProfileUnsupported
  | authUnsupported
deriving DecidableEq

/-- The failure that is answered; the arguments of the failure are left out. -/
def RemoteRefusal.failure : RemoteRefusal → BridgeFailure
  | .contractInvalid _ =>
    ⟨"SUBVERSIONR_REMOTE_CONTRACT_INVALID", "configuration", "error.remote.contractInvalid", false⟩
  | .envelopeRequired =>
    ⟨"SUBVERSIONR_REMOTE_ENVELOPE_REQUIRED", "configuration", "error.remote.envelopeRequired",
      false⟩
  | .envelopeForbidden =>
    ⟨"SUBVERSIONR_REMOTE_ENVELOPE_FORBIDDEN", "configuration", "error.remote.envelopeForbidden",
      false⟩
  | .originMismatch =>
    ⟨"SUBVERSIONR_REMOTE_ORIGIN_MISMATCH", "configuration", "error.remote.originMismatch", false⟩
  | .trustEpochMismatch =>
    ⟨"SUBVERSIONR_REMOTE_TRUST_EPOCH_MISMATCH", "state", "error.remote.trustEpochMismatch", false⟩
  | .trustEpochExhausted =>
    ⟨"SUBVERSIONR_REMOTE_TRUST_EPOCH_EXHAUSTED", "state", "error.remote.trustEpochExhausted", false⟩
  | .proxyUnsupported =>
    ⟨"SUBVERSIONR_REMOTE_PROXY_UNSUPPORTED", "unsupported", "error.remote.proxyUnsupported", false⟩
  | .redirectPolicyUnsupported =>
    ⟨"SUBVERSIONR_REMOTE_REDIRECT_POLICY_UNSUPPORTED", "unsupported",
      "error.remote.redirectPolicyUnsupported", false⟩
  | .tlsPolicyUnsupported =>
    ⟨"SUBVERSIONR_REMOTE_TLS_POLICY_UNSUPPORTED", "unsupported",
      "error.remote.tlsPolicyUnsupported",
      false⟩
  | .sshProfileUnsupported =>
    ⟨"SUBVERSIONR_REMOTE_SSH_PROFILE_UNSUPPORTED", "unsupported",
      "error.remote.sshProfileUnsupported", false⟩
  | .authUnsupported =>
    ⟨"SUBVERSIONR_REMOTE_AUTH_UNSUPPORTED", "unsupported", "error.remote.authUnsupported", false⟩

/-! ## Workspace trust -/

structure RemoteTrustState where
  trusted : Bool
  currentEpoch : Nat
  acknowledgedEpoch : Nat

namespace RemoteTrustState

/-- `RemoteTrustState::new`. -/
def new (trusted : Bool) (trustEpoch : Nat) : Except RemoteRefusal RemoteTrustState :=
  if trustEpoch = 0 then .error (.contractInvalid "trustEpoch")
  else .ok ⟨trusted, trustEpoch, trustEpoch⟩

/-- `validate_update`; epochs are 64-bit numbers. -/
def validateUpdate (trust : RemoteTrustState) (trustEpoch : Nat) : Except RemoteRefusal Unit :=
  if 2 ^ 64 ≤ trust.currentEpoch + 1 then .error .trustEpochExhausted
  else if trustEpoch ≠ trust.currentEpoch + 1 then .error .trustEpochMismatch
  else .ok ()

/-- `commit_update`. -/
def commitUpdate (_ : RemoteTrustState) (trusted : Bool) (trustEpoch : Nat) : RemoteTrustState :=
  ⟨trusted, trustEpoch, trustEpoch⟩

def permits (trust : RemoteTrustState) (envelopeEpoch : Nat) : Bool :=
  trust.trusted && decide (envelopeEpoch = trust.currentEpoch)
    && decide (envelopeEpoch = trust.acknowledgedEpoch)

theorem validateUpdate_eq_ok_iff {trust : RemoteTrustState} {trustEpoch : Nat} :
    trust.validateUpdate trustEpoch = .ok () ↔
      trust.currentEpoch + 1 < 2 ^ 64 ∧ trustEpoch = trust.currentEpoch + 1 := by
  unfold validateUpdate
  split
  · simp only [reduceCtorEq, false_iff, not_and]
    omega
  · split
    · rename_i hne
      simp [hne]
    · rename_i heq
      have hlt : trust.currentEpoch + 1 < 2 ^ 64 := by omega
      exact ⟨fun _ => ⟨hlt, not_not.mp heq⟩, fun _ => rfl⟩

theorem permits_iff {trust : RemoteTrustState} {envelopeEpoch : Nat} :
    trust.permits envelopeEpoch = true ↔
      trust.trusted = true ∧ envelopeEpoch = trust.currentEpoch ∧
        envelopeEpoch = trust.acknowledgedEpoch := by
  simp [permits, and_assoc]

end RemoteTrustState

/-! ## Repository URLs -/

/-- `text.split_once(mark)`. -/
def Text.splitOnce (mark : Text) : Text → Option (Text × Text)
  | [] => if mark = [] then some ([], []) else none
  | c :: rest =>
    if mark.isPrefixOf (c :: rest) then some ([], (c :: rest).drop mark.length)
    else (splitOnce mark rest).map fun parts => (c :: parts.1, parts.2)

/-- `text.rsplit_once(mark)` for one character. -/
def Text.rsplitOnce (mark : Char) (t : Text) : Option (Text × Text) :=
  (Text.splitOnce [mark] t.reverse).map fun parts => (parts.2.reverse, parts.1.reverse)

/-- `text.parse::<u16>()`: a sign `+` is allowed. -/
def Text.parseU16 (t : Text) : Option Nat :=
  let digits := match t with
    | '+' :: rest => rest
    | _ => t
  if digits = [] ∨ ¬ digits.all Char.isDigit then none
  else
    let value := digits.foldl (fun n c => 10 * n + (c.toNat - 48)) 0
    if value < 2 ^ 16 then some value else none

/-- `canonical_host`. -/
def canonicalHost (codec : RemoteCodec) (host : Text) : Bool :=
  if host = [] ∨ 253 < host.length ∨ ¬ host.all (fun c => c.toNat < 128)
      ∨ host ≠ host.toAsciiLowercase then false
  else
    match codec.ipv4 host with
    | some canonical => decide (canonical = host)
    | none =>
      match codec.ipv6 host with
      | some canonical => decide (canonical = host)
      | none =>
        if host.head? = some '.' ∨ host.getLast? = some '.' then false
        else (host.splitOn '.').all fun label =>
          decide (label ≠ []) && decide (label.length ≤ 63) && decide (label.head? ≠ some '-')
            && decide (label.getLast? ≠ some '-')
            && label.all fun c => c.isLower || c.isDigit || c == '-'

/-- `validate_endpoint`. -/
def validateEndpoint (codec : RemoteCodec) (endpoint : CanonicalEndpoint) :
    Except RemoteRefusal Unit :=
  if endpoint.effectivePort = 0 ∨ ¬ canonicalHost codec endpoint.canonicalHost then
    .error (.contractInvalid "remote.expectedOrigin")
  else .ok ()

def RemoteScheme.defaultPort : RemoteScheme → Nat
  | .http => 80
  | .https => 443
  | .svn => 3690
  | .svnSsh => 22

/-- A port in an authority: a positive 16-bit number. -/
def parsePort (port : Text) : Except RemoteRefusal Nat :=
  match Text.parseU16 port with
  | some n => if 0 < n then .ok n else .error (.contractInvalid "url")
  | none => .error (.contractInvalid "url")

/-- `parse_authority`. -/
def parseAuthority (codec : RemoteCodec) (authority : Text) (scheme : RemoteScheme) :
    Except RemoteRefusal (Text × Nat) :=
  match authority with
  | '[' :: remainder =>
    match Text.splitOnce "]" remainder with
    | none => .error (.contractInvalid "url")
    | some (host, suffix) =>
      match codec.ipv6 host with
      | none => .error (.contractInvalid "url")
      | some canonical =>
        match suffix with
        | [] => .ok (canonical, scheme.defaultPort)
        | ':' :: port => do
          let port ← parsePort port
          .ok (canonical, port)
        | _ => .error (.contractInvalid "url")
  | _ =>
    match Text.rsplitOnce ':' authority with
    | some (host, port) =>
      if ':' ∈ host then .ok (authority.toAsciiLowercase, scheme.defaultPort)
      else do
        let port ← parsePort port
        .ok (host.toAsciiLowercase, port)
    | none => .ok (authority.toAsciiLowercase, scheme.defaultPort)

inductive ClassifiedRepositoryUrl where
  | localFile
  | remote (endpoint : CanonicalEndpoint)
deriving DecidableEq

def RemoteScheme.ofText? (scheme : Text) : Option RemoteScheme :=
  if scheme = "http" then some .http
  else if scheme = "https" then some .https
  else if scheme = "svn" then some .svn
  else if scheme = "svn+ssh" then some .svnSsh
  else none

/-- `classify_repository_url`. -/
def classifyRepositoryUrl (codec : RemoteCodec) (url : Text) :
    Except RemoteRefusal ClassifiedRepositoryUrl :=
  match Text.splitOnce "://" url with
  | none => .error (.contractInvalid "url")
  | some (scheme, remainder) =>
    if scheme = "file" then
      if remainder.head? = some '/' then .ok .localFile else .error (.contractInvalid "url")
    else
      match RemoteScheme.ofText? scheme with
      | none => .error (.contractInvalid "url")
      | some remoteScheme =>
        let authority := remainder.takeWhile fun c => !(c == '/' || c == '?' || c == '#')
        if authority = [] ∨ '@' ∈ authority then .error (.contractInvalid "url")
        else do
          let (host, port) ← parseAuthority codec authority remoteScheme
          let endpoint : CanonicalEndpoint := ⟨remoteScheme, host, port⟩
          validateEndpoint codec endpoint
          .ok (.remote endpoint)

/-! ## The envelope's own checks -/

/-- `is_canonical_uuid` of the daemon; the extension has a check of its own. -/
def isCanonicalUuidRust (value : Text) : Bool :=
  decide (value.length = 36)
    && (value.zipIdx.all fun (c, index) =>
      if index ∈ [8, 13, 18, 23] then c == '-' else c.isDigit || ('a' ≤ c && c ≤ 'f'))
    && value.any fun c => c != '0' && c != '-'

/-- `char::is_control`: the general category `Cc`. -/
def isControl (c : Char) : Bool := c.toNat < 0x20 || (0x7F ≤ c.toNat && c.toNat < 0xA0)

/-- `normalized_username`. -/
def normalizedUsername (username : Text) : Bool :=
  decide (username ≠ []) && decide (username.utf8.length ≤ 256)
    && decide (username = Text.trimMatches Text.rustWhitespace username)
    && !username.any isControl

/-- `validate_server_account`. -/
def validateServerAccount (profile : RemoteAccessProfileSnapshot) (intent : RemoteOperationIntent)
    (interaction : RemoteInteraction) : Except RemoteRefusal Unit :=
  let invalid : Except RemoteRefusal Unit :=
    .error (.contractInvalid "remote.profile.serverAccount")
  match profile.serverAuth, profile.serverAccount with
  | .anonymous, .none => .ok ()
  | .basic, .fixed username | .cramMd5, .fixed username =>
    if normalizedUsername username then .ok () else invalid
  | .basic, .chooseForeground | .cramMd5, .chooseForeground =>
    if intent = .foreground ∧ interaction = .allowed then .ok () else invalid
  | _, _ => invalid

/-- `require_no_ssh`. -/
def requireNoSsh (profile : RemoteAccessProfileSnapshot) : Except RemoteRefusal Unit :=
  require (profile.ssh = .none) .sshProfileUnsupported

/-- `http_server_auth`. -/
def httpServerAuth : RemoteServerAuth → Except RemoteRefusal RemoteConfigServerAuth
  | .anonymous => .ok .anonymous
  | .basic => .ok .basic
  | _ => .error .authUnsupported

/-- `svn_server_auth`. -/
def svnServerAuth : RemoteServerAuth → Except RemoteRefusal RemoteConfigServerAuth
  | .anonymous => .ok .anonymous
  | .cramMd5 => .ok .cramMd5
  | _ => .error .authUnsupported

/-- `REMOTE_PROFILE_SCHEMA`. -/
def remoteProfileSchema : Text := "subversionr.remote-profile.v1"

/-- `MAX_REMOTE_TIMEOUT_MS`. -/
def maxRemoteTimeoutMs : Nat := 300000

def validProfileId (profileId : Text) : Bool :=
  decide (profileId ≠ []) && decide (profileId.length ≤ 128)
    && profileId.all fun c => (c.toNat < 128) && (c.isAlphanum || c == '-' || c == '_' || c == '.'
      || c == ':')

/-- The checks of `validate_profile` that depend on the scheme. -/
def validateProfileScheme (profile : RemoteAccessProfileSnapshot) :
    Except RemoteRefusal (RemoteConfigServerAuth × Bool) :=
  match profile.authority.scheme with
  | .http => do
    require (profile.tls = none) (.contractInvalid "remote.profile.tls")
    requireNoSsh profile
    let auth ← httpServerAuth profile.serverAuth
    .ok (auth, false)
  | .https =>
    match profile.tls with
    | none => .error (.contractInvalid "remote.profile.tls")
    | some tls => do
      require (tls.trust = .windowsRootsThenBroker ∧ tls.caBundlePath = none) .tlsPolicyUnsupported
      requireNoSsh profile
      let auth ← httpServerAuth profile.serverAuth
      .ok (auth, true)
  | .svn => do
    require (profile.tls = none) (.contractInvalid "remote.profile.tls")
    requireNoSsh profile
    let auth ← svnServerAuth profile.serverAuth
    .ok (auth, false)
  | .svnSsh => .error .sshProfileUnsupported

/-- `validate_profile`. -/
def validateProfile (codec : RemoteCodec) (profile : RemoteAccessProfileSnapshot)
    (intent : RemoteOperationIntent) (interaction : RemoteInteraction) :
    Except RemoteRefusal (RemoteConfigServerAuth × Bool) := do
  require (profile.schema = remoteProfileSchema) (.contractInvalid "remote.profile.schema")
  require (validProfileId profile.profileId) (.contractInvalid "remote.profile.profileId")
  validateEndpoint codec profile.authority
  require (profile.proxy = .none) .proxyUnsupported
  require (profile.redirectPolicy = .rejectAll) .redirectPolicyUnsupported
  let (auth, trustWindowsRoots) ← validateProfileScheme profile
  validateServerAccount profile intent interaction
  .ok (auth, trustWindowsRoots)

/-- `validate_envelope_contract`. -/
def validateEnvelopeContract (codec : RemoteCodec) (envelope : RemoteEnvelope)
    (endpoint : CanonicalEndpoint) : Except RemoteRefusal RemoteConfigPlan := do
  require (envelope.version = 1) (.contractInvalid "remote.version")
  require (isCanonicalUuidRust envelope.operationId) (.contractInvalid "remote.operationId")
  require (0 < envelope.timeoutMs ∧ envelope.timeoutMs ≤ maxRemoteTimeoutMs)
    (.contractInvalid "remote.timeoutMs")
  require (envelope.trustEpoch ≠ 0) (.contractInvalid "remote.trustEpoch")
  require (envelope.intent ≠ .background ∨ envelope.interaction = .forbidden)
    (.contractInvalid "remote.interaction")
  validateEndpoint codec envelope.expectedOrigin
  require (envelope.expectedOrigin = endpoint ∧ envelope.profile.authority = endpoint)
    .originMismatch
  let (auth, trustWindowsRoots) ←
    validateProfile codec envelope.profile envelope.intent envelope.interaction
  .ok ⟨envelope.profile.authority.scheme, auth, envelope.timeoutMs, trustWindowsRoots⟩

/-- `validate_envelope`. -/
def validateEnvelope (codec : RemoteCodec) (envelope : RemoteEnvelope)
    (endpoint : CanonicalEndpoint) (trust : Option RemoteTrustState) :
    Except RemoteRefusal RemoteConfigPlan := do
  require (envelope.trustEpoch ≠ 0 ∧ trust.any (·.permits envelope.trustEpoch)) .trustEpochMismatch
  validateEnvelopeContract codec envelope endpoint

/-! ## The preflight -/

/-- `envelope_value`. -/
def envelopeValue (params : Json) : Option Json := params.prop "remote"

/-- `validate_remote_envelope`. -/
def validateRemoteEnvelope (codec : RemoteCodec) (params : Json) (endpoint : CanonicalEndpoint)
    (trust : Option RemoteTrustState) : Except RemoteRefusal ValidatedRemoteOperation :=
  match envelopeValue params with
  | none => .error .envelopeRequired
  | some value =>
    match codec.decodeEnvelope value with
    | none => .error (.contractInvalid "remote")
    | some envelope => do
      let config ← validateEnvelope codec envelope endpoint trust
      .ok ⟨endpoint, envelope, config⟩

/-- The loop of `preflight_repository_urls`: the endpoint of the remote URLs and whether a local
one was among them. -/
def classifyUrls (codec : RemoteCodec) : List Text → Option CanonicalEndpoint → Bool →
    Except RemoteRefusal (Option CanonicalEndpoint × Bool)
  | [], remoteEndpoint, sawFile => .ok (remoteEndpoint, sawFile)
  | url :: urls, remoteEndpoint, sawFile => do
    match ← classifyRepositoryUrl codec url with
    | .localFile => classifyUrls codec urls remoteEndpoint true
    | .remote endpoint =>
      require (∀ existing ∈ remoteEndpoint, existing = endpoint) .originMismatch
      classifyUrls codec urls (some endpoint) sawFile

/-- `preflight_repository_urls`. -/
def preflightRepositoryUrls (codec : RemoteCodec) (params : Json) (urls : List Text)
    (trust : Option RemoteTrustState) : Except RemoteRefusal (Option ValidatedRemoteOperation) := do
  let (remoteEndpoint, sawFile) ← classifyUrls codec urls none false
  match remoteEndpoint with
  | none => do
    require (envelopeValue params = none) .envelopeForbidden
    .ok none
  | some endpoint => do
    require (sawFile = false) .originMismatch
    let operation ← validateRemoteEnvelope codec params endpoint trust
    .ok (some operation)

/-! ## What the preflight establishes -/

theorem require_eq_ok_iff {ε : Type} {P : Prop} [Decidable P] {e : ε} :
    require P e = .ok () ↔ P := by
  unfold require
  split
  · simp [*, pure, Except.pure]
  · simp [*, throw, throwThe, MonadExceptOf.throw]

variable {codec : RemoteCodec} {endpoint : CanonicalEndpoint}

/-- Every URL of a list that held no local one belongs to the endpoint found. -/
theorem classifyUrls_remote {urls : List Text} {start : Option CanonicalEndpoint} {sawFile : Bool}
    (h : classifyUrls codec urls start sawFile = .ok (some endpoint, false)) :
    sawFile = false ∧ (∀ existing ∈ start, existing = endpoint) ∧
      ∀ url ∈ urls, classifyRepositoryUrl codec url = .ok (.remote endpoint) := by
  induction urls generalizing start sawFile with
  | nil =>
    cases h
    exact ⟨rfl, by simp, by simp⟩
  | cons url urls ih =>
    obtain ⟨classified, hclass, hrest⟩ := bind_eq_ok_iff.mp h
    cases classified with
    | localFile =>
      -- a local URL is never forgotten again
      cases (ih hrest).1
    | remote found =>
      obtain ⟨_, hsame, hrest⟩ := bind_eq_ok_iff.mp hrest
      obtain ⟨hsaw, hfound, hurls⟩ := ih hrest
      have heq : found = endpoint := hfound found rfl
      subst heq
      refine ⟨hsaw, require_eq_ok_iff.mp hsame, ?_⟩
      intro other hother
      rcases List.mem_cons.mp hother with rfl | hother
      · exact hclass
      · exact hurls other hother

/-- What an accepted envelope says about the endpoint and about the trust state. -/
structure RemoteEnvelope.Authorized (envelope : RemoteEnvelope)
    (endpoint : CanonicalEndpoint) (trust : Option RemoteTrustState) : Prop where
  trusted : ∃ state, trust = some state ∧ state.trusted = true ∧
    envelope.trustEpoch = state.currentEpoch ∧ envelope.trustEpoch = state.acknowledgedEpoch
  origin : envelope.expectedOrigin = endpoint
  authority : envelope.profile.authority = endpoint

theorem validateEnvelopeContract_origin {envelope : RemoteEnvelope} {config : RemoteConfigPlan}
    (h : validateEnvelopeContract codec envelope endpoint = .ok config) :
    envelope.expectedOrigin = endpoint ∧ envelope.profile.authority = endpoint := by
  obtain ⟨_, -, h⟩ := bind_eq_ok_iff.mp h
  obtain ⟨_, -, h⟩ := bind_eq_ok_iff.mp h
  obtain ⟨_, -, h⟩ := bind_eq_ok_iff.mp h
  obtain ⟨_, -, h⟩ := bind_eq_ok_iff.mp h
  obtain ⟨_, -, h⟩ := bind_eq_ok_iff.mp h
  obtain ⟨_, -, h⟩ := bind_eq_ok_iff.mp h
  obtain ⟨_, horigin, -⟩ := bind_eq_ok_iff.mp h
  exact require_eq_ok_iff.mp horigin

theorem validateEnvelope_authorized {envelope : RemoteEnvelope} {trust : Option RemoteTrustState}
    {config : RemoteConfigPlan} (h : validateEnvelope codec envelope endpoint trust = .ok config) :
    envelope.Authorized endpoint trust := by
  obtain ⟨_, htrust, hcontract⟩ := bind_eq_ok_iff.mp h
  obtain ⟨horigin, hauthority⟩ := validateEnvelopeContract_origin hcontract
  obtain ⟨-, hpermits⟩ := require_eq_ok_iff.mp htrust
  cases trust with
  | none => cases hpermits
  | some state =>
    exact ⟨⟨state, rfl, RemoteTrustState.permits_iff.mp hpermits⟩, horigin, hauthority⟩

/-- **A successful preflight.**  All URLs belong to the one endpoint of the operation, the envelope
of the request names it as origin and as authority, and the trust state permits the envelope. -/
theorem preflightRepositoryUrls_eq_some {params : Json} {urls : List Text}
    {trust : Option RemoteTrustState} {operation : ValidatedRemoteOperation}
    (h : preflightRepositoryUrls codec params urls trust = .ok (some operation)) :
    (∀ url ∈ urls, classifyRepositoryUrl codec url = .ok (.remote operation.endpoint)) ∧
      (∃ value, envelopeValue params = some value ∧
        codec.decodeEnvelope value = some operation.envelope) ∧
      operation.envelope.Authorized operation.endpoint trust := by
  obtain ⟨⟨remoteEndpoint, sawFile⟩, hclass, h⟩ := bind_eq_ok_iff.mp h
  cases remoteEndpoint with
  | none =>
    obtain ⟨_, -, h⟩ := bind_eq_ok_iff.mp h
    cases h
  | some endpoint =>
    obtain ⟨_, hfile, hoperation⟩ := bind_eq_ok_iff.mp h
    obtain ⟨_, hvalidated, hreturn⟩ := bind_eq_ok_iff.mp hoperation
    have hnoFile : sawFile = false := require_eq_ok_iff.mp hfile
    rw [hnoFile] at hclass
    cases hreturn
    unfold validateRemoteEnvelope at hvalidated
    split at hvalidated
    · cases hvalidated
    rename_i value hvalue
    split at hvalidated
    · cases hvalidated
    rename_i envelope henvelope
    obtain ⟨_, hconfig, hreturn⟩ := bind_eq_ok_iff.mp hvalidated
    cases hreturn
    exact ⟨(classifyUrls_remote hclass).2.2, ⟨value, hvalue, henvelope⟩,
      validateEnvelope_authorized hconfig⟩

end SubversionR
