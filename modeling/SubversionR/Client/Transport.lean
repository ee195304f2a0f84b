import SubversionR.Client.DeltaAcceptance
import SubversionR.Client.RemoteConnection
import SubversionR.Daemon.State

/-!
# Transport — requests, replies and cancellation between the extension and the daemon

`jsonRpcStreamClient.ts` with the two RPC clients that ask for a status delta.  Messages travel in
two queues.  A request is *pending* from the moment it is sent until its reply is handed to the
caller; aborting it forgets it at once, tells the daemon so, and drops the reply if one still comes.

* `Transport.Ordered` — requests are answered in the order they were sent, and no id is used twice;
* `readDeltaReply_eq_ok_iff` — a delta that reaches the caller is the one the daemon sent.
-/

namespace SubversionR

open JsonValues Fallible

/-! ## Messages -/

/-- The envelope of a remote operation.  The access profile and the origin are sent as they are; of
the profile the extension reads the scheme of its authority. -/
structure RemoteOperationEnvelope where
  version : Nat
  operationId : Text
  intent : Text
  interaction : Text
  timeoutMs : Nat
  workspaceTrust : Text
  trustEpoch : Nat
  scheme : RemoteScheme
  profile : Json
  expectedOrigin : Json

structure StatusRemoteCheckRequest where
  repositoryId : Text
  epoch : Nat
  remote : RemoteOperationEnvelope

def RemoteOperationEnvelope.toJson (remote : RemoteOperationEnvelope) : Json :=
  .obj [("version", .int remote.version), ("operationId", .str remote.operationId),
    ("intent", .str remote.intent), ("interaction", .str remote.interaction),
    ("timeoutMs", .int remote.timeoutMs), ("workspaceTrust", .str remote.workspaceTrust),
    ("trustEpoch", .int remote.trustEpoch), ("profile", remote.profile),
    ("expectedOrigin", remote.expectedOrigin)]

def StatusRemoteCheckRequest.toJson (request : StatusRemoteCheckRequest) : Json :=
  .obj [("repositoryId", .str request.repositoryId), ("epoch", .int request.epoch),
    ("remote", request.remote.toJson)]

/-- What the extension writes. -/
inductive ClientMessage where
  | refresh (id : Nat) (request : StatusRefreshRequest)
  | checkRemote (id : Nat) (request : StatusRemoteCheckRequest)
  | cancelRequest (id : Nat)

/-- The answer to one of the two status requests. -/
structure DaemonReply where
  id : Nat
  result : Except DaemonError StatusDelta

/-! ## The JSON-RPC client and its streams -/

structure Transport where
  nextId : Nat
  pending : List Nat
  toDaemon : List ClientMessage
  toClient : List DaemonReply

namespace Transport

def new : Transport := ⟨1, [], [], []⟩

/-- `sendRequest` with a signal that is not aborted. -/
def sendRequest (transport : Transport) (message : Nat → ClientMessage) : Nat × Transport :=
  (transport.nextId,
    { transport with
      nextId := transport.nextId + 1
      pending := transport.pending ++ [transport.nextId]
      toDaemon := transport.toDaemon ++ [message transport.nextId] })

/-- The abort listener of a request: nothing happens once the request is no longer pending. -/
def cancelRequest (transport : Transport) (id : Nat) : Option Transport :=
  if id ∈ transport.pending then
    some { transport with
      pending := transport.pending.filter (· ≠ id)
      toDaemon := transport.toDaemon ++ [.cancelRequest id] }
  else none

/-- The next reply, and whether its request is still pending. -/
def receive (transport : Transport) : Option (DaemonReply × Bool × Transport) :=
  match transport.toClient with
  | [] => none
  | reply :: rest =>
    if reply.id ∈ transport.pending then
      some (reply, true,
        { transport with pending := transport.pending.filter (· ≠ reply.id), toClient := rest })
    else some (reply, false, { transport with toClient := rest })

end Transport

/-! ## Reading the replies -/

/-- Why a request did not bring a delta. -/
inductive RequestFailure where
  | cancelled (requestId : Nat)
  | message (error : RpcError)
  | daemon (error : DaemonError)
deriving DecidableEq

/-- What both clients do with an answer: parse the delta, then make their own `check`. -/
def readDeltaReply (platform : Platform) (check : StatusDelta → Except RpcError Unit)
    (result : Except DaemonError StatusDelta) : Except RequestFailure StatusDelta :=
  match result with
  | .error error => .error (.daemon error)
  | .ok delta =>
    match parseStatusDelta platform delta.toJson with
    | .error error => .error (.message error)
    | .ok parsed =>
      match check parsed with
      | .error error => .error (.message error)
      | .ok _ => .ok parsed

/-- The end of `refreshStatus`, once the request is answered. -/
def readRefreshReply (platform : Platform) (request : StatusRefreshRequest) :
    Except DaemonError StatusDelta → Except RequestFailure StatusDelta :=
  readDeltaReply platform fun delta => requireDeltaMatchesRequest delta request

def invalidCheckRequest (field : Text) : RpcError where
  code := "SUBVERSIONR_STATUS_REMOTE_CHECK_REQUEST_INVALID"
  category := "input"
  messageKey := "error.status.remoteCheckRequestInvalid"
  field := field

def invalidCheckResponse (field : Text) : RpcError where
  code := "SUBVERSIONR_STATUS_REMOTE_CHECK_RESPONSE_INVALID"
  category := "protocol"
  messageKey := "error.status.remoteCheckResponseInvalid"
  field := field

/-- `validateRequest` of the remote check client, on a request of the declared type. -/
def validateCheckRequest (request : StatusRemoteCheckRequest) : Except RpcError Unit := do
  require (request.repositoryId.nonBlankJs = true) (invalidCheckRequest "repositoryId")
  require (isSafeInteger request.epoch = true) (invalidCheckRequest "epoch")
  require (request.remote.version = 1 ∧ isCanonicalUuid request.remote.operationId = true ∧
      request.remote.intent = "foreground" ∧ request.remote.interaction = "allowed" ∧
      request.remote.workspaceTrust = "trusted" ∧
      1 ≤ request.remote.timeoutMs ∧ request.remote.timeoutMs ≤ 300000 ∧
      1 ≤ request.remote.trustEpoch ∧ isSafeInteger request.remote.trustEpoch = true)
    (invalidCheckRequest "remote")

/-- What the extension insists on in the delta of a remote check. -/
def requireRemoteCoverage (delta : StatusDelta) (request : StatusRemoteCheckRequest) :
    Except RpcError Unit := do
  require (delta.repositoryId = request.repositoryId) (invalidCheckResponse "repositoryId")
  require (delta.epoch = request.epoch) (invalidCheckResponse "epoch")
  require (delta.source = "libsvn-remote" ∧ delta.completeness = "complete" ∧
      delta.upsert = [] ∧ delta.remove = [] ∧
      delta.coverage.map (fun scope => (scope.path, scope.depth, scope.reason)) =
        [((".", "workingCopy", "manualRemoteCheck") : Text × Text × Text)])
    (invalidCheckResponse "remoteCoverage")

/-- The end of `checkRemoteStatus`, once the request is answered. -/
def readCheckReply (platform : Platform) (request : StatusRemoteCheckRequest) :
    Except DaemonError StatusDelta → Except RequestFailure StatusDelta :=
  readDeltaReply platform fun delta => requireRemoteCoverage delta request

/-- **What a caller receives** is the delta the daemon sent, accepted by both checks. -/
theorem readDeltaReply_eq_ok_iff {platform : Platform}
    {check : StatusDelta → Except RpcError Unit} {result : Except DaemonError StatusDelta}
    {delta : StatusDelta} :
    readDeltaReply platform check result = .ok delta ↔
      result = .ok delta ∧ delta.Accepted platform ∧ check delta = .ok () := by
  unfold readDeltaReply
  cases result with
  | error error => simp
  | ok sent =>
    cases hparsed : parseStatusDelta platform sent.toJson with
    | error error =>
      -- a delta the parser refuses is not an accepted one
      have hrefused : ¬ sent.Accepted platform := fun haccepted => by
        rw [parseStatusDelta_accepts.ok_iff.mpr haccepted] at hparsed
        cases hparsed
      simp only [hparsed, reduceCtorEq, Except.ok.injEq, false_iff, not_and]
      intro heq haccepted
      exact absurd (heq ▸ haccepted) hrefused
    | ok parsed =>
      obtain rfl : parsed = sent := parseStatusDelta_accepts.eq_of_ok hparsed
      have haccepted := parseStatusDelta_accepts.ok_iff.mp hparsed
      cases hcheck : check parsed with
      | error error =>
        simp only [hparsed, hcheck, reduceCtorEq, Except.ok.injEq, false_iff, not_and]
        intro heq _
        rw [← heq, hcheck]
        exact fun h => by cases h
      | ok _ =>
        simp only [hparsed, hcheck, Except.ok.injEq]
        exact ⟨fun heq => ⟨heq, heq ▸ haccepted, heq ▸ hcheck⟩, fun h => h.1⟩

theorem requireRemoteCoverage_accepts {delta : StatusDelta} {request : StatusRemoteCheckRequest} :
    Accepts (requireRemoteCoverage delta request) ()
      (delta.repositoryId = request.repositoryId ∧ delta.epoch = request.epoch ∧
        delta.source = "libsvn-remote" ∧ delta.completeness = "complete" ∧
        delta.upsert = [] ∧ delta.remove = [] ∧
        delta.coverage.map (fun scope => (scope.path, scope.depth, scope.reason)) =
          [((".", "workingCopy", "manualRemoteCheck") : Text × Text × Text)]) :=
  Accepts.bind Accepts.require (.bind .require Accepts.require)

/-! ## Open requests

The ids of the requests whose reply the extension has not read increase along both queues, because
the daemon answers in order. -/

def ClientMessage.requestId : ClientMessage → Option Nat
  | .refresh id _ => some id
  | .checkRemote id _ => some id
  | .cancelRequest _ => none

namespace Transport

/-- The ids of the requests whose reply the extension has not read, oldest first. -/
def openIds (transport : Transport) : List Nat :=
  transport.toClient.map DaemonReply.id ++ transport.toDaemon.filterMap ClientMessage.requestId

/-- The open requests are in the order in which they were sent. -/
structure Ordered (transport : Transport) : Prop where
  increasing : transport.openIds.Pairwise (· < ·)
  sent : ∀ id ∈ transport.openIds, id < transport.nextId

variable {transport transport' : Transport}

theorem openIds_eq_nil (hclient : transport.toClient = []) (hdaemon : transport.toDaemon = []) :
    transport.openIds = [] := by
  unfold openIds
  rw [hclient, hdaemon]
  rfl

theorem Ordered.of_openIds_eq_nil (h : transport.openIds = []) : transport.Ordered := by
  refine ⟨by rw [h]; exact List.Pairwise.nil, ?_⟩
  rw [h]
  intro _ hid
  cases hid

theorem Ordered.congr (h : transport.Ordered) (hids : transport'.openIds = transport.openIds)
    (hnext : transport'.nextId = transport.nextId) : transport'.Ordered :=
  ⟨hids ▸ h.increasing, by rw [hids, hnext]; exact h.sent⟩

theorem Ordered.sendRequest (h : transport.Ordered) {message : Nat → ClientMessage}
    (hmessage : ∀ id, (message id).requestId = some id) :
    (transport.sendRequest message).2.Ordered := by
  have hids : (transport.sendRequest message).2.openIds =
      transport.openIds ++ [transport.nextId] := by
    unfold openIds Transport.sendRequest
    simp [hmessage]
  refine ⟨?_, ?_⟩
  · rw [hids, List.pairwise_append]
    refine ⟨h.increasing, List.pairwise_singleton _ _, ?_⟩
    intro id hid _ hid'
    rw [List.mem_singleton.mp hid']
    exact h.sent id hid
  · rw [hids]
    intro id hid
    show id < transport.nextId + 1
    rcases List.mem_append.mp hid with hold | hnew
    · have := h.sent id hold
      omega
    · rw [List.mem_singleton.mp hnew]
      exact Nat.lt_succ_self _

/-- What forgetting a request leaves. -/
theorem cancelRequest_eq_some {id : Nat} (h : transport.cancelRequest id = some transport') :
    transport' =
      { transport with
        pending := transport.pending.filter (· ≠ id)
        toDaemon := transport.toDaemon ++ [.cancelRequest id] } := by
  unfold cancelRequest at h
  split at h
  · cases h
    rfl
  · cases h

theorem Ordered.cancelRequest (h : transport.Ordered) {id : Nat}
    (hcancel : transport.cancelRequest id = some transport') : transport'.Ordered := by
  rw [cancelRequest_eq_some hcancel]
  refine h.congr ?_ rfl
  unfold openIds
  simp [ClientMessage.requestId]

/-- The daemon has answered its oldest message, or read past it. -/
theorem openIds_answer {message : ClientMessage} {rest : List ClientMessage}
    (hqueue : transport.toDaemon = message :: rest) {replies : List DaemonReply}
    (hid : message.requestId.toList = replies.map DaemonReply.id) :
    ({ transport with
      toDaemon := rest
      toClient := transport.toClient ++ replies } : Transport).openIds = transport.openIds := by
  have hcons : (message :: rest).filterMap ClientMessage.requestId =
      message.requestId.toList ++ rest.filterMap ClientMessage.requestId := by
    cases hmessage : message.requestId with
    | none => rw [List.filterMap_cons_none hmessage]; rfl
    | some id => rw [List.filterMap_cons_some hmessage]; rfl
  unfold openIds
  rw [hqueue, hcons, hid, List.map_append, List.append_assoc]

theorem openIds_read {reply : DaemonReply} {rest : List DaemonReply}
    (hqueue : transport.toClient = reply :: rest) (pending : List Nat) :
    transport.openIds =
      reply.id :: ({ transport with pending := pending, toClient :=
        rest } : Transport).openIds := by
  unfold openIds
  rw [hqueue]
  rfl

/-- A reply is read: the requests after it stay open. -/
theorem Ordered.read (h : transport.Ordered) {reply : DaemonReply} {rest : List DaemonReply}
    (hqueue : transport.toClient = reply :: rest) (pending : List Nat) :
    ({ transport with pending := pending, toClient := rest } : Transport).Ordered ∧
      ∀ id ∈ ({ transport with pending := pending, toClient := rest } : Transport).openIds,
        reply.id < id := by
  have hids := openIds_read hqueue pending
  have hincreasing := h.increasing
  rw [hids] at hincreasing
  obtain ⟨hlater, hrest⟩ := List.pairwise_cons.mp hincreasing
  exact ⟨⟨hrest, fun id hid => h.sent id (hids ▸ List.mem_cons_of_mem _ hid)⟩, hlater⟩

end Transport

end SubversionR
