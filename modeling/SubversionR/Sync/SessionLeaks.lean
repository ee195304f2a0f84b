import SubversionR.Sync.Reopen

/-!
# Sessions nobody lists — requests of the session service that fail

A successful `repository/open` leaves a session in the daemon.  Whatever fails afterwards, the
session has to end up in the list of the session service or be closed again: a session the daemon
keeps and nobody lists refuses every later opening of its working copy.

`openWorkingCopy` has a compensating close around its later steps, `reopenSession` has none.

* `NoLeak` — every session of the daemon is listed under the same epoch;
* `openWorkingCopyOver_noLeak_iff`, `reopenSessionOver_noLeak_iff` — when one operation keeps it;
* `no_leak_iff` — the same, and every run of operations that keep it.
-/

namespace SubversionR

open JsonValues Fallible KeyedMaps KeyedMap OrderedMaps DaemonState SessionClient

/-! ## Open and listed epochs -/

/-- The epoch of the session the daemon has open. -/
def DaemonState.openEpoch (daemon : DaemonState) (id : Text) : Option Nat :=
  (daemon.repositories.get? id).map RepositorySession.epoch

/-- The epoch of the session the session service lists. -/
def SessionClient.listedEpoch (client : SessionClient) (id : Text) : Option Nat :=
  (client.sessions.get? id).map OpenSession.epoch

/-- Every session of the daemon is listed under its epoch. -/
def SessionSystem.NoLeak (s : SessionSystem) : Prop :=
  ∀ id epoch, s.daemon.openEpoch id = some epoch → s.client.listedEpoch id = some epoch

/-- The sessions of one daemon state are among those of another. -/
def DaemonState.Within (daemon daemon' : DaemonState) : Prop :=
  ∀ id epoch, daemon.openEpoch id = some epoch → daemon'.openEpoch id = some epoch

namespace DaemonState

theorem openEpoch_new (id : Text) : new.openEpoch id = none := rfl

theorem Within.refl (daemon : DaemonState) : daemon.Within daemon := fun _ _ h => h

theorem within_of_openEpoch_eq {daemon daemon' : DaemonState}
    (h : ∀ id, daemon.openEpoch id = daemon'.openEpoch id) : daemon.Within daemon' :=
  fun id _ hopen => (h id).symm.trans hopen

theorem new_within (daemon : DaemonState) : new.Within daemon := fun id _ h => by
  rw [openEpoch_new] at h
  cases h

end DaemonState

section

variable {daemon : DaemonState}

/-- Fewer sessions in the daemon leak nothing. -/
theorem SessionSystem.NoLeak.within {s : SessionSystem} (h : s.NoLeak)
    (hwithin : daemon.Within s.daemon) : NoLeak { s with daemon } :=
  fun id epoch hopen => h id epoch (hwithin id epoch hopen)

/-- A delivery that cannot add sessions, because its request cannot. -/
theorem carry_within {α : Type} {send : DaemonState → Except SessionFailure α × DaemonState}
    {rejected : RequestFailure → SessionFailure} (delivery : Delivery)
    (h : (send daemon).2.Within daemon) :
    (delivery.carry rejected send daemon).2.Within daemon := by
  cases delivery with
  | intact => exact h
  | undelivered failure => exact .refl daemon
  | unanswered failure => exact h
  | restarted failure => exact new_within daemon

/-! ## The three requests -/

/-- A snapshot request leaves the sessions of the daemon. -/
theorem sendGetSnapshot_openEpoch (runtime : Runtime) (native : NativeSide)
    (request : StatusSnapshotRequest) (daemon : DaemonState) (id : Text) :
    (sendGetSnapshot runtime native request daemon).2.openEpoch id = daemon.openEpoch id := by
  unfold sendGetSnapshot
  split
  · rfl
  rcases hanswer : daemon.dispatchStatusGetSnapshot runtime.platform native.status native.now
      request.toJson with ⟨answer, after⟩
  rcases dispatchStatusGetSnapshot_cases hanswer with
    ⟨error, -, rfl⟩ | ⟨key, session, -, hget, -, rfl⟩
  · rfl
  · obtain ⟨hid, hepoch, -⟩ :=
      getSnapshot_session runtime.platform native.status native.now session
    exact map_get?_insert_of_get? hget hid hepoch id

/-- A close request takes at most the session it names; one that succeeds takes it. -/
theorem sendClose_openEpoch (repositoryId : Text) (epoch : Nat) (daemon : DaemonState) :
    (sendClose repositoryId epoch daemon).2.Within daemon ∧
      ∀ response, (sendClose repositoryId epoch daemon).1 = .ok response →
        (sendClose repositoryId epoch daemon).2.openEpoch repositoryId = none := by
  unfold sendClose
  rcases hanswer : daemon.dispatchRepositoryClose (repositoryCloseParams repositoryId epoch) with
    ⟨answer, after⟩
  rcases dispatchRepositoryClose_cases hanswer with
    ⟨error, rfl, rfl⟩ | ⟨key, session, hkey, -, rfl⟩
  · exact ⟨.refl _, fun response h => by cases h⟩
  · -- the daemon reads the id the client has sent
    obtain rfl := eq_of_repositoryIdParam rfl hkey
    have herased : ∀ id, openEpoch
        { daemon with repositories := daemon.repositories.erase key } id =
          if key = id then none else daemon.openEpoch id := fun id => map_get?_erase ..
    have hboth : DaemonState.Within
          { daemon with repositories := daemon.repositories.erase key } daemon ∧
        openEpoch
          { daemon with repositories := daemon.repositories.erase key } key = none := by
      refine ⟨fun id epoch' hopen => ?_, (herased key).trans (if_pos rfl)⟩
      rw [herased] at hopen
      split at hopen
      · cases hopen
      · exact hopen
    cases answer with
    | error error => exact ⟨hboth.1, fun response h => by cases h⟩
    | ok response => exact ⟨hboth.1, fun _ _ => hboth.2⟩

/-- A close request that names an open session takes it. -/
theorem sendClose_removes {repositoryId : Text} {epoch : Nat}
    (hid : repositoryId.nonBlankRust = true) (hsafe : epoch < 2 ^ 53)
    (hopen : daemon.openEpoch repositoryId = some epoch) :
    (sendClose repositoryId epoch daemon).2.openEpoch repositoryId = none := by
  obtain ⟨session, hget, rfl⟩ := Option.map_eq_some_iff.mp hopen
  have hparams : sessionParams (repositoryCloseParams repositoryId session.epoch) =
      .ok (repositoryId, session.epoch) :=
    sessionParams_of_props rfl hid rfl
      (hsafe.trans (Nat.pow_lt_pow_right Nat.one_lt_two (by decide)))
  have hsession : daemon.requireSession repositoryId session.epoch = .ok session :=
    requireSession_eq_ok_iff.mpr ⟨hget, rfl⟩
  unfold sendClose dispatchRepositoryClose
  rw [hparams]
  dsimp only
  rw [hsession]
  exact (map_get?_erase ..).trans (if_pos rfl)

/-- The daemon takes a request to open a working copy, which is the one of this identity. -/
structure DaemonState.Admits (runtime : Runtime) (native : NativeSide)
    (request : RepositoryOpenRequest) (identity : RepositoryIdentity) (daemon : DaemonState) :
    Prop where
  path : request.path.nonBlankRust = true
  found : native.openWorkingCopy request.path = .ok identity
  boundaryRoots : ∃ given roots,
    repositoryOpenBoundaryRoots (repositoryOpenParams request) = .ok given ∧
      repositoryBoundaryRoots runtime.platform identity given = .ok roots
  fresh : daemon.repositories.get? (repositoryId identity) = none

/-- The answer to an opening. -/
def DaemonState.openedAs (daemon : DaemonState) (identity : RepositoryIdentity) :
    RepositoryOpenResponse :=
  ⟨repositoryId identity, daemon.nextEpoch, identity⟩

/-- What the daemon has open after it took a request. -/
def DaemonState.Gains (daemon daemon' : DaemonState) (identity : RepositoryIdentity) : Prop :=
  ∀ id, daemon'.openEpoch id =
    if repositoryId identity = id then some daemon.nextEpoch else daemon.openEpoch id

variable {runtime : Runtime} {native : NativeSide} {request : RepositoryOpenRequest}

theorem sendOpen_of_admits {identity : RepositoryIdentity}
    (h : daemon.Admits runtime native request identity) :
    daemon.Gains (sendOpen runtime native request daemon).2 identity ∧
      ∀ response, (sendOpen runtime native request daemon).1 = .ok response ↔
        (daemon.openedAs identity).Accepted ∧ response = daemon.openedAs identity := by
  obtain ⟨given, roots, hgiven, hroots⟩ := h.boundaryRoots
  have hdispatch := dispatchRepositoryOpen_eq_ok_iff.mpr
    ⟨request.path, given, identity, roots,
      (openPathParam_repositoryOpenParams request).trans (if_pos h.path), hgiven, h.found, hroots,
      h.fresh, rfl, rfl⟩
  unfold sendOpen
  rw [hdispatch]
  refine ⟨fun id => ?_, fun response => ?_⟩
  swap
  · exact (@parseOpenResponse_accepts (daemon.openedAs identity)).mapError response
  show ((daemon.repositories.insert _).get? id).map RepositorySession.epoch = _
  rw [map_get?_insert]
  rfl

theorem sendOpen_of_not_admits (h : ∀ identity, ¬ daemon.Admits runtime native request identity) :
    ∃ error, sendOpen runtime native request daemon = (.error error, daemon) := by
  unfold sendOpen
  rcases hanswer : daemon.dispatchRepositoryOpen runtime.platform native.openWorkingCopy
      (repositoryOpenParams request) with ⟨answer, after⟩
  cases answer with
  | error error =>
    obtain rfl := (dispatchRepositoryOpen_error hanswer).1
    exact ⟨_, rfl⟩
  | ok response =>
    obtain ⟨path, given, identity, roots, hpath, hgiven, hfound, hroots, hfresh, -, -⟩ :=
      dispatchRepositoryOpen_eq_ok_iff.mp hanswer
    rw [openPathParam_repositoryOpenParams] at hpath
    split at hpath
    · rename_i hblank
      cases hpath
      exact absurd ⟨hblank, hfound, ⟨given, roots, hgiven, hroots⟩, hfresh⟩ (h identity)
    · cases hpath

/-- The daemon takes a request for at most one identity. -/
theorem DaemonState.Admits.unique {identity identity' : RepositoryIdentity}
    (h : daemon.Admits runtime native request identity)
    (h' : daemon.Admits runtime native request identity') : identity = identity' :=
  Except.ok.inj (h.found.symm.trans h'.found)

/-- **The ways an opening can end**: nothing is opened; the daemon opens a session of which the
client hears nothing it accepts; or the client has the accepted reply. -/
theorem carry_open_cases (runtime : Runtime) (native : NativeSide) (request : RepositoryOpenRequest)
    (daemon : DaemonState) (delivery : Delivery) :
    (∃ error daemon', delivery.carry mapRepositoryOpenError
        (sendOpen runtime native request) daemon = (.error error, daemon') ∧ daemon'.Within daemon ∧
      ∀ identity, daemon.Admits runtime native request identity → delivery.isHandled = false) ∨
    ∃ identity daemon', daemon.Admits runtime native request identity ∧
      delivery.isHandled = true ∧ daemon.Gains daemon' identity ∧
      ((∃ error, delivery.carry mapRepositoryOpenError
          (sendOpen runtime native request) daemon = (.error error, daemon') ∧
        ¬ (delivery = .intact ∧ (daemon.openedAs identity).Accepted)) ∨
        delivery = .intact ∧ (daemon.openedAs identity).Accepted ∧
          sendOpen runtime native request daemon = (.ok (daemon.openedAs identity), daemon')) := by
  by_cases hadmits : ∃ identity, daemon.Admits runtime native request identity
  · obtain ⟨identity, hadmitted⟩ := hadmits
    obtain ⟨hgains, hread⟩ := sendOpen_of_admits hadmitted
    cases delivery with
    | undelivered failure => exact .inl ⟨_, _, rfl, .refl daemon, fun _ _ => rfl⟩
    | restarted failure =>
      exact .inl ⟨_, _, rfl, new_within daemon, fun _ _ => rfl⟩
    | unanswered failure =>
      exact .inr ⟨identity, _, hadmitted, rfl, hgains, .inl ⟨_, rfl, fun hr => by cases hr.1⟩⟩
    | intact =>
      rcases hsend : sendOpen runtime native request daemon with ⟨answer, after⟩
      rw [hsend] at hgains hread
      refine .inr ⟨identity, after, hadmitted, rfl, hgains, ?_⟩
      cases answer with
      | error error =>
        exact .inl ⟨error, hsend, fun hr => by cases (hread _).mpr ⟨hr.2, rfl⟩⟩
      | ok response =>
        obtain ⟨haccepted, rfl⟩ := (hread response).mp rfl
        exact .inr ⟨rfl, haccepted, rfl⟩
  · -- the daemon refuses, and nothing it does adds a session
    rw [not_exists] at hadmits
    obtain ⟨error, hsend⟩ := sendOpen_of_not_admits hadmits
    have hnever : ∀ identity, daemon.Admits runtime native request identity →
        delivery.isHandled = false := fun identity h => absurd h (hadmits identity)
    cases delivery with
    | intact => exact .inl ⟨error, daemon, hsend, .refl daemon, hnever⟩
    | undelivered failure => exact .inl ⟨_, daemon, rfl, .refl daemon, hnever⟩
    | unanswered failure => exact .inl ⟨_, _, rfl, by rw [hsend]; exact .refl daemon, hnever⟩
    | restarted failure => exact .inl ⟨_, _, rfl, new_within daemon, hnever⟩

namespace SessionSystem

variable {s : SessionSystem} {identity : RepositoryIdentity}

/-- A new session that stays open leaks exactly if its epoch is not the one that is listed. -/
theorem noLeak_gains_iff (h : s.NoLeak) {daemon : DaemonState}
    (hgains : s.daemon.Gains daemon identity) :
    NoLeak { s with daemon } ↔
      s.client.listedEpoch (repositoryId identity) = some s.daemon.nextEpoch := by
  constructor
  · intro hafter
    exact hafter _ _ ((hgains _).trans (if_pos rfl))
  · intro hlisted id epoch hopen
    have hopen' : daemon.openEpoch id = some epoch := hopen
    rw [hgains] at hopen'
    split at hopen'
    · rename_i heq
      cases hopen'
      exact heq ▸ hlisted
    · exact h id epoch hopen'

/-- **The opening part** of an opening or a reopening: what follows the reply has to be settled for
the one identity the daemon has taken. -/
theorem noLeak_opening_iff {delivery : Delivery} {Settled : RepositoryIdentity → Prop}
    {s' : SessionSystem} (h : s.NoLeak)
    (hfailed : ∀ error daemon, delivery.carry mapRepositoryOpenError
      (sendOpen runtime native request) s.daemon = (.error error, daemon) → s' = { s with daemon })
    (hopened : ∀ identity daemon, delivery = .intact → (s.daemon.openedAs identity).Accepted →
      s.daemon.Gains daemon identity →
      sendOpen runtime native request s.daemon = (.ok (s.daemon.openedAs identity), daemon) →
      (s'.NoLeak ↔ s.client.listedEpoch (repositoryId identity) = some s.daemon.nextEpoch ∨
        Settled identity)) :
    s'.NoLeak ↔ ∀ identity, s.daemon.Admits runtime native request identity →
      delivery.isHandled = true →
        s.client.listedEpoch (repositoryId identity) = some s.daemon.nextEpoch ∨
          delivery = .intact ∧ (s.daemon.openedAs identity).Accepted ∧ Settled identity := by
  rcases carry_open_cases runtime native request s.daemon delivery with
    ⟨error, daemon, hanswer, hwithin, hunhandled⟩ |
    ⟨identity, daemon, hadmitted, hhandled, hgains, hreply⟩
  · rw [hfailed error daemon hanswer]
    refine iff_of_true (h.within hwithin) fun identity hadmitted hhandled => ?_
    rw [hunhandled identity hadmitted] at hhandled
    cases hhandled
  · refine Iff.trans ?_ (Iff.symm ⟨fun hall => hall identity hadmitted hhandled,
      fun hthis other hother _ => hadmitted.unique hother ▸ hthis⟩)
    rcases hreply with ⟨error, hanswer, hrejected⟩ | ⟨hintact, haccepted, hsend⟩
    · rw [hfailed error daemon hanswer]
      exact (noLeak_gains_iff h hgains).trans
        ⟨.inl, fun hthis => hthis.resolve_right fun hr => hrejected ⟨hr.1, hr.2.1⟩⟩
    · rw [hopened identity daemon hintact haccepted hgains hsend]
      simp only [hintact, haccepted, true_and]

/-- A new session that is listed under its epoch does not leak. -/
theorem noLeak_of_listed (h : s.NoLeak) {daemon daemon' : DaemonState}
    (hgains : s.daemon.Gains daemon identity) (hwithin : daemon'.Within daemon)
    {client : SessionClient} {session : OpenSession}
    (hid : session.repositoryId = repositoryId identity)
    (hepoch : session.epoch = s.daemon.nextEpoch)
    (hclient : client.sessions = s.client.sessions.set session.repositoryId session) :
    NoLeak ⟨client, daemon'⟩ := by
  intro id epoch hopen
  have hopen' : daemon.openEpoch id = some epoch := hwithin id epoch hopen
  rw [hgains] at hopen'
  show (client.sessions.get? id).map OpenSession.epoch = some epoch
  rw [hclient, OrderedMap.get?_set, hid]
  split at hopen'
  · rename_i heq
    rw [if_pos heq.symm, Option.map_some, hepoch, hopen']
  · rename_i hne
    rw [if_neg (Ne.symm hne)]
    exact h id epoch hopen'

end SessionSystem

/-! ## Opening -/

theorem watchScopeFromResponse_eq_error {lower : Text → Text}
    {response : RepositoryOpenResponse} {request : RepositoryOpenRequest}
    {error : RepositorySessionError}
    (h : validateBoundaryRootScope lower response.identity.workingCopyRoot request =
      .error error) : watchScopeFromResponse lower response request = .error error := by
  unfold watchScopeFromResponse
  rw [h]
  rfl

namespace SessionSystem

/-- The `try` block of `openWorkingCopy` up to the snapshot: the boundary roots lie in the working
copy, and the watcher and the stores register the repository. -/
def Registers (runtime : Runtime) (request : RepositoryOpenRequest) (identity : RepositoryIdentity)
    (s : SessionSystem) (client : SessionClient) : Prop :=
  validateBoundaryRootScope runtime.toLocaleLowerCase identity.workingCopyRoot request = .ok () ∧
    s.client.register ⟨repositoryId identity, s.daemon.nextEpoch, identity.workingCopyRoot,
      request.pathCase, request.boundaryRoots⟩ = .ok client

/-- The rest of the block: the snapshot arrives, is accepted and is taken by the stores, or the
daemon process ends before it is sent. -/
def Fills (runtime : Runtime) (native : NativeSide) (delivery : Delivery)
    (request : RepositoryOpenRequest) (identity : RepositoryIdentity) (s : SessionSystem) : Prop :=
  ∃ client, s.Registers runtime request identity client ∧
    (delivery.isRestart = true ∨ ∃ snapshot client',
      (delivery.carry .request
          (sendGetSnapshot runtime native ⟨repositoryId identity, s.daemon.nextEpoch⟩)
          (sendOpen runtime native request s.daemon).2).1 = .ok snapshot ∧
        client.applySnapshot snapshot = .ok client')

/-- If the daemon takes the opening, its reply arrives, is accepted and names no listed repository,
and the steps after it go well or the compensating close is delivered; or the repository is listed
under the new epoch already. -/
def OpenAccounted (runtime : Runtime) (native : NativeSide) (deliveries : Deliveries)
    (request : RepositoryOpenRequest) (s : SessionSystem) : Prop :=
  ∀ identity, validateOpenRequest request = .ok () →
    s.daemon.Admits runtime native request identity → deliveries.openRepository.isHandled = true →
      s.client.listedEpoch (repositoryId identity) = some s.daemon.nextEpoch ∨
        deliveries.openRepository = .intact ∧ (s.daemon.openedAs identity).Accepted ∧
          s.client.sessions.get? (repositoryId identity) = none ∧
          (s.Fills runtime native deliveries.getSnapshot request identity ∨
            deliveries.closeRepository.isUndelivered = false)

/-- Unless the process ends, a snapshot request leaves the sessions of the daemon. -/
theorem carry_getSnapshot_openEpoch (runtime : Runtime) (native : NativeSide)
    (request : StatusSnapshotRequest) (daemon : DaemonState) {delivery : Delivery}
    (h : delivery.isRestart = false) (id : Text) :
    (delivery.carry .request (sendGetSnapshot runtime native request) daemon).2.openEpoch id =
      daemon.openEpoch id := by
  cases delivery with
  | intact => exact sendGetSnapshot_openEpoch runtime native request daemon id
  | undelivered failure => rfl
  | unanswered failure => exact sendGetSnapshot_openEpoch runtime native request daemon id
  | restarted failure => cases h

/-- **The ways the `try` block can end**: the session is filled; the daemon process has ended in it;
or it has failed and the daemon still has what it opened. -/
theorem fillSessionOver_cases (runtime : Runtime) (native : NativeSide) (delivery : Delivery)
    (request : RepositoryOpenRequest) (identity : RepositoryIdentity) (s : SessionSystem) :
    (∃ session client after, fillSessionOver runtime native delivery (s.daemon.openedAs identity)
        request ⟨s.client, (sendOpen runtime native request s.daemon).2⟩ =
          (.ok (session, client), after) ∧
      s.Fills runtime native delivery request identity ∧
      after.Within (sendOpen runtime native request s.daemon).2) ∨
    ∃ error after, fillSessionOver runtime native delivery (s.daemon.openedAs identity)
        request ⟨s.client, (sendOpen runtime native request s.daemon).2⟩ = (.error error, after) ∧
      (s.Fills runtime native delivery request identity ∧ after = .new ∨
        ¬ s.Fills runtime native delivery request identity ∧
          ∀ id, after.openEpoch id =
            (sendOpen runtime native request s.daemon).2.openEpoch id) := by
  -- the failures in the order of the source: scope, registration, answer, snapshot
  unfold fillSessionOver Fills Registers
  cases hscope : validateBoundaryRootScope runtime.toLocaleLowerCase identity.workingCopyRoot
      request with
  | error error =>
    have hwatch : watchScopeFromResponse runtime.toLocaleLowerCase (s.daemon.openedAs identity)
        request = .error error := watchScopeFromResponse_eq_error hscope
    rw [hwatch]
    refine .inr ⟨_, _, rfl, .inr ⟨?_, fun _ => rfl⟩⟩
    rintro ⟨_, ⟨hok, -⟩, -⟩
    cases hok
  | ok _ =>
    rw [watchScopeFromResponse_eq_ok_iff.mpr ⟨hscope, rfl⟩]
    dsimp only [openedAs]
    cases hregister : s.client.register ⟨repositoryId identity, s.daemon.nextEpoch,
        identity.workingCopyRoot, request.pathCase, request.boundaryRoots⟩ with
    | error error =>
      refine .inr ⟨_, _, rfl, .inr ⟨?_, fun _ => rfl⟩⟩
      rintro ⟨_, ⟨-, hok⟩, -⟩
      cases hok
    | ok client =>
      -- only a restart empties the daemon; any other delivery leaves its epochs alone
      cases hrestart : delivery.isRestart with
      | true =>
        obtain ⟨failure, rfl⟩ := Delivery.isRestart_iff.mp hrestart
        exact .inr ⟨_, _, rfl, .inl ⟨⟨client, ⟨rfl, rfl⟩, .inl rfl⟩, rfl⟩⟩
      | false =>
        have hkept := carry_getSnapshot_openEpoch runtime native
          ⟨repositoryId identity, s.daemon.nextEpoch⟩
          (sendOpen runtime native request s.daemon).2 hrestart
        rcases hanswer : delivery.carry .request
            (sendGetSnapshot runtime native ⟨repositoryId identity, s.daemon.nextEpoch⟩)
            (sendOpen runtime native request s.daemon).2 with ⟨answer, after⟩
        rw [hanswer] at hkept
        cases answer with
        | error error =>
          refine .inr ⟨_, _, rfl, .inr ⟨?_, hkept⟩⟩
          rintro ⟨_, _, hne | ⟨_, _, hok, _⟩⟩
          · cases hne
          · cases hok
        | ok snapshot =>
          dsimp only
          cases happly : client.applySnapshot snapshot with
          | error error =>
            refine .inr ⟨_, _, rfl, .inr ⟨?_, hkept⟩⟩
            rintro ⟨_, ⟨-, hclient⟩, hne | ⟨_, _, hok, hfilled⟩⟩
            · cases hne
            · cases hclient
              cases hok
              rw [happly] at hfilled
              cases hfilled
          | ok client' =>
            exact .inl ⟨_, _, _, rfl, ⟨client, ⟨rfl, rfl⟩, .inr ⟨snapshot, client', rfl, happly⟩⟩,
              within_of_openEpoch_eq hkept⟩

theorem sessionOpened_sessions (client : SessionClient) (session : OpenSession) :
    (client.sessionOpened session).2.sessions = client.sessions := by
  unfold SessionClient.sessionOpened
  split <;> rfl

/-- Whatever the listener does, its client is the one that is left. -/
theorem snd_notified {α : Type} (notified : Except SessionFailure Unit × SessionClient)
    (result : α) (daemon : DaemonState) :
    (match notified with
      | (.error error, client) => ((.error error, ⟨client, daemon⟩) :
          Except SessionFailure α × SessionSystem)
      | (.ok _, client) => (.ok result, ⟨client, daemon⟩)).2 = ⟨notified.2, daemon⟩ := by
  rcases notified with ⟨_ | _, _⟩ <;> rfl

/-- A compensating close that is delivered leaves what the daemon had before the opening. -/
theorem carry_close_within {delivery : Delivery} {daemon opened : DaemonState}
    {identity : RepositoryIdentity} (hgains : daemon.Gains opened identity)
    (hepoch : daemon.nextEpoch < 2 ^ 53) (hdelivered : delivery.isUndelivered = false) :
    (delivery.carry .request (sendClose (repositoryId identity) daemon.nextEpoch)
      opened).2.Within daemon := by
  have hclosed : (sendClose (repositoryId identity) daemon.nextEpoch opened).2.Within daemon := by
    intro id epoch hopen
    have hstill := (sendClose_openEpoch (repositoryId identity) daemon.nextEpoch opened).1 id epoch
      hopen
    rw [hgains] at hstill
    split at hstill
    · -- the new session is the one that was closed
      rename_i heq
      rw [← heq, sendClose_removes (nonBlankRust_repositoryId identity) hepoch
        ((hgains _).trans (if_pos rfl))] at hopen
      cases hopen
    · exact hstill
  cases delivery with
  | intact => exact hclosed
  | undelivered failure => cases hdelivered
  | unanswered failure => exact hclosed
  | restarted failure => exact new_within daemon

/-- **Opening a working copy.**  An opening leaks nothing exactly if it is accounted for. -/
theorem openWorkingCopyOver_noLeak_iff {runtime : Runtime} {native : NativeSide}
    {deliveries : Deliveries} {request : RepositoryOpenRequest} {s : SessionSystem}
    (h : s.NoLeak) :
    (s.openWorkingCopyOver runtime native deliveries request).2.NoLeak ↔
      s.OpenAccounted runtime native deliveries request := by
  unfold openWorkingCopyOver
  cases hvalid : validateOpenRequest request with
  | error error =>
    refine iff_of_true h fun identity hok => ?_
    rw [hvalid] at hok
    cases hok
  | ok _ =>
    have haccounted : s.OpenAccounted runtime native deliveries request ↔ _ :=
      ⟨fun hall identity => hall identity hvalid, fun hall identity _ => hall identity⟩
    rw [haccounted]
    refine noLeak_opening_iff h (fun error daemon hanswer => by rw [hanswer])
      fun identity daemon hintact haccepted hgains hsend => ?_
    simp only [hintact, Delivery.carry_intact, hsend]
    have hname : (s.daemon.openedAs identity).repositoryId = repositoryId identity := rfl
    cases hlisted : s.client.sessions.get? (repositoryId identity) with
    | some old =>
      rw [if_pos (by rw [hname, hlisted]; rfl)]
      exact (noLeak_gains_iff h hgains).trans
        ⟨.inl, fun hthis => hthis.resolve_right fun hr => by cases hr.1⟩
    | none =>
      rw [if_neg (by rw [hname, hlisted]; exact Bool.false_ne_true)]
      have hunlisted : s.client.listedEpoch (repositoryId identity) = none := by
        rw [listedEpoch, hlisted]
        rfl
      obtain rfl : (sendOpen runtime native request s.daemon).2 = daemon := by rw [hsend]
      rcases fillSessionOver_cases runtime native deliveries.getSnapshot request identity s with
        ⟨session, client, after, hfill, hfills, hwithin⟩ | ⟨error, after, hfill, hcases⟩
      · -- the session is stored, so it is listed whatever the listener does
        have hnotified := snd_notified ((client.storeSession session).sessionOpened session)
          session after
        obtain ⟨_, _, _, -, hsession, hregister, -, -, hfilled⟩ := fillSessionOver_eq_ok hfill
        rw [hfill]
        refine iff_of_true ((congrArg NoLeak hnotified).mpr
          (noLeak_of_listed h hgains hwithin (congrArg OpenSession.repositoryId hsession)
            (congrArg OpenSession.epoch hsession) ?_)) (.inr ⟨rfl, .inl hfills⟩)
        rw [sessionOpened_sessions]
        exact congrArg (fun sessions => sessions.set session.repositoryId session)
          ((applySnapshot_eq_ok hfilled).1.trans
            (register_eq_ok hregister).1)
      · rw [hfill]
        dsimp only
        rw [rollbackOpenedRepositoryOver_snd]
        rcases hcases with ⟨hfills, rfl⟩ | ⟨hnot, hkept⟩
        · -- a fresh process has nothing to close
          have hclose := (sendClose_openEpoch (s.daemon.openedAs identity).repositoryId
            (s.daemon.openedAs identity).epoch .new).1
          exact iff_of_true (h.within fun id epoch hopen => absurd
            (carry_within deliveries.closeRepository hclose id epoch hopen) (by
              rw [openEpoch_new]
              exact fun hne => by cases hne)) (.inr ⟨rfl, .inl hfills⟩)
        · have hafter : s.daemon.Gains after identity := fun id => (hkept id).trans (hgains id)
          cases hdelivered : deliveries.closeRepository.isUndelivered with
          | false =>
            exact iff_of_true
              (h.within (carry_close_within hafter haccepted.epoch hdelivered))
              (.inr ⟨rfl, .inr rfl⟩)
          | true =>
            obtain ⟨failure, hclose⟩ := Delivery.isUndelivered_iff.mp hdelivered
            rw [hclose]
            refine (noLeak_gains_iff h hafter).trans ?_
            simp [hunlisted, hnot]

/-! ## Reopening -/

end SessionSystem

/-- The store, the projection and the watcher take the new state of a session. -/
structure SessionClient.Stores (client : SessionClient) (session : OpenSession)
    (snapshot : StatusSnapshot) : Prop where
  store : ∃ store, client.store.replaceSnapshot snapshot = .ok store
  projection : ∃ projection, client.projection.replaceSnapshot snapshot.header = .ok projection
  watcher : client.replaceWatcher session.watchScope = .ok ()

/-- The session is listed exactly if the three take it; what the listener does comes later. -/
theorem SessionClient.replaceSession_sessions (client : SessionClient) (session : OpenSession)
    (snapshot : StatusSnapshot) :
    (client.Stores session snapshot ∧ (client.replaceSession session snapshot).2.sessions =
        client.sessions.set session.repositoryId session) ∨
      (¬ client.Stores session snapshot ∧
        (client.replaceSession session snapshot).2.sessions = client.sessions) := by
  unfold SessionClient.replaceSession
  cases hstore : client.store.replaceSnapshot snapshot with
  | error error =>
    refine .inr ⟨fun h => ?_, rfl⟩
    obtain ⟨store, hok⟩ := h.store
    rw [hstore] at hok
    cases hok
  | ok store =>
    dsimp only
    cases hprojection : client.projection.replaceSnapshot snapshot.header with
    | error error =>
      refine .inr ⟨fun h => ?_, rfl⟩
      obtain ⟨projection, hok⟩ := h.projection
      rw [hprojection] at hok
      cases hok
    | ok projection =>
      dsimp only
      have hwatcher : replaceWatcher { client with store, projection }
          session.watchScope = client.replaceWatcher session.watchScope := rfl
      rw [hwatcher]
      cases hreplace : client.replaceWatcher session.watchScope with
      | error error =>
        refine .inr ⟨fun h => ?_, rfl⟩
        have hok := h.watcher
        rw [hreplace] at hok
        cases hok
      | ok _ =>
        refine .inl ⟨⟨⟨store, hstore⟩, ⟨projection, hprojection⟩, hreplace⟩, ?_⟩
        dsimp only
        unfold SessionClient.sessionReopened
        split <;> rfl

namespace SessionSystem

/-- The session a reopening wants to list. -/
def reopenedAs (daemon : DaemonState) (identity : RepositoryIdentity) (session : OpenSession) :
    OpenSession where
  repositoryId := repositoryId identity
  epoch := daemon.nextEpoch
  identity := identity
  watchScope := ⟨repositoryId identity, daemon.nextEpoch, identity.workingCopyRoot,
    session.watchScope.pathCase, session.watchScope.boundaryRoots⟩

/-- What follows the daemon's opening in `reopenSession` goes well: the snapshot arrives and is
accepted, the boundary roots lie in the working copy, and the stores take the snapshot. -/
def Restores (runtime : Runtime) (native : NativeSide) (deliveries : Deliveries)
    (session : OpenSession) (identity : RepositoryIdentity) (s : SessionSystem) : Prop :=
  ∃ snapshot,
    (deliveries.getSnapshot.carry .request
        (sendGetSnapshot runtime native ⟨repositoryId identity, s.daemon.nextEpoch⟩)
        (sendOpen runtime native session.reopenRequest s.daemon).2).1 = .ok snapshot ∧
      validateBoundaryRootScope runtime.toLocaleLowerCase identity.workingCopyRoot
        session.reopenRequest = .ok () ∧
      s.client.Stores (reopenedAs s.daemon identity session) snapshot

/-- If the daemon takes the opening, everything after it goes well or the daemon process ends; or
the repository is listed under the new epoch already. -/
def ReopenAccounted (runtime : Runtime) (native : NativeSide) (deliveries : Deliveries)
    (session : OpenSession) (s : SessionSystem) : Prop :=
  ∀ identity, s.daemon.Admits runtime native session.reopenRequest identity →
    deliveries.openRepository.isHandled = true →
      s.client.listedEpoch (repositoryId identity) = some s.daemon.nextEpoch ∨
        deliveries.openRepository = .intact ∧ (s.daemon.openedAs identity).Accepted ∧
          validateReopenResponse (s.daemon.openedAs identity) session = .ok () ∧
          (deliveries.getSnapshot.isRestart = true ∨
            s.Restores runtime native deliveries session identity)

variable {runtime : Runtime} {native : NativeSide} {s : SessionSystem}

/-- The part of a reopening after its response was validated. -/
theorem reopened_noLeak_iff {deliveries : Deliveries} {session : OpenSession}
    {identity : RepositoryIdentity} {daemon : DaemonState} (h : s.NoLeak)
    (hgains : s.daemon.Gains daemon identity)
    (hsent : (sendOpen runtime native session.reopenRequest s.daemon).2 = daemon)
    {rest : Except SessionFailure RepositorySessionReopenResult × SessionSystem}
    (hrest : rest =
      match deliveries.getSnapshot.carry .request
          (sendGetSnapshot runtime native ⟨repositoryId identity, s.daemon.nextEpoch⟩) daemon with
      | (.error error, daemon) => (.error error, { s with daemon })
      | (.ok snapshot, daemon) =>
        match watchScopeFromResponse runtime.toLocaleLowerCase (s.daemon.openedAs identity)
            session.reopenRequest with
        | .error error => (.error (.session error), { s with daemon })
        | .ok watchScope =>
          match s.client.replaceSession
              ⟨repositoryId identity, s.daemon.nextEpoch, identity, watchScope⟩ snapshot with
          | (.error error, client) => (.error error, ⟨client, daemon⟩)
          | (.ok _, client) =>
            (.ok (.reopened (repositoryId identity) session.epoch s.daemon.nextEpoch
              identity.workingCopyRoot), ⟨client, daemon⟩)) :
    rest.2.NoLeak ↔
      s.client.listedEpoch (repositoryId identity) = some s.daemon.nextEpoch ∨
        (deliveries.getSnapshot.isRestart = true ∨
          s.Restores runtime native deliveries session identity) := by
  subst hrest hsent
  unfold Restores
  cases hrestart : deliveries.getSnapshot.isRestart with
  | true =>
    -- the fresh process has no session at all
    refine iff_of_true ?_ (.inr (.inl rfl))
    cases hdelivery : deliveries.getSnapshot with
    | restarted failure => exact h.within (new_within _)
    | intact | undelivered | unanswered =>
      rw [hdelivery] at hrestart
      cases hrestart
  | false =>
    have hkept := carry_getSnapshot_openEpoch runtime native
      ⟨repositoryId identity, s.daemon.nextEpoch⟩
      (sendOpen runtime native session.reopenRequest s.daemon).2 hrestart
    rcases hanswer : deliveries.getSnapshot.carry .request
        (sendGetSnapshot runtime native ⟨repositoryId identity, s.daemon.nextEpoch⟩)
        (sendOpen runtime native session.reopenRequest s.daemon).2 with ⟨answer, after⟩
    rw [hanswer] at hkept
    have hafter : s.daemon.Gains after identity := fun id => (hkept id).trans (hgains id)
    have hleft := noLeak_gains_iff h hafter
    -- where the session is not listed, only an entry that was there before helps
    have hfails : ∀ {P : Prop}, ¬ P → (NoLeak { s with daemon := after } ↔
        s.client.listedEpoch (repositoryId identity) = some s.daemon.nextEpoch ∨
          (false = true ∨ P)) := fun hnot => hleft.trans (by simp [hnot])
    cases answer with
    | error error => exact hfails fun ⟨_, hok, _⟩ => by cases hok
    | ok snapshot =>
      cases hscope : validateBoundaryRootScope runtime.toLocaleLowerCase
          identity.workingCopyRoot session.reopenRequest with
      | error error =>
        have hwatch : watchScopeFromResponse runtime.toLocaleLowerCase
            (s.daemon.openedAs identity) session.reopenRequest = .error error :=
          watchScopeFromResponse_eq_error hscope
        rw [hwatch]
        exact hfails fun ⟨_, _, hok, _⟩ => by cases hok
      | ok _ =>
        rw [watchScopeFromResponse_eq_ok_iff.mpr ⟨hscope, rfl⟩]
        rw [snd_notified]
        rcases replaceSession_sessions s.client
            (reopenedAs s.daemon identity session) snapshot with
          ⟨hstores, hsessions⟩ | ⟨hrefused, hsessions⟩
        · refine iff_of_true ?_ (.inr (.inr ⟨snapshot, rfl, rfl, hstores⟩))
          exact noLeak_of_listed h hafter (.refl after) rfl rfl hsessions
        · have hsame : NoLeak ⟨(s.client.replaceSession
              (reopenedAs s.daemon identity session) snapshot).2, after⟩ ↔
              NoLeak { s with daemon := after } := by
            unfold NoLeak SessionClient.listedEpoch
            rw [hsessions]
          refine hsame.trans (hfails fun ⟨_, hok, _, hstores⟩ => ?_)
          cases hok
          exact hrefused hstores

/-- **Reopening one session.**  It leaks nothing exactly if it is accounted for. -/
theorem reopenSessionOver_noLeak_iff {deliveries : Deliveries} {session : OpenSession}
    (h : s.NoLeak) :
    (s.reopenSessionOver runtime native deliveries session).2.NoLeak ↔
      s.ReopenAccounted runtime native deliveries session := by
  unfold reopenSessionOver ReopenAccounted
  refine noLeak_opening_iff h (fun error daemon hanswer => by rw [hanswer])
    fun identity daemon hintact _ hgains hsend => ?_
  simp only [hintact, Delivery.carry_intact, hsend]
  cases hvalid : validateReopenResponse (s.daemon.openedAs identity) session with
  | error error =>
    exact (noLeak_gains_iff h hgains).trans
      ⟨.inl, fun hthis => hthis.resolve_right fun hr => by cases hr.1⟩
  | ok _ =>
    refine (reopened_noLeak_iff h hgains (by rw [hsend]) rfl).trans ?_
    simp

/-! ## Closing -/

/-- Closing never leaks: the session service forgets a session only after the daemon has closed
it. -/
theorem closeRepositoryOver_noLeak (h : s.NoLeak) (delivery : Delivery) (id : Text) :
    (s.closeRepositoryOver delivery id).2.NoLeak := by
  unfold closeRepositoryOver
  split
  · exact h
  split
  · exact h
  rename_i session _
  obtain ⟨hwithin, hgone⟩ := sendClose_openEpoch session.repositoryId session.epoch s.daemon
  have hcarry : (delivery.carry .request (sendClose session.repositoryId session.epoch)
      s.daemon).2.Within s.daemon := carry_within delivery hwithin
  split
  · rename_i daemon hanswer
    rw [hanswer] at hcarry
    exact h.within hcarry
  · rename_i response daemon hanswer
    obtain ⟨-, hsent⟩ := carry_eq_ok hanswer
    rw [hsent] at hgone hwithin
    intro id' epoch hopen
    have hstill : daemon.openEpoch id' = some epoch := hopen
    have hne : id' ≠ session.repositoryId := by
      rintro rfl
      rw [hgone response rfl] at hstill
      cases hstill
    have hlisted := h id' epoch (hwithin id' epoch hstill)
    show ((s.client.sessions.delete session.repositoryId).get? id').map OpenSession.epoch = _
    rw [OrderedMap.get?_delete, if_neg hne]
    exact hlisted

/-! ## Runs -/

/-- A call of the session service with what happens to its requests, or the end of the daemon
process between two calls. -/
inductive SessionCall where
  | openWorkingCopy (native : NativeSide) (deliveries : Deliveries)
      (request : RepositoryOpenRequest)
  | closeRepository (delivery : Delivery) (repositoryId : Text)
  | reopenOpenSessions (native : Nat → NativeSide) (deliveries : Nat → Deliveries)
  | restart

/-- The state in which a call settles. -/
def settle (runtime : Runtime) (s : SessionSystem) : SessionCall → SessionSystem
  | .openWorkingCopy native deliveries request =>
    (s.openWorkingCopyOver runtime native deliveries request).2
  | .closeRepository delivery repositoryId => (s.closeRepositoryOver delivery repositoryId).2
  | .reopenOpenSessions native deliveries =>
    (s.reopenOpenSessionsOver runtime native deliveries).2
  | .restart => s.restarted

/-- Every call settles. -/
def stepCall (runtime : Runtime) (s : SessionSystem) (call : SessionCall) : Option SessionSystem :=
  some (s.settle runtime call)

/-- Every turn of the loop of `reopenOpenSessions` is accounted for. -/
def ReopenAccountedFrom (runtime : Runtime) (native : Nat → NativeSide)
    (deliveries : Nat → Deliveries) : Nat → List OpenSession → SessionSystem → Prop
  | _, [], _ => True
  | i, session :: rest, s =>
    s.ReopenAccounted runtime (native i) (deliveries i) session ∧
      ReopenAccountedFrom runtime native deliveries (i + 1) rest
        (s.tryReopenSessionOver runtime (native i) (deliveries i) session).2

/-- A call after which nothing is leaked that was not before. -/
def Accounted (runtime : Runtime) (s : SessionSystem) : SessionCall → Prop
  | .openWorkingCopy native deliveries request =>
    s.OpenAccounted runtime native deliveries request
  | .closeRepository .. => True
  | .reopenOpenSessions native deliveries =>
    ReopenAccountedFrom runtime native deliveries 0 s.client.sessions.values s
  | .restart => True

theorem tryReopenSessionOver_snd (runtime : Runtime) (native : NativeSide)
    (deliveries : Deliveries) (session : OpenSession) (s : SessionSystem) :
    (s.tryReopenSessionOver runtime native deliveries session).2 =
      (s.reopenSessionOver runtime native deliveries session).2 := by
  unfold tryReopenSessionOver
  split
  · rename_i heq
    rw [heq]
  · rename_i heq
    rw [heq]

/-- The loop over the sessions. -/
theorem reopenFromOver_noLeak {native : Nat → NativeSide} {deliveries : Nat → Deliveries}
    {sessions : List OpenSession} {i : Nat} (h : s.NoLeak)
    (haccounted : ReopenAccountedFrom runtime native deliveries i sessions s) :
    (reopenFromOver runtime native deliveries i sessions s).2.NoLeak := by
  induction sessions generalizing i s with
  | nil => exact h
  | cons session rest ih =>
    obtain ⟨hturn, hrest⟩ := haccounted
    have hafter : (s.tryReopenSessionOver runtime (native i) (deliveries i) session).2.NoLeak := by
      rw [tryReopenSessionOver_snd]
      exact (reopenSessionOver_noLeak_iff h).mpr hturn
    exact ih hafter hrest

/-- One call. -/
theorem settle_noLeak (h : s.NoLeak) {call : SessionCall} (haccounted : s.Accounted runtime call) :
    (s.settle runtime call).NoLeak := by
  cases call with
  | openWorkingCopy native deliveries request =>
    exact (openWorkingCopyOver_noLeak_iff h).mpr haccounted
  | closeRepository delivery repositoryId =>
    exact closeRepositoryOver_noLeak h delivery repositoryId
  | reopenOpenSessions native deliveries => exact reopenFromOver_noLeak h haccounted
  | restart => exact h.within (new_within _)

theorem noLeak_initial : initial.NoLeak := fun id _ h => by
  rw [show initial.daemon.openEpoch id = none from openEpoch_new id] at h
  cases h

/-- Only the daemon's own refusal names the repository. -/
theorem eq_of_mapRepositoryOpenError {error : DaemonError} {id : Text}
    (h : mapRepositoryOpenError (.daemon error) = .session (.sessionAlreadyOpen (some id))) :
    error = .repositoryAlreadyOpen id := by
  unfold mapRepositoryOpenError at h
  split at h
  · rename_i repositoryId heq
    cases heq
    split at h
    · cases h
    · cases h
      rfl
  · split at h
    · cases h
    · cases h
  · cases h

/-- A working copy is refused as open only while the session service lists it, under the epoch the
daemon has for it. -/
theorem listed_of_already_open {request : RepositoryOpenRequest} (h : s.NoLeak) {id : Text}
    (hrefused : (sendOpen runtime native request s.daemon).1 =
      .error (.session (.sessionAlreadyOpen (some id)))) :
    ∃ epoch, s.daemon.openEpoch id = some epoch ∧ s.client.listedEpoch id = some epoch := by
  have hopen : ∃ epoch, s.daemon.openEpoch id = some epoch := by
    unfold sendOpen at hrefused
    split at hrefused
    · rename_i error daemon hanswer
      obtain rfl := eq_of_mapRepositoryOpenError (Except.error.inj hrefused)
      have hcontains := (dispatchRepositoryOpen_error hanswer).2 id rfl
      obtain ⟨session, hget⟩ := contains_iff_exists.mp hcontains
      exact ⟨session.epoch, by rw [openEpoch, hget]; rfl⟩
    · rename_i response daemon hanswer
      exact absurd hrefused (by
        cases parseOpenResponse response.toJson with
        | error error => intro hparse; cases hparse
        | ok read => intro hparse; cases hparse)
  obtain ⟨epoch, hepoch⟩ := hopen
  exact ⟨epoch, hepoch, h id epoch hepoch⟩

/-- All calls. -/
theorem noLeak_of_run {calls : List SessionCall}
    (haccounted : Runs.Along (stepCall runtime) (Accounted runtime) initial calls)
    (hrun : Runs.run (stepCall runtime) initial calls = some s) : s.NoLeak := by
  refine Runs.run_invariant (fun s call s' h hcall hstep => ?_) noLeak_initial haccounted hrun
  cases hstep
  exact settle_noLeak h hcall

/-- **Which calls leak a session of the daemon.**  In a state without a leak, an opening leaks
nothing exactly if it is accounted for, and so does each turn of `reopenOpenSessions`; closing never
leaks.  A run of calls that are accounted for has no leak anywhere, and then a working copy is
refused as open only while it is listed. -/
theorem no_leak_iff (runtime : Runtime) :
    (∀ native deliveries request (s : SessionSystem), s.NoLeak →
      ((s.openWorkingCopyOver runtime native deliveries request).2.NoLeak ↔
        s.OpenAccounted runtime native deliveries request)) ∧
    (∀ native deliveries session (s : SessionSystem), s.NoLeak →
      ((s.reopenSessionOver runtime native deliveries session).2.NoLeak ↔
        s.ReopenAccounted runtime native deliveries session)) ∧
    ∀ calls s, Runs.Along (stepCall runtime) (Accounted runtime) initial calls →
      Runs.run (stepCall runtime) initial calls = some s →
        s.NoLeak ∧ ∀ native request id,
          (sendOpen runtime native request s.daemon).1 =
              .error (.session (.sessionAlreadyOpen (some id))) →
            ∃ epoch, s.daemon.openEpoch id = some epoch ∧ s.client.listedEpoch id = some epoch := by
  refine ⟨fun native deliveries request s h => openWorkingCopyOver_noLeak_iff h,
    fun native deliveries session s h => reopenSessionOver_noLeak_iff h, ?_⟩
  intro calls s haccounted hrun
  have hnoLeak := noLeak_of_run haccounted hrun
  exact ⟨hnoLeak, fun native request id hrefused => listed_of_already_open hnoLeak hrefused⟩

end SessionSystem

/-! ## Three histories -/

end

namespace SessionLeakExample

open SessionSystem ReopenExample

def openCall (root : Text) : SessionSystem.SessionCall :=
  .openWorkingCopy native .intact ⟨root, .caseSensitive, none⟩

/-- `/other` is the only session, under epoch 2, when the daemon process ends. -/
def calls : List SessionSystem.SessionCall :=
  [openCall "/wc", openCall "/other", .closeRepository .intact "uuid:/wc", .restart]

def start : SessionSystem := calls.foldl (settle runtime) initial

/-- The reply to the request for a snapshot gets lost. -/
def lostSnapshot : Deliveries := ⟨.intact, .unanswered (.cancelled 7), .intact⟩

/-- An opening whose requests are all answered is accounted for while the working copy is not
listed. -/
theorem openAccounted {s : SessionSystem} {root : Text} (hid : s.client.sessions.get?
      (repositoryId (identityAt root)) = none)
    (haccepted : (s.daemon.openedAs (identityAt root)).Accepted) :
    s.OpenAccounted runtime native .intact ⟨root, .caseSensitive, none⟩ := by
  intro identity _ hadmits _
  have hidentity : identity = identityAt root := (Except.ok.inj hadmits.found).symm
  subst hidentity
  exact .inr ⟨rfl, haccepted, hid, .inr rfl⟩

theorem identityAt_accepted {root : Text} (h : root.nonBlankJs = true) :
    (identityAt root).Accepted := by
  have hrest : Text.nonBlankJs "uuid" = true ∧ Text.nonBlankJs "file:///repository" = true ∧
      isSafeInteger 31 = true ∧ (0 : Int) ≤ 31 := by decide
  exact ⟨hrest.1, hrest.2.1, h, h, hrest.2.2⟩

theorem exists_eq_ok_of_isOk {ε α : Type} {e : Except ε α} (h : e.isOk = true) :
    ∃ a, e = .ok a := by
  cases e with
  | error error => cases h
  | ok a => exact ⟨a, rfl⟩

/-- The fresh process reopens `/other` under epoch 1. -/
theorem reopenAccounted :
    start.ReopenAccounted runtime native .intact
      ⟨"uuid:/other", 2, identityAt "/other",
        ⟨"uuid:/other", 2, "/other", .caseSensitive, none⟩⟩ := by
  intro identity hadmits _
  have hidentity : identity = identityAt "/other" := (Except.ok.inj hadmits.found).symm
  subst hidentity
  refine .inr ⟨rfl, ⟨by decide, by decide +kernel, identityAt_accepted (by decide)⟩,
    by decide +kernel, .inr ⟨snapshot 1, by decide +kernel, by decide +kernel, ?_⟩⟩
  exact ⟨exists_eq_ok_of_isOk (by decide +kernel), exists_eq_ok_of_isOk (by decide +kernel),
    by decide +kernel⟩

/-- The sessions of the history, a restart and a reopening without a failure. -/
theorem answered_calls_leak_nothing :
    ∃ s, Runs.run (stepCall runtime) initial
        (calls ++ [.reopenOpenSessions (fun _ => native) fun _ => .intact]) = some s ∧
      s.NoLeak := by
  refine ⟨_, rfl, ((no_leak_iff runtime).2.2
    (calls ++ [.reopenOpenSessions (fun _ => native) fun _ => .intact]) _ ?_ rfl).1⟩
  have hvalues : start.client.sessions.values =
      [⟨"uuid:/other", 2, identityAt "/other",
        ⟨"uuid:/other", 2, "/other", .caseSensitive, none⟩⟩] := by decide +kernel
  refine ⟨openAccounted (by decide +kernel)
    ⟨by decide, by decide, identityAt_accepted (by decide)⟩, ?_⟩
  intro s hs
  cases hs
  refine ⟨openAccounted (by decide +kernel)
    ⟨by decide, by decide +kernel, identityAt_accepted (by decide)⟩, ?_⟩
  intro s hs
  cases hs
  refine ⟨trivial, fun s hs => ?_⟩
  cases hs
  refine ⟨trivial, fun s hs => ?_⟩
  cases hs
  refine ⟨?_, fun s _ => trivial⟩
  show ReopenAccountedFrom runtime (fun _ => native) (fun _ => .intact) 0
    start.client.sessions.values start
  rw [hvalues]
  exact ⟨reopenAccounted, trivial⟩

/-- `/other` is reopened, the fresh process gives it epoch 1, and then the snapshot does not arrive:
nothing closes the new session, and from then on the daemon refuses `/other` as already open.  An
opening of a working copy that is listed under an old epoch leaks the same way. -/
theorem reopened_session_leaks :
    (start.reopenOpenSessionsOver runtime (fun _ => native) fun _ => lostSnapshot).1 =
        [.reopenFailed "uuid:/other" 2 "/other" "JSON_RPC_REQUEST_CANCELLED"] ∧
      ¬ (start.reopenOpenSessionsOver runtime (fun _ => native) fun _ => lostSnapshot).2.NoLeak ∧
      ((start.reopenOpenSessionsOver runtime (fun _ => native)
          fun _ => lostSnapshot).2.reopenOpenSessionsOver runtime (fun _ => native)
          fun _ => .intact).1 =
        [.reopenFailed "uuid:/other" 2 "/other" "SUBVERSIONR_REPOSITORY_SESSION_ALREADY_OPEN"] ∧
      (start.openWorkingCopyOver runtime native .intact ⟨"/other", .caseSensitive, none⟩).1 =
        .error (.session (.sessionAlreadyOpen (some "uuid:/other"))) ∧
      ¬ (start.openWorkingCopyOver runtime native .intact
          ⟨"/other", .caseSensitive, none⟩).2.NoLeak := by
  refine ⟨by decide +kernel, fun h => ?_, by decide +kernel, by decide +kernel, fun h => ?_⟩
  · exact absurd (h "uuid:/other" 1 (by decide +kernel)) (by decide +kernel)
  · exact absurd (h "uuid:/other" 1 (by decide +kernel)) (by decide +kernel)

end SessionLeakExample

end SubversionR
