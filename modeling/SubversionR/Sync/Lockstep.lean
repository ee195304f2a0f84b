import SubversionR.Daemon.Session
import SubversionR.Client.SnapshotStore

/-!
# Lockstep — deltas applied in order keep the two sides equal

The daemon answers a sequence of `status/refresh` and `status/checkRemote` requests and the
extension applies every delta in order.  `InStep` is the agreement between the session and the
store: the same epoch, the same local and remote entries, the counts of the session, and a
generation the session has already handed out.

* `applyDelta_inStep` — one published delta is accepted and re-establishes the agreement;
* `lockstep_sound` — so is every delta of a sequence of requests.
-/

namespace SubversionR

open KeyedMaps KeyedMap

/-! ## The two sides -/

/-- A status request together with what the bridge answers while it runs. -/
inductive StatusCall where
  | refresh (targets : List StatusRefreshTarget) (bridge : StatusBridge) (now : Text)
  | checkRemote (bridge : StatusBridge) (now : Text)

def RepositorySession.answer (platform : Platform) (session : RepositorySession) :
    StatusCall → Except BridgeFailure (StatusDelta × RepositorySession)
  | .refresh targets bridge now => session.refresh platform bridge now targets
  | .checkRemote bridge now => session.checkRemote platform bridge now

/-- The answers to a sequence of requests, each with the session it leaves. -/
def RepositorySession.answerAll (platform : Platform) :
    RepositorySession → List StatusCall →
      Except BridgeFailure (List (StatusDelta × RepositorySession))
  | _, [] => .ok []
  | session, call :: rest =>
    match session.answer platform call with
    | .error failure => .error failure
    | .ok (delta, session') =>
      match RepositorySession.answerAll platform session' rest with
      | .error failure => .error failure
      | .ok replies => .ok ((delta, session') :: replies)

/-- The store after each delta of a list. -/
def StatusSnapshotStore.applyAll :
    StatusSnapshotStore → List StatusDelta →
      Except StatusSnapshotStoreError (List StatusSnapshotStore)
  | _, [] => .ok []
  | store, delta :: rest =>
    match store.applyDelta delta with
    | .error error => .error error
    | .ok store' =>
      match StatusSnapshotStore.applyAll store' rest with
      | .error error => .error error
      | .ok stores => .ok (store' :: stores)

/-- The state of the extension equals the session of the daemon. -/
structure RepositoryState.InStep (state : RepositoryState) (session : RepositorySession) :
    Prop where
  repositoryId : state.repositoryId = session.repositoryId
  epoch : state.epoch = session.epoch
  localEntries : state.localEntries = session.localEntries
  remoteEntries : state.remoteEntries = session.remoteEntries
  contents : ∃ contents, state.contents = some contents ∧ contents.summary = session.summary ∧
    contents.generation < session.nextGeneration

/-- The store holds, for the session's repository, a state that equals the session. -/
def InStep (session : RepositorySession) (store : StatusSnapshotStore) : Prop :=
  ∃ state, store.repositories.get? session.repositoryId = some state ∧ state.InStep session

/-- The session holds fewer than `2 ^ 31` entries of each kind. -/
def RepositorySession.Small (session : RepositorySession) : Prop :=
  session.localEntries.values.length < 2 ^ 31 ∧ session.remoteEntries.values.length < 2 ^ 31

instance (session : RepositorySession) : Decidable session.Small :=
  inferInstanceAs (Decidable (_ ∧ _))

/-! ## One delta -/

section

variable {session : RepositorySession}

theorem RepositorySession.Small.summary_below (h : session.Small) :
    session.summary.Below (2 ^ 31 - 1) :=
  summarizeSnapshotEntries_below (Nat.le_sub_one_of_lt h.1) (Nat.le_sub_one_of_lt h.2)

/-- Applying the published difference of two small counts to the old one gives the new one. -/
theorem applySummaryValue_toI32 {repositoryId field : Text} {before after : Nat}
    (hbefore : before ≤ 2 ^ 31 - 1) (hafter : after ≤ 2 ^ 31 - 1) :
    RepositoryState.applySummaryValue repositoryId field before
      (toI32 (toI32 after - toI32 before)) = .ok after := by
  refine RepositoryState.applySummaryValue_eq_ok ?_ (by omega)
  rw [toI32_sub (by omega) (by omega)]
  omega

theorem applySummaryDelta_summaryDelta (repositoryId : Text) {before after : StatusSummary}
    (hbefore : before.Below (2 ^ 31 - 1)) (hafter : after.Below (2 ^ 31 - 1)) :
    RepositoryState.applySummaryDelta repositoryId before (summaryDelta before after) =
      .ok after := by
  unfold RepositoryState.applySummaryDelta summaryDelta
  rw [applySummaryValue_toI32 hbefore.localChanges hafter.localChanges,
    applySummaryValue_toI32 hbefore.remoteChanges hafter.remoteChanges,
    applySummaryValue_toI32 hbefore.conflicts hafter.conflicts,
    applySummaryValue_toI32 hbefore.unversioned hafter.unversioned]
  rfl

variable {session' : RepositorySession} {delta : StatusDelta}

/-- **One step.**  A state in step with the session accepts the delta the session publishes and
is in step with the next session. -/
theorem RepositoryState.InStep.applyDelta {state : RepositoryState} (hstep : state.InStep session)
    (hdelta : DeltaBetween session session' delta) (hsmall : session.Small)
    (hsmall' : session'.Small) :
    ∃ state', state.applyDelta delta = .ok state' ∧ state'.InStep session' := by
  obtain ⟨contents, hcontents, hsummary, hgen⟩ := hstep.contents
  have happly : RepositoryState.applySummaryDelta state.repositoryId contents.summary
      delta.summaryDelta = .ok session'.summary := by
    rw [hsummary, hdelta.summaryDelta]
    exact applySummaryDelta_summaryDelta _ hsmall.summary_below hsmall'.summary_below
  refine ⟨_, RepositoryState.applyDelta_eq_ok_iff.mpr ⟨?_, contents, hcontents, ?_, _, happly, rfl⟩,
    ?_⟩
  · rw [hstep.epoch, hdelta.epoch]
  · rw [hdelta.generation]
    exact hgen
  · refine ⟨?_, ?_, ?_, ?_, _, rfl, rfl, ?_⟩
    · show state.repositoryId = session'.repositoryId
      rw [hstep.repositoryId, hdelta.repositoryId_after]
    · show state.epoch = session'.epoch
      rw [hstep.epoch, hdelta.epoch_after]
    · show state.localEntries.patch delta.remove delta.upsert = session'.localEntries
      rw [hstep.localEntries, hdelta.remove, hdelta.upsert, patch_diff_self]
    · show state.remoteEntries.patch delta.remoteRemove delta.remoteUpsert =
        session'.remoteEntries
      rw [hstep.remoteEntries, hdelta.remoteRemove, hdelta.remoteUpsert, patch_diff_self]
    · show delta.generation < session'.nextGeneration
      rw [hdelta.generation, hdelta.nextGeneration]
      omega

theorem applyDelta_inStep {store : StatusSnapshotStore} (hstep : InStep session store)
    (hdelta : DeltaBetween session session' delta) (hsmall : session.Small)
    (hsmall' : session'.Small) :
    ∃ store', store.applyDelta delta = .ok store' ∧ InStep session' store' := by
  obtain ⟨state, hget, hstate⟩ := hstep
  obtain ⟨state', happly, hstate'⟩ := hstate.applyDelta hdelta hsmall hsmall'
  refine ⟨⟨store.repositories.insert state'⟩, ?_, state', ?_, hstate'⟩
  · refine StatusSnapshotStore.update_eq_ok_iff.mpr ⟨state, state', ?_, happly, rfl⟩
    rw [hdelta.repositoryId]
    exact hget
  · rw [get?_insert, if_pos hstate'.repositoryId]

/-! ## A sequence of requests -/

theorem answer_deltaBetween {platform : Platform} {call : StatusCall}
    (h : session.answer platform call = .ok (delta, session')) :
    DeltaBetween session session' delta := by
  cases call with
  | refresh targets bridge now => exact refresh_deltaBetween h
  | checkRemote bridge now => exact checkRemote_deltaBetween h

theorem answerAll_cons_eq_ok {platform : Platform} {call : StatusCall} {rest : List StatusCall}
    {replies : List (StatusDelta × RepositorySession)}
    (h : session.answerAll platform (call :: rest) = .ok replies) :
    ∃ delta session' tail, session.answer platform call = .ok (delta, session') ∧
      session'.answerAll platform rest = .ok tail ∧ replies = (delta, session') :: tail := by
  unfold RepositorySession.answerAll at h
  split at h
  · cases h
  rename_i delta session' hanswer
  split at h
  · cases h
  rename_i tail htail
  cases h
  exact ⟨delta, session', tail, hanswer, htail, rfl⟩

/-- **Lockstep.**  From agreeing sides, the extension accepts every delta of a sequence of
successful refreshes and remote checks, and after each of them its entries and counts are again
those of the session. -/
theorem lockstep_sound (platform : Platform) (session : RepositorySession)
    (store : StatusSnapshotStore) (calls : List StatusCall)
    (replies : List (StatusDelta × RepositorySession)) (hstep : InStep session store)
    (hanswers : session.answerAll platform calls = .ok replies)
    (hsmall : ∀ s ∈ session :: replies.map Prod.snd, s.Small) :
    ∃ stores, store.applyAll (replies.map Prod.fst) = .ok stores ∧
      List.Forall₂ InStep (replies.map Prod.snd) stores := by
  induction calls generalizing session store replies with
  | nil =>
    cases hanswers
    exact ⟨[], rfl, .nil⟩
  | cons call rest ih =>
    obtain ⟨_, session', tail, hanswer, htail, rfl⟩ := answerAll_cons_eq_ok hanswers
    have hs : session.Small := hsmall _ List.mem_cons_self
    have hs' : session'.Small := hsmall _ (by simp)
    obtain ⟨store', happly, hstep'⟩ := applyDelta_inStep hstep (answer_deltaBetween hanswer) hs hs'
    obtain ⟨stores, hstores, hall⟩ := ih session' store' tail hstep' htail (by
      intro s hmem
      exact hsmall s (List.mem_cons_of_mem _ (by simpa using hmem)))
    refine ⟨store' :: stores, ?_, .cons hstep' hall⟩
    rw [List.map_cons, StatusSnapshotStore.applyAll, happly]
    dsimp only
    rw [hstores]

end

namespace LockstepExample

def session : RepositorySession :=
  { RepositorySession.opened "uuid:/wc" 1 .sample .none with
    nextGeneration := 2
    localEntries := ofList [.file "a.txt" "modified"] }

def state : RepositoryState where
  repositoryId := "uuid:/wc"
  epoch := 1
  localEntries := ofList [.file "a.txt" "modified"]
  remoteEntries := KeyedMap.empty
  contents := some ⟨1, "complete", .sample, ⟨1, 0, 0, 0⟩, "t", "libsvn-local"⟩

/-- `a.txt` is reverted while `b.txt` appears; then the server has a change of `c.txt`. -/
def calls : List StatusCall :=
  [.refresh [⟨".", .infinity, "manual"⟩]
      (.answering [.file "b.txt" "unversioned"] []) "t1",
    .checkRemote (.answering []
      [{ StatusEntry.file "c.txt" "none" with remoteStatus := "modified" }]) "t2"]

def replies : List (StatusDelta × RepositorySession) :=
  (session.answerAll .posix calls).toOption.getD []

theorem lockstep_sound_two_requests :
    (replies.map fun reply => (reply.1.remove, reply.1.summaryDelta.remoteChanges)) =
        [([("a.txt" : Text)], 0), ([], 1)] ∧
      ∃ stores, (StatusSnapshotStore.mk (KeyedMap.empty.insert state)).applyAll
          (replies.map Prod.fst) = .ok stores ∧
        List.Forall₂ InStep (replies.map Prod.snd) stores := by
  refine ⟨by decide +kernel, ?_⟩
  refine lockstep_sound .posix session _ calls replies ?_ ?_ ?_
  · refine ⟨state, by decide +kernel, rfl, rfl, rfl, rfl, _, rfl, ?_, ?_⟩
    · decide +kernel
    · decide +kernel
  · decide +kernel
  · decide +kernel

end LockstepExample

end SubversionR
