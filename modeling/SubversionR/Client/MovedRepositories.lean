import SubversionR.Client.DiscoveryPlanning

/-!
# Moved working copies — `recoverMovedRepositories`

When the working copy of an open session is gone, the lifecycle service looks for its new place
among the discovered candidates: the only unopened one with the same repository and another root.
It closes the session and opens the candidate.  The candidates are collected once, before the
sessions are looked at, so that two sessions of one repository can pick the same candidate.

The first half of the function asks of every open session whether its working copy exists and runs
the discovery; what it finds is a `MovedPass`.  What the calls of the second half answer is any
value.

* `length_recover` — when a pass loses sessions;
* `mem_recover` — which repositories are open in the middle of a pass, from the answers alone;
* `recovery_safe_iff` — a pass is safe exactly if no two sessions have the same candidate and no
  session is lost in closing it alone.
-/

namespace SubversionR

/-- What `closeRepository` does: it may also fail after the session is gone. -/
inductive CloseOutcome where
  | closed
  | refused (code : Text)
  | cleanupFailed (code : Text)
deriving DecidableEq

/-- What the first half of the function finds, and what the calls of the second half answer. -/
structure MovedPass where
  openSessions : List OpenSession
  missingSessions : List OpenSession
  existingSessions : List OpenSession
  candidates : List RepositoryDiscoveryCandidate
  fileExternalBoundaries : List Text
  pathCase : PathCasePolicy
  closeRepository : OpenSession → CloseOutcome
  /-- By the session that is to move. -/
  openDiscoveredRepository : OpenSession → RepositoryOpenRequest → Except Text OpenSession
  missing_open : missingSessions.Sublist openSessions
  /-- The session service holds one session for each repository. -/
  distinct : (openSessions.map OpenSession.repositoryId).Nodup

/-- `openSessionMoved`, or the reason of `openSessionMoveFailed`. -/
inductive MoveResult where
  | moved (session : OpenSession)
  | closeFailed (code : Text)
  | openFailed (code : Text)
deriving DecidableEq

inductive MoveTurn where
  | noCandidate
  /-- `SUBVERSIONR_REPOSITORY_MOVED_CANDIDATE_AMBIGUOUS`. -/
  | ambiguousCandidates (candidateCount : Nat)
  | chosen (candidate : RepositoryDiscoveryCandidate) (result : MoveResult)
deriving DecidableEq

namespace MoveTurn

def candidate? : MoveTurn → Option RepositoryDiscoveryCandidate
  | chosen candidate _ => some candidate
  | _ => none

def isOpenFailed : MoveTurn → Bool
  | chosen _ (.openFailed _) => true
  | _ => false

end MoveTurn

namespace MovedPass

variable (lower : Text → Text) (pass : MovedPass)

/-! ## The loop -/

def movedCandidateMatchesSession (candidate : RepositoryDiscoveryCandidate)
    (session : OpenSession) : Bool :=
  decide (candidate.identity.repositoryUuid = session.identity.repositoryUuid) &&
    decide (candidate.identity.repositoryRootUrl = session.identity.repositoryRootUrl) &&
    decide (repositoryRootKey lower candidate.identity.workingCopyRoot pass.pathCase ≠
      repositoryRootKey lower session.identity.workingCopyRoot pass.pathCase)

def movedCandidates (session : OpenSession) : List RepositoryDiscoveryCandidate :=
  (unopenedDiscoveryCandidates lower pass.candidates pass.existingSessions pass.pathCase).filter
    (pass.movedCandidateMatchesSession lower · session)

/-- The call of `openSingleCandidate`. -/
def openCandidate (candidate : RepositoryDiscoveryCandidate) (session : OpenSession) :
    Except Text OpenSession :=
  pass.openDiscoveredRepository session (openSingleCandidateRequest lower pass.candidates
    candidate pass.pathCase pass.existingSessions pass.fileExternalBoundaries)

/-- The open sessions without that of one repository. -/
def without (sessions : List OpenSession) (session : OpenSession) : List OpenSession :=
  sessions.eraseP fun other => decide (other.repositoryId = session.repositoryId)

/-- `closeRepository`, then `openSingleCandidate`.  A repository that is open already is refused by
`openWorkingCopy`. -/
def moveTo (candidate : RepositoryDiscoveryCandidate) (sessions : List OpenSession)
    (session : OpenSession) : List OpenSession × MoveResult :=
  let left := without sessions session
  match pass.closeRepository session with
  | .refused code => (sessions, .closeFailed code)
  | .cleanupFailed code => (left, .closeFailed code)
  | .closed =>
    match pass.openCandidate lower candidate session with
    | .error code => (left, .openFailed code)
    | .ok opened =>
      if left.any fun other => decide (other.repositoryId = opened.repositoryId) then
        (left, .openFailed "SUBVERSIONR_REPOSITORY_SESSION_ALREADY_OPEN")
      else (left ++ [opened], .moved opened)

def moveTurn (sessions : List OpenSession) (session : OpenSession) : List OpenSession × MoveTurn :=
  match pass.movedCandidates lower session with
  | [] => (sessions, .noCandidate)
  | [candidate] =>
    let (sessions, result) := pass.moveTo lower candidate sessions session
    (sessions, .chosen candidate result)
  | candidates => (sessions, .ambiguousCandidates candidates.length)

/-- The open sessions and the turns of a loop over the missing sessions. -/
def recover : List OpenSession → List OpenSession → List OpenSession × List MoveTurn
  | sessions, [] => (sessions, [])
  | sessions, session :: rest =>
    let (sessions, turn) := pass.moveTurn lower sessions session
    let (sessions, turns) := recover sessions rest
    (sessions, turn :: turns)

def recoverMovedRepositories : List OpenSession × List MoveTurn :=
  pass.recover lower pass.openSessions pass.missingSessions

/-! ## What a pass loses -/

/-- The only candidate of a session. -/
def sole (session : OpenSession) : Option RepositoryDiscoveryCandidate :=
  match pass.movedCandidates lower session with
  | [candidate] => some candidate
  | _ => none

/-- The cleanup of a close that has a candidate fails. -/
def Dropped (session : OpenSession) : Prop :=
  (pass.sole lower session).isSome ∧ ∃ code, pass.closeRepository session = .cleanupFailed code

/-- The session goes: it has a candidate and its close is not refused. -/
def Leaves (session : OpenSession) : Prop :=
  (pass.sole lower session).isSome ∧ ∀ code, pass.closeRepository session ≠ .refused code

/-- What the open call for a session answers, if it is made. -/
def answer (session : OpenSession) : Option (Except Text OpenSession) :=
  match pass.sole lower session, pass.closeRepository session with
  | some candidate, .closed => some (pass.openCandidate lower candidate session)
  | _, _ => none

def Brings (session : OpenSession) (repositoryId : Text) : Prop :=
  ∃ opened, pass.answer lower session = some (.ok opened) ∧ opened.repositoryId = repositoryId

/-- After some of the missing sessions have had their turn, a repository is open that was open or
that a call has opened, unless its session has left since. -/
def OpenAfter (ids : List Text) (turns : List OpenSession) (repositoryId : Text) : Prop :=
  (repositoryId ∈ ids ∧ ∀ other ∈ turns, pass.Leaves lower other →
    other.repositoryId ≠ repositoryId) ∨
  ∃ session later, session :: later <:+ turns ∧ pass.Brings lower session repositoryId ∧
    ∀ other ∈ later, pass.Leaves lower other → other.repositoryId ≠ repositoryId

/-- The open call for a session is made and fails: it answers an error, or with a repository that
is open. -/
def OpenFails (ids : List Text) (before : List OpenSession) (session : OpenSession) : Prop :=
  ∃ answer, pass.answer lower session = some answer ∧ ∀ opened, answer = .ok opened →
    pass.OpenAfter lower ids before opened.repositoryId ∧
      opened.repositoryId ≠ session.repositoryId

variable {lower pass} {sessions : List OpenSession} {session : OpenSession}

theorem candidate?_moveTurn :
    (pass.moveTurn lower sessions session).2.candidate? = pass.sole lower session := by
  unfold moveTurn sole
  rcases pass.movedCandidates lower session with _ | ⟨candidate, _ | ⟨_, _⟩⟩ <;> rfl

theorem candidates_recover (missing : List OpenSession) :
    (pass.recover lower sessions missing).2.map MoveTurn.candidate? =
      missing.map (pass.sole lower) := by
  induction missing generalizing sessions with
  | nil => rfl
  | cons session rest ih => exact congrArg₂ List.cons candidate?_moveTurn ih

/-- What a turn does when the session has a candidate. -/
theorem moveTurn_of_sole {candidate : RepositoryDiscoveryCandidate}
    (h : pass.sole lower session = some candidate) :
    pass.moveTurn lower sessions session =
      ((pass.moveTo lower candidate sessions session).1,
        .chosen candidate (pass.moveTo lower candidate sessions session).2) := by
  unfold sole at h
  unfold moveTurn
  split at h
  · rename_i heq
    cases h
    rw [heq]
  · cases h

/-- Without a candidate the turn does nothing. -/
theorem moveTurn_of_none (h : pass.sole lower session = none) :
    (pass.moveTurn lower sessions session).1 = sessions ∧
      (pass.moveTurn lower sessions session).2.isOpenFailed = false := by
  unfold sole at h
  unfold moveTurn
  rcases hc : pass.movedCandidates lower session with _ | ⟨candidate, _ | ⟨_, _⟩⟩
  · exact ⟨rfl, rfl⟩
  · rw [hc] at h
    cases h
  · exact ⟨rfl, rfl⟩

/-- **What one turn does to the open sessions**, by the answers to its two calls. -/
inductive TurnOutcome (lower : Text → Text) (pass : MovedPass) (sessions : List OpenSession)
    (session : OpenSession) : List OpenSession → Bool → Prop
  /-- No candidate, or the close is refused. -/
  | stays (hleaves : ¬ pass.Leaves lower session) (hanswer : pass.answer lower session = none) :
    TurnOutcome lower pass sessions session sessions false
  | dropped (hdropped : pass.Dropped lower session) (hleaves : pass.Leaves lower session)
      (hanswer : pass.answer lower session = none) :
    TurnOutcome lower pass sessions session (without sessions session) false
  | openFailed (answer : Except Text OpenSession) (hdropped : ¬ pass.Dropped lower session)
      (hleaves : pass.Leaves lower session) (hanswer : pass.answer lower session = some answer)
      (hused : ∀ opened, answer = .ok opened →
        opened.repositoryId ∈ (without sessions session).map OpenSession.repositoryId) :
    TurnOutcome lower pass sessions session (without sessions session) true
  | moved (opened : OpenSession) (hdropped : ¬ pass.Dropped lower session)
      (hleaves : pass.Leaves lower session)
      (hanswer : pass.answer lower session = some (.ok opened))
      (hfree : opened.repositoryId ∉ (without sessions session).map OpenSession.repositoryId) :
    TurnOutcome lower pass sessions session (without sessions session ++ [opened]) false

theorem moveTurn_outcome (lower : Text → Text) (pass : MovedPass) (sessions : List OpenSession)
    (session : OpenSession) :
    TurnOutcome lower pass sessions session (pass.moveTurn lower sessions session).1
      (pass.moveTurn lower sessions session).2.isOpenFailed := by
  cases hsole : pass.sole lower session with
  | none =>
    rw [(moveTurn_of_none hsole).1, (moveTurn_of_none hsole).2]
    exact .stays (by simp [Leaves, hsole]) (by simp [answer, hsole])
  | some candidate =>
    rw [moveTurn_of_sole hsole]
    unfold moveTo
    cases hclose : pass.closeRepository session with
    | refused code =>
      exact .stays (by simp [Leaves, hclose]) (by simp [answer, hsole, hclose])
    | cleanupFailed code =>
      exact .dropped ⟨by simp [hsole], code, hclose⟩ ⟨by simp [hsole], by simp [hclose]⟩
        (by simp [answer, hsole, hclose])
    | closed =>
      have hdropped : ¬ pass.Dropped lower session := by simp [Dropped, hclose]
      have hleaves : pass.Leaves lower session := ⟨by simp [hsole], by simp [hclose]⟩
      have hanswer : pass.answer lower session =
          some (pass.openCandidate lower candidate session) := by
        simp [answer, hsole, hclose]
      cases hopen : pass.openCandidate lower candidate session with
      | error code => exact .openFailed _ hdropped hleaves (hopen ▸ hanswer) (by simp)
      | ok opened =>
        dsimp only
        split
        · rename_i hused
          refine .openFailed _ hdropped hleaves (hopen ▸ hanswer) fun other hother => ?_
          cases hother
          simpa [List.mem_map] using hused
        · rename_i hfree
          exact .moved opened hdropped hleaves (hopen ▸ hanswer) (by simpa using hfree)

section

variable (hdistinct : (sessions.map OpenSession.repositoryId).Nodup)

include hdistinct

theorem mem_ids_without {repositoryId : Text} :
    repositoryId ∈ (without sessions session).map OpenSession.repositoryId ↔
      repositoryId ∈ sessions.map OpenSession.repositoryId ∧
        session.repositoryId ≠ repositoryId := by
  have hmap : (without sessions session).map OpenSession.repositoryId =
      (sessions.map OpenSession.repositoryId).erase session.repositoryId := by
    unfold without
    rw [List.erase_eq_eraseP, List.eraseP_map]
    congr 2
    funext other
    rw [Bool.eq_iff_iff, Function.comp_apply, beq_iff_eq, decide_eq_true_iff, eq_comm]
  rw [hmap, hdistinct.mem_erase_iff, and_comm, ne_comm]

/-- A turn keeps the repositories distinct, and opens and closes what its calls say. -/
theorem ids_moveTurn :
    ((pass.moveTurn lower sessions session).1.map OpenSession.repositoryId).Nodup ∧
    ∀ id, id ∈ (pass.moveTurn lower sessions session).1.map OpenSession.repositoryId ↔
      (id ∈ sessions.map OpenSession.repositoryId ∧
        (pass.Leaves lower session → session.repositoryId ≠ id)) ∨
      pass.Brings lower session id := by
  have hmem := @mem_ids_without sessions session hdistinct
  have hleft : ((without sessions session).map OpenSession.repositoryId).Nodup :=
    hdistinct.sublist (List.eraseP_sublist.map _)
  have houtcome := moveTurn_outcome lower pass sessions session
  generalize (pass.moveTurn lower sessions session).1 = after at houtcome ⊢
  generalize (pass.moveTurn lower sessions session).2.isOpenFailed = failed at houtcome
  cases houtcome with
  | stays hleaves hanswer => exact ⟨hdistinct, by simp [Brings, hleaves, hanswer]⟩
  | dropped _ hleaves hanswer =>
    exact ⟨hleft, fun id => by rw [hmem]; simp [Brings, hleaves, hanswer]⟩
  | openFailed answer _ hleaves hanswer hused =>
    refine ⟨hleft, fun id => ?_⟩
    rw [hmem]
    refine ⟨fun h => .inl ⟨h.1, fun _ => h.2⟩, ?_⟩
    rintro (h | ⟨opened, hopened, rfl⟩)
    · exact ⟨h.1, h.2 hleaves⟩
    · cases hanswer.symm.trans hopened
      exact hmem.mp (hused opened rfl)
  | moved opened _ hleaves hanswer hfree =>
    refine ⟨?_, fun id => ?_⟩
    · rw [List.map_append, List.nodup_append]
      refine ⟨hleft, by simp, fun id hid other hother heq => hfree ?_⟩
      rwa [← List.mem_singleton.mp hother, ← heq]
    · rw [List.map_append, List.mem_append, hmem]
      simp [Brings, hleaves, hanswer, eq_comm]

end

/-- One turn loses the session exactly if its cleanup fails or the candidate is not opened. -/
theorem moveTurn_spec (hopen : session ∈ sessions) :
    (∀ other ∈ sessions, other.repositoryId ≠ session.repositoryId →
      other ∈ (pass.moveTurn lower sessions session).1) ∧
    ((pass.moveTurn lower sessions session).1.length = sessions.length ∨
      (pass.moveTurn lower sessions session).1.length + 1 = sessions.length) ∧
    ((pass.moveTurn lower sessions session).1.length < sessions.length ↔
      pass.Dropped lower session ∨
        (pass.moveTurn lower sessions session).2.isOpenFailed = true) := by
  have hleft : (without sessions session).length + 1 = sessions.length := by
    rw [without, List.length_eraseP_of_mem hopen (by simp)]
    have := List.length_pos_of_mem hopen
    omega
  have hkept : ∀ other ∈ sessions, other.repositoryId ≠ session.repositoryId →
      other ∈ without sessions session :=
    fun other hother hne => (List.mem_eraseP_of_neg (by simpa using hne)).mpr hother
  have houtcome := moveTurn_outcome lower pass sessions session
  generalize (pass.moveTurn lower sessions session).1 = after at houtcome ⊢
  generalize (pass.moveTurn lower sessions session).2.isOpenFailed = failed at houtcome ⊢
  cases houtcome with
  | stays hleaves =>
    have hdropped : ¬ pass.Dropped lower session := fun ⟨hsole, _, hfailed⟩ =>
      hleaves ⟨hsole, by simp [hfailed]⟩
    exact ⟨fun _ h _ => h, .inl rfl, by simp [hdropped]⟩
  | dropped hdropped => exact ⟨hkept, .inr hleft, by simp [hdropped, ← hleft]⟩
  | openFailed => exact ⟨hkept, .inr hleft, by simp [← hleft]⟩
  | moved opened hdropped =>
    exact ⟨fun other hother hne => List.mem_append_left _ (hkept other hother hne),
      .inl (by simp [← hleft]), by simp [hdropped, ← hleft]⟩

theorem recover_cons (rest : List OpenSession) :
    pass.recover lower sessions (session :: rest) =
      ((pass.recover lower (pass.moveTurn lower sessions session).1 rest).1,
        (pass.moveTurn lower sessions session).2 ::
          (pass.recover lower (pass.moveTurn lower sessions session).1 rest).2) := rfl

/-- A pass loses a session exactly if one of its turns does. -/
theorem length_recover {missing : List OpenSession}
    (hopen : ∀ session ∈ missing, session ∈ sessions)
    (hdistinct : (missing.map OpenSession.repositoryId).Nodup) :
    (pass.recover lower sessions missing).1.length ≤ sessions.length ∧
    ((pass.recover lower sessions missing).1.length < sessions.length ↔
      (∃ session ∈ missing, pass.Dropped lower session) ∨
        ∃ turn ∈ (pass.recover lower sessions missing).2, turn.isOpenFailed = true) := by
  induction missing generalizing sessions with
  | nil => simp [recover]
  | cons session rest ih =>
    obtain ⟨hnot, hrest⟩ := List.nodup_cons.mp hdistinct
    obtain ⟨hkept, hlength, hlost⟩ :=
      @moveTurn_spec lower pass sessions session (hopen session List.mem_cons_self)
    obtain ⟨_, hlater⟩ := @ih (pass.moveTurn lower sessions session).1 (fun other hother =>
      hkept other (hopen other (List.mem_cons_of_mem _ hother))
        fun heq => hnot (heq ▸ List.mem_map_of_mem hother)) hrest
    rw [recover_cons]
    simp only [List.exists_mem_cons_iff]
    rw [or_or_or_comm, ← hlost, ← hlater]
    omega

/-! ## The open repositories in the middle of a pass -/

/-- **Which repositories are open after some turns**, from the answers alone. -/
theorem mem_recover (turns : List OpenSession)
    (hdistinct : (sessions.map OpenSession.repositoryId).Nodup) (id : Text) :
    id ∈ (pass.recover lower sessions turns).1.map OpenSession.repositoryId ↔
      pass.OpenAfter lower (sessions.map OpenSession.repositoryId) turns id := by
  induction turns generalizing sessions with
  | nil => simp [recover, OpenAfter]
  | cons session rest ih =>
    obtain ⟨hnodup, hids⟩ := @ids_moveTurn lower pass sessions session hdistinct
    rw [recover_cons, ih hnodup, OpenAfter, OpenAfter, hids]
    simp only [List.suffix_cons_iff, List.cons.injEq, List.forall_mem_cons]
    constructor
    · rintro (⟨⟨hid, hstays⟩ | hbrings, hrest⟩ | ⟨other, later, hsuffix, hother⟩)
      · exact .inl ⟨hid, hstays, hrest⟩
      · exact .inr ⟨session, rest, .inl ⟨rfl, rfl⟩, hbrings, hrest⟩
      · exact .inr ⟨other, later, .inr hsuffix, hother⟩
    · rintro (⟨hid, hstays, hrest⟩ | ⟨other, later, ⟨rfl, rfl⟩ | hsuffix, hother⟩)
      · exact .inl ⟨.inl ⟨hid, hstays⟩, hrest⟩
      · exact .inl ⟨.inr hother.1, hother.2⟩
      · exact .inr ⟨other, later, hsuffix, hother⟩

/-- A turn fails to open its candidate exactly if its call answers an error or an open
repository. -/
theorem isOpenFailed_moveTurn (hdistinct : (sessions.map OpenSession.repositoryId).Nodup) :
    (pass.moveTurn lower sessions session).2.isOpenFailed = true ↔
      ∃ answer, pass.answer lower session = some answer ∧ ∀ opened, answer = .ok opened →
        opened.repositoryId ∈ sessions.map OpenSession.repositoryId ∧
          opened.repositoryId ≠ session.repositoryId := by
  have hmem := @mem_ids_without sessions session hdistinct
  have houtcome := moveTurn_outcome lower pass sessions session
  generalize (pass.moveTurn lower sessions session).1 = after at houtcome
  generalize (pass.moveTurn lower sessions session).2.isOpenFailed = failed at houtcome ⊢
  cases houtcome with
  | stays _ hanswer => simp [hanswer]
  | dropped _ _ hanswer => simp [hanswer]
  | openFailed answer _ _ hanswer hused =>
    refine iff_of_true rfl ⟨answer, hanswer, fun opened hopened => ?_⟩
    exact (hmem.mp (hused opened hopened)).imp_right Ne.symm
  | moved opened _ _ hanswer hfree =>
    refine iff_of_false nofun ?_
    rintro ⟨answer, hsome, hused⟩
    cases hanswer.symm.trans hsome
    exact hfree (hmem.mpr ((hused opened rfl).imp_right Ne.symm))

theorem nodup_recover (turns : List OpenSession)
    (hdistinct : (sessions.map OpenSession.repositoryId).Nodup) :
    ((pass.recover lower sessions turns).1.map OpenSession.repositoryId).Nodup := by
  induction turns generalizing sessions with
  | nil => exact hdistinct
  | cons session rest ih => exact ih (ids_moveTurn hdistinct).1

/-- A failed turn, and the sessions whose turn came before it. -/
theorem exists_turn_iff {missing : List OpenSession} :
    (∃ turn ∈ (pass.recover lower sessions missing).2, turn.isOpenFailed = true) ↔
      ∃ before session after, missing = before ++ session :: after ∧
        (pass.moveTurn lower (pass.recover lower sessions before).1 session).2.isOpenFailed =
          true := by
  induction missing generalizing sessions with
  | nil => simp [recover]
  | cons session rest ih =>
    rw [recover_cons, List.exists_mem_cons_iff, ih]
    simp only [List.cons_eq_append_iff]
    constructor
    · rintro (hfailed | ⟨before, other, after, rfl, hfailed⟩)
      · exact ⟨[], session, rest, .inl ⟨rfl, rfl⟩, hfailed⟩
      · exact ⟨session :: before, other, after, .inr ⟨before, rfl, rfl⟩, hfailed⟩
    · rintro ⟨before, other, after, ⟨rfl, heq⟩ | ⟨before, rfl, rfl⟩, hfailed⟩
      · cases heq
        exact .inl hfailed
      · exact .inr ⟨before, other, after, rfl, hfailed⟩

/-- Some open call of a pass fails exactly if one does by the answers to the calls. -/
theorem exists_isOpenFailed_iff {missing : List OpenSession}
    (hdistinct : (sessions.map OpenSession.repositoryId).Nodup) :
    (∃ turn ∈ (pass.recover lower sessions missing).2, turn.isOpenFailed = true) ↔
      ∃ before session after, missing = before ++ session :: after ∧
        pass.OpenFails lower (sessions.map OpenSession.repositoryId) before session := by
  simp only [exists_turn_iff, isOpenFailed_moveTurn (nodup_recover _ hdistinct),
    mem_recover _ hdistinct, OpenFails]

/-! ## Safe passes -/

/-- What is asked of a pass. -/
structure Safe (lower : Text → Text) (pass : MovedPass) : Prop where
  /-- No candidate is chosen for two sessions. -/
  injective : ((pass.recoverMovedRepositories lower).2.filterMap MoveTurn.candidate?).Nodup
  /-- When a session is closed, its candidate is not taken. -/
  untaken : ∀ before turn after,
    (pass.recoverMovedRepositories lower).2 = before ++ turn :: after →
      turn.candidate?.isSome → turn.candidate? ∉ before.map MoveTurn.candidate?
  /-- If sessions are lost, some candidate was not opened, and it was its first use. -/
  lossless : (pass.recoverMovedRepositories lower).1.length < pass.openSessions.length →
    ∃ before turn after, (pass.recoverMovedRepositories lower).2 = before ++ turn :: after ∧
      turn.isOpenFailed = true ∧ turn.candidate? ∉ before.map MoveTurn.candidate?

theorem untaken_of_nodup {turns before after : List MoveTurn} {turn : MoveTurn}
    (hnodup : (turns.filterMap MoveTurn.candidate?).Nodup) (heq : turns = before ++ turn :: after)
    (hchosen : turn.candidate?.isSome) : turn.candidate? ∉ before.map MoveTurn.candidate? := by
  intro hmem
  obtain ⟨other, hother, hsame⟩ := List.mem_map.mp hmem
  obtain ⟨candidate, hcandidate⟩ := Option.isSome_iff_exists.mp hchosen
  rw [heq, List.filterMap_append, List.nodup_append] at hnodup
  exact hnodup.2.2 candidate (List.mem_filterMap.mpr ⟨other, hother, hsame.trans hcandidate⟩)
    candidate (List.mem_filterMap.mpr ⟨turn, List.mem_cons_self, hcandidate⟩) rfl

/-- **When a recovery is safe.**  Exactly if no two missing sessions have the same only candidate,
and, if a close fails after the session is gone, then some open call of the pass fails too. -/
theorem recovery_safe_iff (lower : Text → Text) (pass : MovedPass) :
    Safe lower pass ↔ (pass.missingSessions.filterMap (pass.sole lower)).Nodup ∧
      ((∃ session ∈ pass.missingSessions, pass.Dropped lower session) →
        ∃ before session after, pass.missingSessions = before ++ session :: after ∧
          pass.OpenFails lower (pass.openSessions.map OpenSession.repositoryId) before
            session) := by
  have hcandidates := @candidates_recover lower pass pass.openSessions pass.missingSessions
  obtain ⟨-, hlost⟩ := @length_recover lower pass _ _ (fun _ h => pass.missing_open.subset h)
    (pass.distinct.sublist (pass.missing_open.map _))
  rw [← exists_isOpenFailed_iff pass.distinct]
  have hfilter : (pass.recoverMovedRepositories lower).2.filterMap MoveTurn.candidate? =
      pass.missingSessions.filterMap (pass.sole lower) := by
    have := congrArg (List.filterMap id) hcandidates
    rwa [List.filterMap_map, List.filterMap_map] at this
  constructor
  · intro h
    refine ⟨hfilter ▸ h.injective, fun hdropped => ?_⟩
    obtain ⟨before, turn, after, heq, hfailed, -⟩ := h.lossless (hlost.mpr (.inl hdropped))
    exact ⟨turn, heq ▸ List.mem_append_right _ List.mem_cons_self, hfailed⟩
  · rintro ⟨hnodup, hdropped⟩
    rw [← hfilter] at hnodup
    refine ⟨hnodup, fun _ _ _ => untaken_of_nodup hnodup, fun hless => ?_⟩
    obtain ⟨turn, hturn, hfailed⟩ : ∃ turn ∈ (pass.recoverMovedRepositories lower).2,
        turn.isOpenFailed = true := (hlost.mp hless).elim hdropped id
    obtain ⟨before, after, heq⟩ := List.append_of_mem hturn
    refine ⟨before, turn, after, heq, hfailed, untaken_of_nodup hnodup heq ?_⟩
    cases turn with
    | chosen candidate result => rfl
    | _ => cases hfailed

end MovedPass

/-! ## Two checkouts, one new place -/

namespace MovedRepositoriesExample

open DiscoveryPlanningExample (workingCopy)

def session (repositoryId root : Text) : OpenSession where
  repositoryId := repositoryId
  epoch := 1
  identity := workingCopy root
  watchScope :=
    { repositoryId, epoch := 1, workingCopyRoot := root, pathCase := .caseSensitive
      boundaryRoots := none }

/-- Both checkouts of a repository are gone, and one of them stands at `/ws/c`. -/
def pass : MovedPass where
  openSessions := [session "a" "/ws/a", session "b" "/ws/b"]
  missingSessions := [session "a" "/ws/a", session "b" "/ws/b"]
  existingSessions := []
  candidates := [⟨workingCopy "/ws/c", false, false, none⟩]
  fileExternalBoundaries := []
  pathCase := .caseSensitive
  closeRepository _ := .closed
  openDiscoveredRepository _ _ := .ok (session "c" "/ws/c")
  missing_open := .refl _
  distinct := by decide

/-- The second one is closed for a candidate that the first one has taken. -/
theorem second_checkout_lost :
    pass.recoverMovedRepositories id =
      ([session "c" "/ws/c"],
        [.chosen ⟨workingCopy "/ws/c", false, false, none⟩ (.moved (session "c" "/ws/c")),
          .chosen ⟨workingCopy "/ws/c", false, false, none⟩
            (.openFailed "SUBVERSIONR_REPOSITORY_SESSION_ALREADY_OPEN")]) ∧
      ¬ MovedPass.Safe id pass := by
  refine ⟨by decide +kernel, fun h => absurd h.injective (by decide +kernel)⟩

end MovedRepositoriesExample

end SubversionR
