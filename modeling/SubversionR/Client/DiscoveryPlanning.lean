import SubversionR.Daemon.Discovery
import SubversionR.Client.SessionService

/-!
# The boundaries of a discovered working copy — `repositoryDiscoveryPlanning.ts`

Before a discovered working copy is opened, the extension collects the roots below it that belong to
other working copies: the nested and external candidates, the sessions already open and the file
externals.  The session service later refuses the whole opening if one of them lies outside.

The two sides decide "below" differently.  The session service asks whether the key of the root
starts with the key of the working copy and a slash; the planner only looks for a slash at the
position where the key of the working copy would end.

* `Collected` — what the collecting loop keeps, one turn at a time;
* `boundary_roots_acceptable_iff` — the planned boundaries are what the opening asks for exactly if
  no root the planner looks at is mistaken for one below the working copy;
* `automatic_open_outermost_iff` — automatic opening takes the outermost candidates exactly if none
  of them is mistaken for one below another.
-/

namespace SubversionR

/-! ## The planner -/

section Planner

-- `lower` is `toLocaleLowerCase`
variable (lower : Text → Text)

def repositoryRootKey (root : Text) (pathCase : PathCasePolicy) : Text :=
  pathCaseKey lower pathCase (normalizeAbsolutePath root)

/-- `childRootKey.slice(parentRootKey.length).startsWith("/")`, in UTF-16 code units. -/
def isDescendantRootKey (childRootKey parentRootKey : Text) : Bool :=
  (childRootKey.utf16.drop parentRootKey.utf16.length).head? = some '/'.toNat

/-- The two variables `addBoundaryRoot` writes. -/
structure BoundaryPlan where
  seen : List Text
  boundaryRoots : List Text

def BoundaryPlan.empty : BoundaryPlan := ⟨[], []⟩

def addBoundaryRoot (pathCase : PathCasePolicy) (selectedRootKey : Text) (plan : BoundaryPlan)
    (root : Text) : BoundaryPlan :=
  let rootKey := repositoryRootKey lower root pathCase
  if rootKey = selectedRootKey ∨ rootKey ∈ plan.seen ∨
      isDescendantRootKey rootKey selectedRootKey = false then plan
  else ⟨rootKey :: plan.seen, plan.boundaryRoots ++ [root]⟩

/-- A candidate the first loop of `discoveryBoundaryRoots` does not skip. -/
def isBoundaryCandidate (pathCase : PathCasePolicy) (selectedRootKey : Text)
    (candidate : RepositoryDiscoveryCandidate) : Bool :=
  if candidate.isNested = false ∧ candidate.isExternal = false then false
  else
    match candidate.parentWorkingCopyRoot with
    | none => false
    | some parent =>
      -- the empty text is falsy
      decide (parent ≠ []) &&
        decide (repositoryRootKey lower parent pathCase = selectedRootKey)

def discoveryBoundaryRoots (candidates : List RepositoryDiscoveryCandidate)
    (selected : RepositoryDiscoveryCandidate) (pathCase : PathCasePolicy)
    (openSessions : List OpenSession) (fileExternalBoundaries : List Text) : List Text :=
  let selectedRootKey :=
    repositoryRootKey lower selected.identity.workingCopyRoot pathCase
  let add := addBoundaryRoot lower pathCase selectedRootKey
  let nested := candidates.foldl
    (fun plan candidate =>
      if isBoundaryCandidate lower pathCase selectedRootKey candidate then
        add plan candidate.identity.workingCopyRoot
      else plan)
    BoundaryPlan.empty
  let opened := openSessions.foldl
    (fun plan session => add plan session.identity.workingCopyRoot) nested
  (fileExternalBoundaries.foldl add opened).boundaryRoots

/-- The request `openSingleCandidate` makes for a candidate. -/
def openSingleCandidateRequest (candidates : List RepositoryDiscoveryCandidate)
    (candidate : RepositoryDiscoveryCandidate) (pathCase : PathCasePolicy)
    (openSessions : List OpenSession) (fileExternalBoundaries : List Text) :
    RepositoryOpenRequest where
  path := candidate.identity.workingCopyRoot
  pathCase := pathCase
  boundaryRoots :=
    let boundaryRoots := discoveryBoundaryRoots lower candidates candidate pathCase
      openSessions fileExternalBoundaries
    if boundaryRoots = [] then none else some boundaryRoots

/-- The roots the three loops hand to `addBoundaryRoot`, in their order. -/
def consideredRoots (candidates : List RepositoryDiscoveryCandidate)
    (selected : RepositoryDiscoveryCandidate) (pathCase : PathCasePolicy)
    (openSessions : List OpenSession) (fileExternalBoundaries : List Text) : List Text :=
  let selectedRootKey :=
    repositoryRootKey lower selected.identity.workingCopyRoot pathCase
  ((candidates.filter (isBoundaryCandidate lower pathCase selectedRootKey)).map
      (·.identity.workingCopyRoot) ++
    openSessions.map (·.identity.workingCopyRoot)) ++ fileExternalBoundaries

end Planner

/-- One key lies strictly below another. -/
def IsBelow (parentKey childKey : Text) : Prop := ∃ rest : Text, childKey = parentKey ++ '/' :: rest

/-! ## The two tests -/

theorem utf16_append (front back : Text) :
    Text.utf16 (front ++ back) = Text.utf16 front ++ Text.utf16 back := by
  simp [Text.utf16]

variable {parentKey childKey : Text}

/-- The planner takes every key below the working copy. -/
theorem isDescendantRootKey_of_isBelow (h : IsBelow parentKey childKey) :
    isDescendantRootKey childKey parentKey = true := by
  obtain ⟨rest, rfl⟩ := h
  have hslash : Text.utf16 ('/' :: rest) = '/'.toNat :: Text.utf16 rest := rfl
  simp [isDescendantRootKey, utf16_append, hslash]

theorem isBelow_iff_isPrefixOf :
    IsBelow parentKey childKey ↔ (parentKey ++ ['/']).isPrefixOf childKey = true := by
  rw [List.isPrefixOf_iff_prefix]
  constructor
  · intro h
    obtain ⟨rest, rfl⟩ := h
    exact ⟨rest, by simp⟩
  · intro h
    obtain ⟨rest, hrest⟩ := h
    exact ⟨rest, by simp [← hrest]⟩

theorem ne_of_isBelow (h : IsBelow parentKey childKey) : childKey ≠ parentKey := by
  obtain ⟨_, rfl⟩ := h
  simp

theorem ne_of_isDescendantRootKey (h : isDescendantRootKey childKey parentKey = true) :
    childKey ≠ parentKey := by
  intro heq
  subst heq
  simp [isDescendantRootKey] at h

section Results

variable {lower : Text → Text}

variable {roots : List Text}

/-- The session service accepts a list of roots exactly if each lies below the working copy. -/
theorem validateBoundaryRootScopeFrom_eq_ok_iff {pathCase : PathCasePolicy} {rootKey : Text}
    {index : Nat} :
    validateBoundaryRootScopeFrom lower pathCase rootKey index roots = .ok () ↔
      ∀ root ∈ roots, IsBelow rootKey (repositoryRootKey lower root pathCase) := by
  induction roots generalizing index with
  | nil => simp [validateBoundaryRootScopeFrom]
  | cons root rest ih =>
    have hkey : pathCaseKey lower pathCase (normalizeAbsolutePath root) =
        repositoryRootKey lower root pathCase := rfl
    rw [validateBoundaryRootScopeFrom, List.forall_mem_cons]
    simp only [hkey]
    by_cases hbelow : IsBelow rootKey (repositoryRootKey lower root pathCase)
    · rw [if_neg (by simp [ne_of_isBelow hbelow, isBelow_iff_isPrefixOf.mp hbelow]), ih]
      simp [hbelow]
    · have hout : (rootKey ++ ['/']).isPrefixOf
          (repositoryRootKey lower root pathCase) = false := by
        rw [← Bool.not_eq_true]
        exact fun h => hbelow (isBelow_iff_isPrefixOf.mpr h)
      rw [if_pos (Or.inr hout)]
      simp [hbelow]

/-! ## The collecting loop -/

/-- What the planner has collected after it looked at `roots`. -/
structure Collected (lower : Text → Text) (pathCase : PathCasePolicy)
    (selectedRootKey : Text) (roots : List Text) (plan : BoundaryPlan) : Prop where
  mem_seen_iff : ∀ key, key ∈ plan.seen ↔
    ∃ root ∈ plan.boundaryRoots, repositoryRootKey lower root pathCase = key
  distinct : (plan.boundaryRoots.map (repositoryRootKey lower · pathCase)).Nodup
  taken : ∀ root ∈ plan.boundaryRoots, root ∈ roots ∧
    isDescendantRootKey (repositoryRootKey lower root pathCase) selectedRootKey = true
  complete : ∀ root ∈ roots,
    isDescendantRootKey (repositoryRootKey lower root pathCase) selectedRootKey = true →
      repositoryRootKey lower root pathCase ∈ plan.seen

variable {pathCase : PathCasePolicy} {selectedRootKey : Text}

theorem Collected.empty :
    Collected lower pathCase selectedRootKey [] BoundaryPlan.empty where
  mem_seen_iff := by simp [BoundaryPlan.empty]
  distinct := by simp [BoundaryPlan.empty]
  taken := by simp [BoundaryPlan.empty]
  complete := by simp

/-- One turn of a loop. -/
theorem Collected.add {plan : BoundaryPlan}
    (h : Collected lower pathCase selectedRootKey roots plan) (root : Text) :
    Collected lower pathCase selectedRootKey (roots ++ [root])
      (addBoundaryRoot lower pathCase selectedRootKey plan root) := by
  unfold addBoundaryRoot
  extract_lets rootKey
  split
  · rename_i hskip
    refine ⟨h.mem_seen_iff, h.distinct, ?_, ?_⟩
    · intro other hother
      have htaken := h.taken other hother
      exact ⟨List.mem_append_left _ htaken.1, htaken.2⟩
    · intro other hother hlooks
      rcases List.mem_append.mp hother with hold | hnew
      · exact h.complete other hold hlooks
      · -- the root was skipped: its key is there already, or it does not look like one below
        rw [List.mem_singleton] at hnew
        subst hnew
        rcases hskip with hselected | hseen | hoff
        · exact absurd hselected (ne_of_isDescendantRootKey hlooks)
        · exact hseen
        · exact absurd (hlooks.symm.trans hoff) (by simp)
  · rename_i htake
    simp only [not_or, Bool.not_eq_false] at htake
    obtain ⟨-, hfresh, hlooks⟩ := htake
    have hnew : ∀ other ∈ plan.boundaryRoots,
        repositoryRootKey lower other pathCase ≠ rootKey := fun other hother heq =>
      hfresh ((h.mem_seen_iff rootKey).mpr ⟨other, hother, heq⟩)
    refine ⟨?_, ?_, ?_, ?_⟩
    · intro key
      simp only [List.mem_cons, List.mem_append, h.mem_seen_iff key, List.not_mem_nil, or_false]
      constructor
      · rintro (rfl | ⟨other, hother, hkey⟩)
        · exact ⟨root, Or.inr rfl, rfl⟩
        · exact ⟨other, Or.inl hother, hkey⟩
      · rintro ⟨other, hother | rfl, hkey⟩
        · exact Or.inr ⟨other, hother, hkey⟩
        · exact Or.inl hkey.symm
    · rw [List.map_append, List.nodup_append]
      refine ⟨h.distinct, by simp, ?_⟩
      intro key hkey _ hkey'
      obtain ⟨other, hother, rfl⟩ := List.mem_map.mp hkey
      obtain ⟨_, hother', rfl⟩ := List.mem_map.mp hkey'
      rw [List.mem_singleton] at hother'
      subst hother'
      exact hnew other hother
    · intro other hother
      rcases List.mem_append.mp hother with hold | hlast
      · have htaken := h.taken other hold
        exact ⟨List.mem_append_left _ htaken.1, htaken.2⟩
      · rw [List.mem_singleton] at hlast
        subst hlast
        exact ⟨by simp, hlooks⟩
    · intro other hother hlooks'
      rcases List.mem_append.mp hother with hold | hlast
      · exact List.mem_cons_of_mem _ (h.complete other hold hlooks')
      · rw [List.mem_singleton] at hlast
        subst hlast
        exact List.mem_cons_self

/-- All turns. -/
theorem Collected.foldl {plan : BoundaryPlan}
    (h : Collected lower pathCase selectedRootKey roots plan) (more : List Text) :
    Collected lower pathCase selectedRootKey (roots ++ more)
      (more.foldl (addBoundaryRoot lower pathCase selectedRootKey) plan) := by
  induction more generalizing roots plan with
  | nil => simpa using h
  | cons root more ih =>
    have hstep := ih (h.add root)
    rwa [List.append_assoc, List.singleton_append] at hstep

end Results

section Planned

variable (lower : Text → Text) (candidates : List RepositoryDiscoveryCandidate)
  (selected : RepositoryDiscoveryCandidate) (pathCase : PathCasePolicy)
  (openSessions : List OpenSession) (fileExternalBoundaries : List Text)

/-- The three loops are one loop over the considered roots. -/
theorem discoveryBoundaryRoots_eq_foldl :
    discoveryBoundaryRoots lower candidates selected pathCase openSessions
        fileExternalBoundaries =
      ((consideredRoots lower candidates selected pathCase openSessions
          fileExternalBoundaries).foldl
        (addBoundaryRoot lower pathCase
          (repositoryRootKey lower selected.identity.workingCopyRoot pathCase))
        BoundaryPlan.empty).boundaryRoots := by
  simp only [discoveryBoundaryRoots, consideredRoots, List.foldl_append, List.foldl_map,
    List.foldl_filter]

/-- What the opening asks of the planned boundaries. -/
structure AcceptableBoundaries (boundaryRoots : List Text) : Prop where
  below : ∀ root ∈ boundaryRoots,
    IsBelow (repositoryRootKey lower selected.identity.workingCopyRoot pathCase)
      (repositoryRootKey lower root pathCase)
  distinct : (boundaryRoots.map (repositoryRootKey lower · pathCase)).Nodup
  complete : ∀ root ∈ openSessions.map (·.identity.workingCopyRoot) ++ fileExternalBoundaries,
    IsBelow (repositoryRootKey lower selected.identity.workingCopyRoot pathCase)
        (repositoryRootKey lower root pathCase) →
      ∃ boundaryRoot ∈ boundaryRoots, repositoryRootKey lower boundaryRoot pathCase =
        repositoryRootKey lower root pathCase
  accepted : ∀ path : Text,
    validateBoundaryRootScope lower selected.identity.workingCopyRoot
      ⟨path, pathCase, some boundaryRoots⟩ = .ok ()

/-- Every considered root with a slash where the key of the working copy would end lies below the
working copy. -/
def Aligned : Prop :=
  ∀ root ∈ consideredRoots lower candidates selected pathCase openSessions
      fileExternalBoundaries,
    isDescendantRootKey (repositoryRootKey lower root pathCase)
        (repositoryRootKey lower selected.identity.workingCopyRoot pathCase) = true →
      IsBelow (repositoryRootKey lower selected.identity.workingCopyRoot pathCase)
        (repositoryRootKey lower root pathCase)

/-- **The planned boundaries are acceptable exactly if the slashes tell the truth.**  Distinct keys
and completeness hold in any case; a root beside the working copy whose key happens to have a slash
at the right position is planned too, and then the session service refuses the list. -/
theorem boundary_roots_acceptable_iff :
    AcceptableBoundaries lower selected pathCase openSessions fileExternalBoundaries
        (discoveryBoundaryRoots lower candidates selected pathCase openSessions
          fileExternalBoundaries) ↔
      Aligned lower candidates selected pathCase openSessions
        fileExternalBoundaries := by
  have hcollected : Collected lower pathCase
      (repositoryRootKey lower selected.identity.workingCopyRoot pathCase)
      ([] ++ consideredRoots lower candidates selected pathCase openSessions
        fileExternalBoundaries) _ := Collected.empty.foldl _
  rw [discoveryBoundaryRoots_eq_foldl]
  generalize List.foldl _ BoundaryPlan.empty _ = plan at hcollected ⊢
  constructor
  · -- a mistaken root has its key in the plan, and so a planned root outside
    intro h root hroot hlooks
    have hseen := hcollected.complete root hroot hlooks
    obtain ⟨planned, hplanned, hkey⟩ := (hcollected.mem_seen_iff _).mp hseen
    rw [← hkey]
    exact h.below planned hplanned
  · intro haligned
    have hbelow : ∀ root ∈ plan.boundaryRoots,
        IsBelow (repositoryRootKey lower selected.identity.workingCopyRoot pathCase)
          (repositoryRootKey lower root pathCase) := fun root hroot =>
      haligned root (hcollected.taken root hroot).1 (hcollected.taken root hroot).2
    refine ⟨hbelow, hcollected.distinct, ?_, ?_⟩
    · intro root hroot hroot'
      have hconsidered : root ∈ consideredRoots lower candidates selected pathCase
          openSessions fileExternalBoundaries := by
        rw [consideredRoots, List.append_assoc]
        exact List.mem_append_right _ hroot
      exact (hcollected.mem_seen_iff _).mp
        (hcollected.complete root hconsidered (isDescendantRootKey_of_isBelow hroot'))
    · intro _
      exact validateBoundaryRootScopeFrom_eq_ok_iff.mpr hbelow

end Planned

/-! ## What is opened automatically -/

section AutomaticOpen

variable (lower : Text → Text) (candidates : List RepositoryDiscoveryCandidate)
  (openSessions : List OpenSession) (pathCase : PathCasePolicy)

def candidateRootKey (candidate : RepositoryDiscoveryCandidate) : Text :=
  repositoryRootKey lower candidate.identity.workingCopyRoot pathCase

def unopenedDiscoveryCandidates : List RepositoryDiscoveryCandidate :=
  let openRootKeys := openSessions.map fun session =>
    repositoryRootKey lower session.identity.workingCopyRoot pathCase
  candidates.filter fun candidate =>
    !openRootKeys.contains (candidateRootKey lower pathCase candidate)

/-- `automaticOpenCandidates` of `repositoryLifecycleService.ts`, which has its own copies of
`repositoryRootKey` and `isDescendantRootKey`. -/
def automaticOpenCandidates : List RepositoryDiscoveryCandidate :=
  let unopenedCandidates :=
    unopenedDiscoveryCandidates lower candidates openSessions pathCase
  let unopenedRootKeys := unopenedCandidates.map (candidateRootKey lower pathCase)
  unopenedCandidates.filter fun candidate =>
    let rootKey := candidateRootKey lower pathCase candidate
    !unopenedRootKeys.any fun ancestorRootKey =>
      ancestorRootKey != rootKey && isDescendantRootKey rootKey ancestorRootKey

/-- A candidate that is the root of no open session. -/
structure Unopened (candidate : RepositoryDiscoveryCandidate) : Prop where
  discovered : candidate ∈ candidates
  closed : ∀ session ∈ openSessions,
    repositoryRootKey lower session.identity.workingCopyRoot pathCase ≠
      candidateRootKey lower pathCase candidate

/-- An unopened candidate below no other unopened candidate. -/
structure Outermost (candidate : RepositoryDiscoveryCandidate) : Prop where
  unopened : Unopened lower candidates openSessions pathCase candidate
  not_below : ∀ ancestor, Unopened lower candidates openSessions pathCase ancestor →
    ¬ IsBelow (candidateRootKey lower pathCase ancestor)
      (candidateRootKey lower pathCase candidate)

variable {lower candidates openSessions pathCase}

theorem mem_unopenedDiscoveryCandidates {candidate : RepositoryDiscoveryCandidate} :
    candidate ∈ unopenedDiscoveryCandidates lower candidates openSessions pathCase ↔
      Unopened lower candidates openSessions pathCase candidate := by
  simp only [unopenedDiscoveryCandidates, List.mem_filter, Bool.not_eq_true',
    List.contains_eq_mem, decide_eq_false_iff_not, List.mem_map, not_exists, not_and]
  exact ⟨fun h => ⟨h.1, h.2⟩, fun h => ⟨h.discovered, h.closed⟩⟩

/-- The filter keeps the unopened candidates that have no slash where another one ends. -/
theorem mem_automaticOpenCandidates {candidate : RepositoryDiscoveryCandidate} :
    candidate ∈ automaticOpenCandidates lower candidates openSessions pathCase ↔
      Unopened lower candidates openSessions pathCase candidate ∧
        ∀ ancestor, Unopened lower candidates openSessions pathCase ancestor →
          isDescendantRootKey (candidateRootKey lower pathCase candidate)
            (candidateRootKey lower pathCase ancestor) = false := by
  simp only [automaticOpenCandidates, List.mem_filter, mem_unopenedDiscoveryCandidates,
    Bool.not_eq_true', List.any_map, List.any_eq_false, Function.comp_apply, Bool.and_eq_true,
    bne_iff_ne, not_and, Bool.not_eq_true]
  constructor
  · intro h
    refine ⟨h.1, fun ancestor hancestor => ?_⟩
    by_contra hlooks
    rw [Bool.not_eq_false] at hlooks
    have hne := (ne_of_isDescendantRootKey hlooks).symm
    exact absurd (h.2 ancestor hancestor hne) (by simp [hlooks])
  · intro h
    exact ⟨h.1, fun ancestor hancestor _ => h.2 ancestor hancestor⟩

variable (lower candidates openSessions pathCase)

/-- Every unopened candidate with a slash where another one ends does lie below some unopened
candidate. -/
def AlignedCandidates : Prop :=
  ∀ candidate ancestor, Unopened lower candidates openSessions pathCase candidate →
    Unopened lower candidates openSessions pathCase ancestor →
    isDescendantRootKey (candidateRootKey lower pathCase candidate)
      (candidateRootKey lower pathCase ancestor) = true →
    ∃ above, Unopened lower candidates openSessions pathCase above ∧
      IsBelow (candidateRootKey lower pathCase above)
        (candidateRootKey lower pathCase candidate)

/-- **The outermost unopened candidates are opened exactly if the slashes tell the truth.**  No
candidate below another one is ever taken; an outermost one is dropped if its key has a slash at the
position where the key of an unrelated candidate ends. -/
theorem automatic_open_outermost_iff :
    (∀ candidate,
        candidate ∈ automaticOpenCandidates lower candidates openSessions pathCase ↔
          Outermost lower candidates openSessions pathCase candidate) ↔
      AlignedCandidates lower candidates openSessions pathCase := by
  constructor
  · intro h candidate ancestor hunopened hancestor hlooks
    by_contra hnone
    have houtermost : Outermost lower candidates openSessions pathCase candidate :=
      ⟨hunopened, fun above habove hbelow => hnone ⟨above, habove, hbelow⟩⟩
    have hkept := mem_automaticOpenCandidates.mp ((h candidate).mpr houtermost)
    exact absurd (hkept.2 ancestor hancestor) (by simp [hlooks])
  · intro haligned candidate
    rw [mem_automaticOpenCandidates]
    constructor
    · intro h
      refine ⟨h.1, fun ancestor hancestor hbelow => ?_⟩
      exact absurd (h.2 ancestor hancestor) (by simp [isDescendantRootKey_of_isBelow hbelow])
    · intro houtermost
      refine ⟨houtermost.unopened, fun ancestor hancestor => ?_⟩
      by_contra hlooks
      rw [Bool.not_eq_false] at hlooks
      obtain ⟨above, habove, hbelow⟩ :=
        haligned candidate ancestor houtermost.unopened hancestor hlooks
      exact houtermost.not_below above habove hbelow

end AutomaticOpen

/-! ## A sibling of the same length -/

namespace DiscoveryPlanningExample

def workingCopy (root : Text) : RepositoryIdentity :=
  ⟨"uuid", "file:///repository", root, "/ws", 31⟩

def selected : RepositoryDiscoveryCandidate := ⟨workingCopy "/ws/aaa", false, false, none⟩

/-- A session open below a sibling of the selected working copy. -/
def openSession : OpenSession where
  repositoryId := "repository"
  epoch := 1
  identity := workingCopy "/ws/bbb/c"
  watchScope :=
    { repositoryId := "repository"
      epoch := 1
      workingCopyRoot := "/ws/bbb/c"
      pathCase := .caseSensitive
      boundaryRoots := none }

/-- `/ws/bbb/c` has its last slash where `/ws/aaa` ends, is planned as a boundary of `/ws/aaa`, and
the session service refuses to open `/ws/aaa`. -/
theorem sibling_root_refused :
    discoveryBoundaryRoots id [selected] selected .caseSensitive [openSession] [] =
        ["/ws/bbb/c".toList] ∧
      validateBoundaryRootScope id selected.identity.workingCopyRoot
          (openSingleCandidateRequest id [selected] selected .caseSensitive [openSession] []) =
        .error (.boundaryRootOutsideWorkingCopy "boundaryRoots.0") ∧
      ¬ AcceptableBoundaries id selected .caseSensitive [openSession] []
          (discoveryBoundaryRoots id [selected] selected .caseSensitive [openSession] []) := by
  refine ⟨by decide +kernel, by decide +kernel, ?_⟩
  intro h
  exact absurd (h.accepted "/ws/aaa") (by decide +kernel)

def nested : RepositoryDiscoveryCandidate := ⟨workingCopy "/ws/bbb/c", false, false, none⟩

/-- Neither `/ws/aaa` nor `/ws/bbb/c` lies below the other, and only the first is opened. -/
theorem sibling_candidate_dropped :
    automaticOpenCandidates id [selected, nested] [] .caseSensitive = [selected] ∧
      Outermost id [selected, nested] [] .caseSensitive nested := by
  refine ⟨by decide +kernel, ⟨by simp, by simp⟩, fun ancestor hancestor => ?_⟩
  rw [isBelow_iff_isPrefixOf]
  rcases List.mem_pair.mp hancestor.discovered with rfl | rfl <;> decide +kernel

end DiscoveryPlanningExample

end SubversionR
