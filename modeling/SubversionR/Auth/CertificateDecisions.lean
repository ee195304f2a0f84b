import SubversionR.Auth.CertificateTrust
import SubversionR.Lib.Run

/-!
# Certificate decisions — trust is given for what the user saw

A request that shares a prompt gets the decision the user made for another request, and every
decision is used after an await.  The prompt key holds the realm, the fingerprint and whether a
record may be stored; it does not hold the host and the failures, which the prompt shows as well.
Neither the handler nor the prompt asks for the trust of the workspace again.

* `GivesTrust` — an event answers with trust, or writes a record;
* `Justified` — the workspace is trusted and the trust rests on a record or on a prompt that showed
  the same certificate;
* `Steady` — what an event must meet: the workspace is trusted when the code goes on, the record is
  still the one that was read, and a pending prompt shows the same host and failures;
* `Linked` — what holds of the requests and their prompts along such runs;
* `trust_is_justified`.
-/

namespace SubversionR

namespace CertificateTrustRequest

/-- A prompt for `shown` shows what a prompt for `request` would. -/
def Shows (shown request : CertificateTrustRequest) : Prop :=
  shown.realm = request.realm ∧ shown.host = request.host ∧
    shown.fingerprint = request.fingerprint ∧ shown.failures = request.failures

theorem shows_refl (request : CertificateTrustRequest) : request.Shows request :=
  ⟨rfl, rfl, rfl, rfl⟩

section

variable {hash : TextHash} {request request' : CertificateTrustRequest}

theorem storageKey_inj
    (h : request.certificateTrustStorageKey hash = request'.certificateTrustStorageKey hash) :
    request.realm = request'.realm := by
  have hdigest := hash.injective (List.append_cancel_left h)
  exact (List.cons.inj (List.append_cancel_left hdigest)).2

/-- The separator does not occur in a storage key. -/
theorem separator_notMem_storageKey (hash : TextHash) (request : CertificateTrustRequest) :
    '\x00' ∉ request.certificateTrustStorageKey hash := by
  unfold certificateTrustStorageKey
  rw [List.mem_append, not_or]
  exact ⟨by decide, hash.separator_notMem _ (by decide)⟩

/-- The prompt key keeps realms and fingerprints apart. -/
theorem promptKey_inj (h : request.fingerprintAlgorithm = request'.fingerprintAlgorithm)
    (hkey : request.certificatePromptKey hash = request'.certificatePromptKey hash) :
    request.realm = request'.realm ∧ request.fingerprint = request'.fingerprint := by
  obtain ⟨hstorage, hrest⟩ := append_cons_inj (separator_notMem_storageKey hash request)
    (separator_notMem_storageKey hash request') hkey
  rw [h] at hrest
  have hflag := (List.cons.inj (List.append_cancel_left hrest)).2
  refine ⟨storageKey_inj hstorage, ?_⟩
  -- the flag at the end holds no separator, so the text is cut at the last one
  have hreversed := congrArg List.reverse hflag
  simp only [List.reverse_append, List.reverse_cons, List.append_assoc, List.singleton_append]
    at hreversed
  have hfree : ∀ flag : Bool, '\x00' ∉ (if flag then "true" else "false" : Text).reverse := by
    decide
  exact List.reverse_inj.mp (append_cons_inj (hfree _) (hfree _) hreversed).2

/-- A response of the piece after the read that trusts rests on the record. -/
theorem afterRead_trust {raw : Option StoredText} {response : CertificateTrustResponse}
    (h : request.afterRead hash raw = some response) (htrust : response.isTrust = true) :
    ∃ stored record, raw = some stored ∧ StoredCertificateTrust.ofStored stored = some record ∧
      record.fingerprint = request.fingerprint ∧
      record.fingerprintAlgorithm = request.fingerprintAlgorithm := by
  unfold afterRead at h
  split at h
  · split at h
    · cases h
      cases htrust
    · cases h
  · rename_i stored
    split at h
    · cases h
      cases htrust
    · rename_i record hrecord
      split at h
      · rename_i hmatches
        unfold matchesRecord at hmatches
        simp only [Bool.and_eq_true, decide_eq_true_eq] at hmatches
        exact ⟨stored, record, rfl, hrecord, hmatches⟩
      · split at h
        · cases h
          cases htrust
        · cases h

/-- A request that is not answered at once has the supported algorithm. -/
theorem entry_eq_none {trusted : Bool} (h : request.entry hash trusted = none) :
    request.fingerprintAlgorithm = supportedFingerprintAlgorithm := by
  unfold entry at h
  split at h
  · cases h
  split at h
  · cases h
  split at h
  · cases h
  · rename_i hsupported
    exact not_not.mp hsupported

theorem entry_not_trust {trusted : Bool} {response : CertificateTrustResponse}
    (h : request.entry hash trusted = some response) : response.isTrust = false := by
  unfold entry at h
  split at h
  · cases h
    rfl
  · split at h
    · cases h
      rfl
    · split at h <;> cases h
      rfl

/-- The prompt answers with trust, or stores, only if the user has picked trust. -/
theorem afterDecision_picked {result : PromptResult}
    (h : request.afterDecision hash result = .stores ∨
      ∃ response, request.afterDecision hash result = .answers response ∧
        response.isTrust = true) : ∃ trust, result = .trusted trust := by
  cases result with
  | trusted trust => exact ⟨trust, rfl⟩
  | timeout | dismissed | rejected =>
    rcases h with h | ⟨response, h, htrust⟩
    · cases h
    · cases h
      cases htrust

end

end CertificateTrustRequest

namespace TrustSystem

/-! ## Trust and what it rests on -/

/-- A record for the certificate of the request is stored. -/
def HasRecord (hash : TextHash) (system : TrustSystem) (request : CertificateTrustRequest) : Prop :=
  ∃ stored record, system.secretStorage (request.certificateTrustStorageKey hash) = some stored ∧
    StoredCertificateTrust.ofStored stored = some record ∧
    record.fingerprint = request.fingerprint ∧
    record.fingerprintAlgorithm = request.fingerprintAlgorithm

/-- The user has picked trust in a prompt that showed what the request is about. -/
def UserTrusts (system : TrustSystem) (request : CertificateTrustRequest) : Prop :=
  ∃ p, (system.prompts p).picked.isSome = true ∧ (system.prompts p).request.Shows request

def Justified (hash : TextHash) (system : TrustSystem) (request : CertificateTrustRequest) : Prop :=
  system.workspaceTrusted = true ∧ (system.HasRecord hash request ∨ system.UserTrusts request)

/-- Between the two states a request is answered with trust, or a record is written for it. -/
def GivesTrust (system system' : TrustSystem) (request : CertificateTrustRequest) : Prop :=
  (∃ n response, (∀ earlier, (system.calls n).stage ≠ .responded earlier) ∧
      (system'.calls n).stage = .responded response ∧ response.isTrust = true ∧
      (system'.calls n).request = request) ∨
    ∃ p written, (system.prompts p).stage = .asking ∧
      (system'.prompts p).stage = .storing written ∧ (system'.prompts p).request = request

/-- The workspace is trusted when the code goes on after an await, the record is still the one that
was read, and a pending prompt shows the same host and failures. -/
def Steady (hash : TextHash) (system : TrustSystem) : TrustEvent → Prop
  | .resume n =>
    system.workspaceTrusted = true ∧
      (∀ raw, (system.calls n).stage = .hasRead raw →
        system.secretStorage ((system.calls n).request.certificateTrustStorageKey hash) = raw) ∧
      ∀ p, system.pendingInteractivePrompts ((system.calls n).request.certificatePromptKey hash) =
          some p →
        (system.prompts p).request.host = (system.calls n).request.host ∧
          (system.prompts p).request.failures = (system.calls n).request.failures
  | .decide .. => system.workspaceTrusted = true
  | .deliver _ => system.workspaceTrusted = true
  | _ => True

/-! ## What an event does -/

/-- **What an event can do.** -/
inductive TrustStep (hash : TextHash) (system : TrustSystem) : TrustEvent → TrustSystem → Prop
  | workspaceTrust (trusted : Bool) :
      TrustStep hash system (.workspaceTrust trusted) { system with workspaceTrusted := trusted }
  | enters (n : Nat) (request : CertificateTrustRequest) (stage : TrustCallStage)
      (stage_eq : (∃ response, stage = .responded response ∧ response.isTrust = false) ∨
        stage = .reading ∧ request.fingerprintAlgorithm = supportedFingerprintAlgorithm) :
      TrustStep hash system (.call n request)
        { system with calls := Function.update system.calls n ⟨request, stage⟩ }
  | reads (n : Nat) (reading : (system.calls n).stage = .reading) :
      TrustStep hash system (.read n) (system.setCall n (.hasRead
        (system.secretStorage ((system.calls n).request.certificateTrustStorageKey hash))))
  | throws (event : TrustEvent) (n : Nat) : TrustStep hash system event (system.setCall n .threw)
  | answers (n : Nat) (raw : Option StoredText) (response : CertificateTrustResponse)
      (hasRead : (system.calls n).stage = .hasRead raw)
      (response_eq : (system.calls n).request.afterRead hash raw = some response) :
      TrustStep hash system (.resume n) (system.setCall n (.responded response))
  | awaits (n : Nat) (raw : Option StoredText) (hasRead : (system.calls n).stage = .hasRead raw) :
      TrustStep hash system (.resume n) (system.awaitPrompt hash n)
  | decides (p : Nat) (result : PromptResult) (written : Bool) (now : Text)
      (asking : (system.prompts p).stage = .asking) :
      TrustStep hash system (.decide p result written now)
        (system.decidePrompt hash p result written now)
  | stored (p : Nat) (storing : (system.prompts p).stage = .storing true) :
      TrustStep hash system (.stored p) (system.setPrompt p { system.prompts p with
        stage := .resolved ((system.prompts p).request.trust .permanent) })
  | rejects (event : TrustEvent) (p : Nat) :
      TrustStep hash system event (system.setPrompt p { system.prompts p with stage := .rejected })
  | delivers (n p : Nat) (created : Bool) (response : CertificateTrustResponse)
      (waiting : (system.calls n).stage = .waiting p created)
      (resolved : (system.prompts p).stage = .resolved response) :
      TrustStep hash system (.deliver n) (system.deliverPrompt hash n p created
        (.responded (response.withRequestId (system.calls n).request.requestId)))
  | deliversError (n p : Nat) (created : Bool) :
      TrustStep hash system (.deliver n) (system.deliverPrompt hash n p created .threw)

theorem step_cases {hash : TextHash} {system system' : TrustSystem} {event : TrustEvent}
    (h : system.step hash event = some system') : TrustStep hash system event system' := by
  cases event with
  | workspaceTrust trusted =>
    cases h
    exact .workspaceTrust trusted
  | call n request =>
    simp only [step] at h
    split at h
    · cases h
      refine .enters n request _ ?_
      split
      -- an answer on entry is never `trust`
      · rename_i response hentry
        exact .inl ⟨response, rfl, CertificateTrustRequest.entry_not_trust hentry⟩
      · rename_i hentry
        exact .inr ⟨rfl, CertificateTrustRequest.entry_eq_none hentry⟩
    · cases h
  | read n =>
    simp only [step] at h
    split at h
    · rename_i hreading
      cases h
      exact .reads n hreading
    · cases h
  | readFails n =>
    simp only [step] at h
    split at h <;> cases h
    exact .throws _ n
  | resume n =>
    simp only [step] at h
    split at h
    · rename_i raw hread
      split at h
      · rename_i response hresponse
        cases h
        exact .answers n raw response hread hresponse
      · cases h
        exact .awaits n raw hread
    · cases h
  | decide p result written now =>
    simp only [step] at h
    split at h
    · rename_i hasking
      split at h
      · cases h
        exact .decides p result written now hasking
      · cases h
    · cases h
  | promptFails p =>
    simp only [step] at h
    split at h <;> cases h
    exact .rejects _ p
  | stored p =>
    simp only [step] at h
    split at h
    · rename_i hstoring
      cases h
      exact .stored p hstoring
    · cases h
      exact .rejects _ p
    · cases h
  | deliver n =>
    simp only [step] at h
    split at h
    · rename_i p created hwaiting
      split at h
      · rename_i response hresolved
        cases h
        exact .delivers n p created response hwaiting hresolved
      · cases h
        exact .deliversError n p created
      · cases h
    · cases h

/-! ## Requests and prompts along a run -/

/-- A prompt in this stage has got a pick that trusts. -/
def Trusting (stage : TrustPromptStage) : Prop :=
  (∃ written, stage = .storing written) ∨
    ∃ response, stage = .resolved response ∧ response.isTrust = true

/-- The calls, the prompts they wait for and the pending prompts fit together. -/
structure Linked (hash : TextHash) (system : TrustSystem) : Prop where
  reading : ∀ {n}, (system.calls n).stage = .reading ∨
      (∃ raw, (system.calls n).stage = .hasRead raw) →
    (system.calls n).request.fingerprintAlgorithm = supportedFingerprintAlgorithm
  waiting : ∀ {n p created}, (system.calls n).stage = .waiting p created →
    p < system.promptCount ∧ (system.prompts p).request.Shows (system.calls n).request
  pending : ∀ {key p}, system.pendingInteractivePrompts key = some p →
    p < system.promptCount ∧ (system.prompts p).request.certificatePromptKey hash = key ∧
      (system.prompts p).request.fingerprintAlgorithm = supportedFingerprintAlgorithm
  picked : ∀ {p}, Trusting (system.prompts p).stage → (system.prompts p).picked.isSome = true

theorem linked_new (hash : TextHash) (trusted : Bool) (storage : Text → Option StoredText) :
    (new trusted storage).Linked hash where
  reading h := by
    rcases h with h | ⟨_, h⟩ <;> cases h
  waiting h := by cases h
  pending h := by cases h
  picked h := by
    rcases h with ⟨_, h⟩ | ⟨_, h, -⟩ <;> cases h

section

variable {hash : TextHash} {system system' : TrustSystem} {n p : Nat}

variable {stage : TrustCallStage}

/-- One call goes on. -/
theorem Linked.setCall (h : system.Linked hash)
    (hreading : stage = .reading ∨ (∃ raw, stage = .hasRead raw) →
      (system.calls n).request.fingerprintAlgorithm = supportedFingerprintAlgorithm)
    (hwaiting : ∀ {p created}, stage = .waiting p created →
      p < system.promptCount ∧ (system.prompts p).request.Shows (system.calls n).request) :
    (system.setCall n stage).Linked hash := by
  have hcalls : ∀ m, (system.setCall n stage).calls m =
      if m = n then { system.calls n with stage } else system.calls m :=
    fun m => Function.update_apply _ _ _ _
  refine ⟨fun {m} hm => ?_, fun {m q created} hm => ?_, h.pending, h.picked⟩
  · rw [hcalls] at hm ⊢
    split at hm
    · rename_i heq
      rw [if_pos heq]
      exact hreading hm
    · rename_i hne
      rw [if_neg hne]
      exact h.reading hm
  · rw [hcalls] at hm ⊢
    split at hm
    · rename_i heq
      rw [if_pos heq]
      exact hwaiting hm
    · rename_i hne
      rw [if_neg hne]
      exact h.waiting hm

/-- One prompt goes on. -/
theorem Linked.setPrompt (h : system.Linked hash) {prompt : TrustPrompt}
    (hrequest : prompt.request = (system.prompts p).request)
    (hpicked : Trusting prompt.stage → prompt.picked.isSome = true) :
    (system.setPrompt p prompt).Linked hash := by
  have hprompts : ∀ q, (system.setPrompt p prompt).prompts q =
      if q = p then prompt else system.prompts q := fun q => Function.update_apply _ _ _ _
  have hrequests : ∀ q, ((system.setPrompt p prompt).prompts q).request =
      (system.prompts q).request := by
    intro q
    rw [hprompts]
    split
    · rename_i heq
      rw [heq, hrequest]
    · rfl
  refine ⟨h.reading, fun {m q created} hm => ?_, fun {key q} hq => ?_, fun {q} hq => ?_⟩
  · rw [hrequests]
    exact h.waiting hm
  · rw [hrequests]
    exact h.pending hq
  · rw [hprompts] at hq ⊢
    split at hq
    · rename_i heq
      rw [if_pos heq]
      exact hpicked hq
    · rename_i hne
      rw [if_neg hne]
      exact h.picked hq

/-- A new prompt is shown and pending. -/
theorem Linked.newPrompt (h : system.Linked hash) {request : CertificateTrustRequest}
    (hsupported : request.fingerprintAlgorithm = supportedFingerprintAlgorithm) :
    Linked hash { (system.setPrompt system.promptCount ⟨request, .asking, none⟩).setPending
      (request.certificatePromptKey hash) (some system.promptCount) with
      promptCount := system.promptCount + 1 } := by
  -- the new prompt takes the next number, so it replaces none that is waited for
  have hprompts : ∀ q, Function.update system.prompts system.promptCount
      ⟨request, .asking, none⟩ q =
        if q = system.promptCount then ⟨request, .asking, none⟩ else system.prompts q :=
    fun q => Function.update_apply _ _ _ _
  refine ⟨h.reading, fun {m q created} hm => ?_, fun {key q} hq => ?_, fun {q} hq => ?_⟩
  · obtain ⟨hlt, hshows⟩ := h.waiting hm
    refine ⟨Nat.lt_succ_of_lt hlt, ?_⟩
    show (Function.update system.prompts system.promptCount _ q).request.Shows _
    rw [hprompts, if_neg (Nat.ne_of_lt hlt)]
    exact hshows
  · have hq : Function.update system.pendingInteractivePrompts
        (request.certificatePromptKey hash) (some system.promptCount) key = some q := hq
    show q < system.promptCount + 1 ∧
      (Function.update system.prompts system.promptCount _ q).request.certificatePromptKey hash =
        key ∧ (Function.update system.prompts system.promptCount _ q).request.fingerprintAlgorithm =
        supportedFingerprintAlgorithm
    rw [Function.update_apply] at hq
    split at hq
    · rename_i heq
      cases hq
      rw [hprompts, if_pos rfl, heq]
      exact ⟨Nat.lt_succ_self _, rfl, hsupported⟩
    · obtain ⟨hlt, hkey, halgorithm⟩ := h.pending hq
      rw [hprompts, if_neg (Nat.ne_of_lt hlt)]
      exact ⟨Nat.lt_succ_of_lt hlt, hkey, halgorithm⟩
  · have hq : Trusting (Function.update system.prompts system.promptCount
        ⟨request, .asking, none⟩ q).stage := hq
    show (Function.update system.prompts system.promptCount ⟨request, .asking, none⟩
      q).picked.isSome = true
    rw [hprompts] at hq ⊢
    split at hq
    · rcases hq with ⟨_, hq⟩ | ⟨_, hq, -⟩ <;> cases hq
    rename_i hne
    rw [if_neg hne]
    exact h.picked hq

theorem Linked.clearPending (h : system.Linked hash) (key : Text) :
    (system.setPending key none).Linked hash := by
  refine ⟨h.reading, h.waiting, fun {key' q} hq => ?_, h.picked⟩
  have hq : Function.update system.pendingInteractivePrompts key none key' = some q := hq
  rw [Function.update_apply] at hq
  split at hq
  · cases hq
  · exact h.pending hq

/-- A request goes on to its prompt. -/
theorem Linked.awaitPrompt (h : system.Linked hash)
    (hsupported : (system.calls n).request.fingerprintAlgorithm = supportedFingerprintAlgorithm)
    (hsame : ∀ p, system.pendingInteractivePrompts
        ((system.calls n).request.certificatePromptKey hash) = some p →
      (system.prompts p).request.host = (system.calls n).request.host ∧
        (system.prompts p).request.failures = (system.calls n).request.failures) :
    (system.awaitPrompt hash n).Linked hash := by
  unfold TrustSystem.awaitPrompt
  dsimp only
  cases hpending : system.pendingInteractivePrompts
      ((system.calls n).request.certificatePromptKey hash) with
  | some p =>
    obtain ⟨hlt, hkey, halgorithm⟩ := h.pending hpending
    obtain ⟨hhost, hfailures⟩ := hsame p hpending
    obtain ⟨hrealm, hfingerprint⟩ :=
      CertificateTrustRequest.promptKey_inj (halgorithm.trans hsupported.symm) hkey
    refine h.setCall (fun hm => ?_) fun hm => ?_
    · rcases hm with hm | ⟨raw, hm⟩ <;> cases hm
    · cases hm
      exact ⟨hlt, hrealm, hhost, hfingerprint, hfailures⟩
  | none =>
    refine (h.newPrompt hsupported).setCall (fun hm => ?_) fun hm => ?_
    · rcases hm with hm | ⟨raw, hm⟩ <;> cases hm
    · cases hm
      refine ⟨Nat.lt_succ_self _, ?_⟩
      show (Function.update system.prompts system.promptCount _ system.promptCount).request.Shows
        (system.calls n).request
      rw [Function.update_self]
      exact CertificateTrustRequest.shows_refl _

theorem Linked.decidePrompt (h : system.Linked hash) {result : PromptResult} {written : Bool}
    {now : Text} : (system.decidePrompt hash p result written now).Linked hash := by
  unfold TrustSystem.decidePrompt
  dsimp only
  cases hanswer : (system.prompts p).request.afterDecision hash result with
  | answers response =>
    refine h.setPrompt rfl fun htrusting => ?_
    rcases htrusting with ⟨written, heq⟩ | ⟨_, heq, htrust⟩
    · cases heq
    · cases heq
      obtain ⟨trust, rfl⟩ :=
        CertificateTrustRequest.afterDecision_picked (.inr ⟨response, hanswer, htrust⟩)
      rfl
  | stores =>
    obtain ⟨trust, rfl⟩ := CertificateTrustRequest.afterDecision_picked (.inl hanswer)
    have hset : (system.setPrompt p { system.prompts p with
        stage := .storing written, picked := some trust }).Linked hash :=
      h.setPrompt rfl fun _ => rfl
    dsimp only
    split
    · exact ⟨hset.reading, hset.waiting, hset.pending, hset.picked⟩
    · exact hset

theorem Linked.deliverPrompt (h : system.Linked hash) {created : Bool}
    (hstage : stage = .threw ∨ ∃ response, stage = .responded response) :
    (system.deliverPrompt hash n p created stage).Linked hash := by
  have hset : (system.setCall n stage).Linked hash := by
    refine h.setCall (fun hm => ?_) fun hm => ?_
    · rcases hstage with rfl | ⟨response, rfl⟩ <;> rcases hm with hm | ⟨raw, hm⟩ <;> cases hm
    · rcases hstage with rfl | ⟨response, rfl⟩ <;> cases hm
  unfold TrustSystem.deliverPrompt
  dsimp only
  split
  · exact hset.clearPending _
  · exact hset

/-- **One event** of a steady run. -/
theorem linked_step {event : TrustEvent} (h : system.Linked hash)
    (hsteady : system.Steady hash event) (hstep : system.step hash event = some system') :
    system'.Linked hash := by
  cases step_cases hstep with
  | workspaceTrust trusted => exact ⟨h.reading, h.waiting, h.pending, h.picked⟩
  -- a call that passes the entry check has a supported algorithm
  | enters n request stage stage_eq =>
    refine ⟨fun {m} hm => ?_, fun {m q created} hm => ?_, h.pending, h.picked⟩
    · dsimp only at hm ⊢
      rw [Function.update_apply] at hm ⊢
      split at hm
      · rename_i heq
        rw [if_pos heq]
        rcases stage_eq with ⟨response, rfl, -⟩ | ⟨-, hsupported⟩
        · rcases hm with hm | ⟨raw, hm⟩ <;> cases hm
        · exact hsupported
      · rename_i hne
        rw [if_neg hne]
        exact h.reading hm
    · dsimp only at hm ⊢
      rw [Function.update_apply] at hm ⊢
      split at hm
      · rcases stage_eq with ⟨response, rfl, -⟩ | ⟨rfl, -⟩ <;> cases hm
      rename_i hne
      rw [if_neg hne]
      exact h.waiting hm
  | reads n reading => exact h.setCall (fun _ => h.reading (.inl reading)) nofun
  | throws event n =>
    refine h.setCall (fun hm => ?_) nofun
    rcases hm with hm | ⟨raw, hm⟩ <;> cases hm
  | answers n raw response hasRead response_eq =>
    refine h.setCall (fun hm => ?_) nofun
    rcases hm with hm | ⟨raw, hm⟩ <;> cases hm
  -- by `Steady` a pending prompt shows the same host and failures
  | awaits n raw hasRead => exact h.awaitPrompt (h.reading (.inr ⟨raw, hasRead⟩)) hsteady.2.2
  | decides p result written now asking => exact h.decidePrompt
  | stored p storing => exact h.setPrompt rfl fun _ => h.picked (.inl ⟨true, storing⟩)
  | rejects event p =>
    refine h.setPrompt rfl fun htrusting => ?_
    rcases htrusting with ⟨written, heq⟩ | ⟨response, heq, -⟩ <;> cases heq
  | delivers n p created response waiting resolved => exact h.deliverPrompt (.inr ⟨_, rfl⟩)
  | deliversError n p created => exact h.deliverPrompt (.inl rfl)

/-! ## Who gives trust -/

variable {request : CertificateTrustRequest}

/-- Only one call changes. -/
theorem GivesTrust.of_setCall (h : GivesTrust system system' request)
    (hcalls : system'.calls = (system.setCall n stage).calls)
    (hprompts : system'.prompts = system.prompts) :
    ∃ response, stage = .responded response ∧ response.isTrust = true ∧
      (system.calls n).request = request := by
  have hself : (system.setCall n stage).calls n = { system.calls n with stage } :=
    Function.update_self ..
  have hother : ∀ m, m ≠ n → system'.calls m = system.calls m := by
    intro m hm
    rw [hcalls]
    exact Function.update_of_ne hm ..
  rcases h with ⟨m, response, hearlier, hstage, htrust, hrequest⟩ |
    ⟨q, written, hasking, hstoring, -⟩
  · by_cases hm : m = n
    · rw [hm, hcalls, hself] at hstage hrequest
      exact ⟨response, hstage, htrust, hrequest⟩
    · rw [hother m hm] at hstage
      exact absurd hstage (hearlier response)
  · rw [hprompts, hasking] at hstoring
    cases hstoring

/-- Only one prompt changes. -/
theorem GivesTrust.of_setPrompt {prompt : TrustPrompt} (h : GivesTrust system system' request)
    (hcalls : system'.calls = system.calls)
    (hprompts : system'.prompts = (system.setPrompt p prompt).prompts) :
    ∃ written, prompt.stage = .storing written ∧ prompt.request = request := by
  have hself : (system.setPrompt p prompt).prompts p = prompt := Function.update_self ..
  have hother : ∀ q, q ≠ p → system'.prompts q = system.prompts q := by
    intro q hq
    rw [hprompts]
    exact Function.update_of_ne hq ..
  rcases h with ⟨_, response, hearlier, hstage, -⟩ | ⟨q, written, hasking, hstoring, hrequest⟩
  · rw [hcalls] at hstage
    exact absurd hstage (hearlier response)
  · by_cases hq : q = p
    · rw [hq, hprompts, hself] at hstoring hrequest
      exact ⟨written, hstoring, hrequest⟩
    · rw [hother q hq, hasking] at hstoring
      cases hstoring

theorem isTrust_withRequestId {response : CertificateTrustResponse} {requestId : Text}
    (h : (response.withRequestId requestId).isTrust = true) : response.isTrust = true := by
  cases response with
  | trust => rfl
  | reject => cases h

/-- A request that starts to wait gets nothing yet. -/
theorem not_givesTrust_awaitPrompt : ¬ GivesTrust system (system.awaitPrompt hash n) request := by
  unfold awaitPrompt
  dsimp only
  split
  · intro h
    obtain ⟨response, hstage, -⟩ := h.of_setCall rfl rfl
    cases hstage
  · rintro (⟨m, response, hearlier, hstage, -⟩ | ⟨q, written, hasking, hstoring, -⟩)
    · have hstage : (Function.update system.calls n _ m).stage = .responded response := hstage
      rw [Function.update_apply] at hstage
      split at hstage
      · cases hstage
      · exact hearlier response hstage
    · have hstoring : (Function.update system.prompts system.promptCount
          ⟨(system.calls n).request, .asking, none⟩ q).stage = .storing written := hstoring
      rw [Function.update_apply] at hstoring
      split at hstoring
      · cases hstoring
      · rw [hasking] at hstoring
        cases hstoring

theorem deliverPrompt_frame (system : TrustSystem) (created : Bool) (stage : TrustCallStage) :
    (system.deliverPrompt hash n p created stage).calls = (system.setCall n stage).calls ∧
      (system.deliverPrompt hash n p created stage).prompts = system.prompts ∧
      (system.deliverPrompt hash n p created stage).workspaceTrusted = system.workspaceTrusted := by
  unfold deliverPrompt
  dsimp only
  split <;> exact ⟨rfl, rfl, rfl⟩

/-- **A step that gives trust has a reason.** -/
theorem justified_step {event : TrustEvent} (h : system.Linked hash)
    (hsteady : system.Steady hash event) (hstep : system.step hash event = some system')
    (hgives : GivesTrust system system' request) : system'.Justified hash request := by
  cases step_cases hstep with
  | workspaceTrust trusted =>
    rcases hgives with ⟨m, response, hearlier, hstage, -⟩ | ⟨q, written, hasking, hstoring, -⟩
    · exact absurd hstage (hearlier response)
    · exact absurd (hasking.symm.trans hstoring) nofun
  | enters n entering stage stage_eq =>
    rcases hgives with ⟨m, response, hearlier, hstage, htrust, -⟩ |
      ⟨q, written, hasking, hstoring, -⟩
    · dsimp only at hstage
      rw [Function.update_apply] at hstage
      split at hstage
      · -- the checks at the entry only reject
        rcases stage_eq with ⟨_, heq, hreject⟩ | ⟨heq, -⟩
        · rw [heq] at hstage
          cases hstage
          exact absurd (hreject.symm.trans htrust) nofun
        · rw [heq] at hstage
          cases hstage
      · exact absurd hstage (hearlier response)
    · exact absurd (hasking.symm.trans hstoring) nofun
  | reads | throws =>
    obtain ⟨response, hstage, -⟩ := hgives.of_setCall rfl rfl
    cases hstage
  | answers n raw response hasRead response_eq =>
    obtain ⟨response', hstage, htrust, hrequest⟩ := hgives.of_setCall rfl rfl
    cases hstage
    obtain ⟨stored, record, hraw, hrecord, hfingerprint, halgorithm⟩ :=
      CertificateTrustRequest.afterRead_trust response_eq htrust
    -- what was read is still stored
    have hstill := hsteady.2.1 raw hasRead
    rw [hraw] at hstill
    rw [hrequest] at hstill hfingerprint halgorithm
    exact ⟨hsteady.1, .inl ⟨stored, record, hstill, hrecord, hfingerprint, halgorithm⟩⟩
  | awaits n raw hasRead => exact absurd hgives not_givesTrust_awaitPrompt
  | decides p result written now asking =>
    unfold decidePrompt at hgives ⊢
    dsimp only at hgives ⊢
    cases hanswer : (system.prompts p).request.afterDecision hash result with
    | answers response =>
      rw [hanswer] at hgives
      obtain ⟨written', hstage, -⟩ := hgives.of_setPrompt rfl rfl
      cases hstage
    | stores =>
      obtain ⟨trust, rfl⟩ := CertificateTrustRequest.afterDecision_picked (.inl hanswer)
      rw [hanswer] at hgives
      -- the record is written for the request of the prompt
      have hjustified : ∀ storage, Justified hash { system.setPrompt p { system.prompts p with
          stage := .storing written, picked := some trust } with secretStorage := storage }
          (system.prompts p).request := by
        intro storage
        have hself : (system.setPrompt p { system.prompts p with
            stage := .storing written, picked := some trust }).prompts p = _ :=
          Function.update_self ..
        refine ⟨hsteady, .inr ⟨p, ?_, ?_⟩⟩ <;> dsimp only <;> rw [hself]
        · rfl
        · exact CertificateTrustRequest.shows_refl _
      cases written with
      | true | false =>
        obtain ⟨written', -, hrequest⟩ := hgives.of_setPrompt rfl rfl
        rw [← hrequest]
        exact hjustified _
  | stored | rejects =>
    obtain ⟨written, hstage, -⟩ := hgives.of_setPrompt rfl rfl
    cases hstage
  | delivers n p created response waiting resolved =>
    obtain ⟨hcalls, hprompts, htrusted⟩ := deliverPrompt_frame system created
      (.responded (response.withRequestId (system.calls n).request.requestId))
    obtain ⟨response', hstage, htrust, hrequest⟩ := hgives.of_setCall hcalls hprompts
    cases hstage
    have hpicked := h.picked (.inr ⟨response, resolved, isTrust_withRequestId htrust⟩)
    have hshows := (h.waiting waiting).2
    rw [hrequest] at hshows
    refine ⟨htrusted.trans hsteady, .inr ⟨p, ?_, ?_⟩⟩
    · rw [hprompts]
      exact hpicked
    · rw [hprompts]
      exact hshows
  | deliversError n p created =>
    obtain ⟨hcalls, hprompts, -⟩ := deliverPrompt_frame system created .threw
    obtain ⟨response, hstage, -⟩ := hgives.of_setCall hcalls hprompts
    cases hstage

end

/-- **Trust is given only for what the user saw.**  In every run whose events are steady, an event
that answers a request with trust or writes a record for it finds the workspace trusted, and a
record of the same realm, fingerprint and algorithm, or a prompt in which the user has picked trust
and which showed the realm, host, fingerprint and failures of the request. -/
theorem trust_is_justified (hash : TextHash) (trusted : Bool) (storage : Text → Option StoredText)
    (events : List TrustEvent) (event : TrustEvent) (system system' : TrustSystem)
    (hsteady : Runs.Along (step hash) (Steady hash) (new trusted storage) events)
    (hrun : Runs.run (step hash) (new trusted storage) events = some system)
    (hnow : system.Steady hash event) (hstep : system.step hash event = some system')
    (request : CertificateTrustRequest) (hgives : GivesTrust system system' request) :
    system'.Justified hash request := by
  have hkeeps : ∀ (s : TrustSystem) (e : TrustEvent) (s' : TrustSystem), s.Linked hash →
      s.Steady hash e → s.step hash e = some s' → s'.Linked hash :=
    fun s e s' => linked_step
  have hlinked : system.Linked hash :=
    Runs.run_invariant hkeeps (linked_new hash trusted storage) hsteady hrun
  exact justified_step hlinked hnow hstep hgives

end TrustSystem

namespace CertificateExample

open TrustSystem

def request : CertificateTrustRequest where
  requestId := "1"
  realm := "realm"
  host := "one.example"
  fingerprint := "aa"
  fingerprintAlgorithm := supportedFingerprintAlgorithm
  failures := ["unknownCa"]
  interactive := true
  persistenceAllowed := false
  origin := .foreground
  timeoutMs := 1000

/-- The same certificate, which has expired since. -/
def other : CertificateTrustRequest :=
  { request with requestId := "2", failures := ["expired", "unknownCa"] }

/-- A record of the certificate. -/
def record : StoredCertificateTrust := ⟨"aa", supportedFingerprintAlgorithm, "then"⟩

def recorded : TrustSystem := new true fun _ => some record.toStored

/-- The record is read for the first request. -/
def readRecord : TrustSystem :=
  (Runs.run (step .sixDigits) recorded [.call 0 request, .read 0]).get rfl

def answered : TrustSystem := readRecord.setCall 0 (.responded (request.trust .permanent))

/-- The response of a call that has ended with one. -/
def responseOf : TrustCallStage → Option CertificateTrustResponse
  | .responded response => some response
  | _ => none

theorem eq_responded {stage : TrustCallStage} {response : CertificateTrustResponse}
    (h : responseOf stage = some response) : stage = .responded response := by
  unfold responseOf at h
  split at h
  · cases h
    rfl
  · cases h

/-- Without a record the user is asked and trusts the certificate. -/
def prompted : List TrustEvent :=
  [.call 0 request, .read 0, .resume 0, .decide 0 (.trusted .once) false "now"]

def decided : TrustSystem :=
  (Runs.run (step .sixDigits) (new true fun _ => none) prompted).get (by decide +kernel)

def told : TrustSystem := (decided.step .sixDigits (.deliver 0)).get (by decide +kernel)

/-- Trust for the sake of a record, and trust that the user gives in a prompt. -/
theorem trusted_certificates_are_justified :
    (GivesTrust readRecord answered request ∧ answered.Justified .sixDigits request) ∧
      GivesTrust decided told request ∧ told.Justified .sixDigits request := by
  have hgives : GivesTrust readRecord answered request :=
    .inl ⟨0, _, fun _ h => (nomatch h), rfl, rfl, rfl⟩
  have hfacts : responseOf (decided.calls 0).stage = none ∧ decided.workspaceTrusted = true ∧
      responseOf (told.calls 0).stage = some (request.trust .once) ∧
      (told.calls 0).request = request := by decide +kernel
  have htold : GivesTrust decided told request := by
    refine .inl ⟨0, _, fun earlier hearlier => ?_, eq_responded hfacts.2.2.1, rfl, hfacts.2.2.2⟩
    exact absurd (hearlier ▸ hfacts.1 : responseOf (.responded earlier) = none) nofun
  refine ⟨⟨hgives, trust_is_justified .sixDigits true (fun _ => some record.toStored)
    [.call 0 request, .read 0] (.resume 0) readRecord answered
    ⟨trivial, fun _ _ => ⟨trivial, fun _ _ => trivial⟩⟩ rfl ⟨rfl, ?_, ?_⟩ rfl request hgives⟩,
    htold, trust_is_justified .sixDigits true (fun _ => none) prompted (.deliver 0) decided told
      ?_ (Option.some_get _).symm hfacts.2.1 (Option.some_get _).symm request htold⟩
  · intro _ hraw
    exact TrustCallStage.hasRead.inj hraw
  · intro _ hp
    cases hp
  · refine ⟨trivial, fun s hs => ⟨trivial, fun s' hs' => ?_⟩⟩
    cases hs
    cases hs'
    refine ⟨⟨rfl, fun _ hraw => TrustCallStage.hasRead.inj hraw, fun _ hp => (nomatch hp)⟩, ?_⟩
    intro s hs
    cases hs
    exact ⟨rfl, fun _ _ => trivial⟩

/-- The second request shares the prompt of the first, and the workspace loses its trust before the
second request goes on. -/
def shared : List TrustEvent :=
  [.call 0 request, .read 0, .resume 0, .call 1 other, .read 1, .resume 1,
    .decide 0 (.trusted .once) false "now", .workspaceTrust false]

def afterShared : TrustSystem :=
  (Runs.run (step .sixDigits) (new true fun _ => none) shared).get (by decide +kernel)

def delivered : TrustSystem := (afterShared.step .sixDigits (.deliver 1)).get (by decide +kernel)

theorem delivered_facts :
    responseOf (afterShared.calls 1).stage = none ∧
      responseOf (delivered.calls 1).stage = some (other.trust .once) ∧
      (delivered.calls 1).request = other ∧ delivered.workspaceTrusted = false ∧
      (delivered.secretStorage (other.certificateTrustStorageKey .sixDigits)).isNone = true ∧
      (delivered.prompts 0).request.failures ≠ other.failures := by
  decide +kernel

set_option maxRecDepth 20000 in
/-- There is one prompt. -/
theorem delivered_prompts (p : Nat) : (delivered.prompts (p + 1)).picked = none := by
  rfl

/-- The second request is answered with trust, in a workspace that is not trusted, without a record
and without a prompt that showed all its failures. -/
theorem unseen_certificate_is_trusted :
    Runs.run (step .sixDigits) (new true fun _ => none) shared = some afterShared ∧
      afterShared.step .sixDigits (.deliver 1) = some delivered ∧
      GivesTrust afterShared delivered other ∧ delivered.workspaceTrusted = false ∧
      ¬ delivered.HasRecord .sixDigits other ∧ ¬ delivered.UserTrusts other := by
  obtain ⟨hbefore, hresponse, hrequest, huntrusted, hrecord, hfailures⟩ := delivered_facts
  refine ⟨(Option.some_get _).symm, (Option.some_get _).symm, ?_, huntrusted, ?_, ?_⟩
  · refine .inl ⟨1, other.trust .once, fun earlier hearlier => ?_, eq_responded hresponse, rfl,
      hrequest⟩
    rw [hearlier] at hbefore
    cases hbefore
  · rintro ⟨_, _, hstored, -⟩
    rw [hstored] at hrecord
    cases hrecord
  · rintro ⟨p, hpicked, -, -, -, hshown⟩
    cases p with
    | zero => exact hfailures hshown
    | succ p =>
      rw [delivered_prompts] at hpicked
      cases hpicked

end CertificateExample

end SubversionR
