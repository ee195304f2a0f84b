import SubversionR.Client.BackendOwnership
import SubversionR.Lib.Run

/-!
# Backend connections — at most one that nobody has given up

A shutdown clears the fields of the service when it ends, whatever they hold by then.  A heartbeat
that fails in the meantime makes room for another connection, and the end of the shutdown forgets
that one without disposing it.  Nothing else lets a connection go.

* `StartupAttempt.WellFormed` — how the race of an attempt can be decided;
* `Owned` — an attempt under way is the startup of the service and can be cancelled, and a
  connection that is neither closed nor about to be closed is the connection of the service;
* `Owned.step` — kept by every event but a shutdown that ends too late;
* `at_most_one_connection` — the property, in every run without such a shutdown.
-/

namespace SubversionR

/-! ## The owner of a connection -/

namespace StartupAttempt

/-- What the race has been decided with, and the handlers that ran, fit the phase. -/
structure WellFormed (attempt : StartupAttempt) : Prop where
  cancelled : attempt.outcome = .cancelled → attempt.cancelled = true
  failed : ∀ code, attempt.outcome = .failed code → attempt.phase = .failed
  connected : attempt.outcome = .connected → attempt.phase = .returned
  returned : attempt.phase = .returned → attempt.outcome ≠ .undecided
  undecided : attempt.outcome = .undecided → attempt.stage = .pending
  handled : attempt.handled = true → attempt.phase = .returned

namespace WellFormed

variable {attempt : StartupAttempt}

theorem of_absent {phase : AttemptPhase} (hphase : phase ≠ .returned) :
    { StartupAttempt.absent with phase }.WellFormed where
  cancelled h := by cases h
  failed code h := by cases h
  connected h := by cases h
  returned h := absurd h hphase
  undecided _ := rfl
  handled h := by cases h

section

variable (h : attempt.WellFormed)

include h

/-- While the starter is awaited nothing but a cancellation decides the race. -/
theorem awaited (hphase : attempt.phase = .sleeping ∨ attempt.phase = .starting) :
    (attempt.outcome = .undecided ∧ attempt.stage = .pending ∨
      attempt.outcome = .cancelled ∧ attempt.cancelled = true) ∧ attempt.handled = false := by
  constructor
  · cases houtcome : attempt.outcome with
    | undecided => exact .inl ⟨rfl, h.undecided houtcome⟩
    | cancelled => exact .inr ⟨rfl, h.cancelled houtcome⟩
    | connected =>
      have hreturned := h.connected houtcome
      rcases hphase with hphase | hphase <;> simp [hphase] at hreturned
    | failed code =>
      have hfailed := h.failed code houtcome
      rcases hphase with hphase | hphase <;> simp [hphase] at hfailed
  · by_contra hhandled
    have hreturned := h.handled (Bool.not_eq_false _ ▸ hhandled)
    rcases hphase with hphase | hphase <;> simp [hphase] at hreturned

theorem wake (hphase : attempt.phase = .sleeping) :
    { attempt with phase := .starting }.WellFormed := by
  obtain ⟨hrace, hhandled⟩ := h.awaited (.inl hphase)
  refine ⟨h.cancelled, fun code houtcome => ?_, fun houtcome => ?_, nofun, h.undecided,
    fun htrue => ?_⟩
  · rcases hrace with ⟨heq, -⟩ | ⟨heq, -⟩ <;> simp [heq] at houtcome
  · rcases hrace with ⟨heq, -⟩ | ⟨heq, -⟩ <;> simp [heq] at houtcome
  · simp [hhandled] at htrue

theorem fail (hphase : attempt.phase = .sleeping ∨ attempt.phase = .starting) (code : Option Text) :
    { attempt.decideRace (.failed code) with phase := .failed }.WellFormed := by
  obtain ⟨hrace, hhandled⟩ := h.awaited hphase
  rcases hrace with ⟨houtcome, -⟩ | ⟨houtcome, hcancelled⟩
  · simp only [decideRace, houtcome]
    exact ⟨nofun, fun _ _ => rfl, nofun, nofun, nofun, by simp [hhandled]⟩
  · simp only [decideRace, houtcome]
    exact ⟨fun _ => hcancelled, by simp, by simp, nofun, by simp, by simp [hhandled]⟩

theorem connect (hphase : attempt.phase = .starting) :
    { attempt.decideRace .connected with phase := .returned }.WellFormed := by
  obtain ⟨hrace, -⟩ := h.awaited (.inr hphase)
  rcases hrace with ⟨houtcome, -⟩ | ⟨houtcome, hcancelled⟩
  · simp only [decideRace, houtcome]
    exact ⟨nofun, nofun, fun _ => rfl, nofun, nofun, fun _ => rfl⟩
  · simp only [decideRace, houtcome]
    exact ⟨fun _ => hcancelled, by simp, fun _ => rfl, by simp, by simp, fun _ => rfl⟩

theorem handle (hphase : attempt.phase = .returned) : { attempt with handled := true }.WellFormed :=
  ⟨h.cancelled, h.failed, h.connected, h.returned, h.undecided, fun _ => hphase⟩

end

theorem settle (h : attempt.WellFormed) (houtcome : attempt.outcome ≠ .undecided)
    (stage : RaceStage) : { attempt with stage }.WellFormed :=
  ⟨h.cancelled, h.failed, h.connected, h.returned, fun hundecided => absurd hundecided houtcome,
    h.handled⟩

theorem cancel (h : attempt.WellFormed) : attempt.cancel.WellFormed := by
  unfold StartupAttempt.cancel decideRace
  cases houtcome : attempt.outcome with
  | undecided =>
    refine ⟨fun _ => rfl, nofun, nofun, nofun, nofun, h.handled⟩
  | cancelled | connected | failed =>
    exact ⟨fun _ => rfl, h.failed, h.connected, h.returned, h.undecided, h.handled⟩

end WellFormed

end StartupAttempt

namespace Ownership

/-- The attempt may still lead to a connection of the service. -/
def Underway (owner : Ownership) (n : Nat) : Prop :=
  (owner.attempts n).cancelled = false ∧ (owner.attempts n).stage = .pending ∧
    (owner.attempts n).phase ≠ .absent ∧ (owner.attempts n).phase ≠ .failed

/-- A handler that is still to run closes the connection, or hands it to the service. -/
def Awaiting (attempt : StartupAttempt) : Prop :=
  attempt.stage = .pending ∧ attempt.outcome = .connected ∨
    attempt.handled = false ∧ attempt.cancelled = true

/-- Every attempt and every connection has an owner. -/
structure Owned (owner : Ownership) : Prop where
  /-- An attempt under way is the startup of the service, and can be cancelled. -/
  underway : ∀ {n}, owner.Underway n → owner.startup = some n ∧ owner.cancellation = some n ∧
    owner.connection = none ∧ owner.disposed = false
  wellFormed : ∀ n, (owner.attempts n).WellFormed
  fresh : ∀ {n}, owner.count ≤ n → owner.attempts n = .absent
  issued : ∀ {n}, owner.cancellation = some n → n < owner.count
  /-- A connection that was returned is closed, or held, or some handler has yet to run. -/
  kept : ∀ {n}, (owner.attempts n).phase = .returned →
    owner.closed n = true ∨ owner.connection = some n ∨ Awaiting (owner.attempts n)
  disposed : owner.disposed = true → owner.connection = none

theorem owned_new (options : BackendServiceOptions) :
    (BackendService.new options).ownership.Owned where
  underway h := absurd rfl h.2.2.1
  wellFormed _ := .of_absent nofun
  fresh _ := rfl
  issued h := by cases h
  kept h := by cases h
  disposed h := by cases h

section

variable {owner : Ownership} {n : Nat} {attempt : StartupAttempt}

theorem attempts_setAttempt (owner : Ownership) (n m : Nat) (attempt : StartupAttempt) :
    (owner.setAttempt n attempt).attempts m = if m = n then attempt else owner.attempts m :=
  Function.update_apply _ _ _ _

theorem closed_setClosed (owner : Ownership) (n m : Nat) (closed : Bool) :
    (owner.setClosed n closed).closed m = if m = n then closed else owner.closed m :=
  Function.update_apply _ _ _ _

section

variable (h : owner.Owned)

include h

/-- An attempt that exists has a number below the count. -/
theorem Owned.lt_count (hexists : owner.attempts n ≠ .absent) : n < owner.count := by
  by_contra hle
  exact hexists (h.fresh (Nat.le_of_not_lt hle))

/-- **One attempt goes on.**  Nothing else comes under way, and no other connection is let go. -/
theorem Owned.change {owner' : Ownership} (hcount : n < owner.count)
    (hattempts : owner'.attempts = Function.update owner.attempts n attempt)
    (hcounts : owner'.count = owner.count) (hwellFormed : attempt.WellFormed)
    (hissued : ∀ m, owner'.cancellation = some m → m < owner.count)
    (hothers : ∀ m, m ≠ n → owner'.closed m = owner.closed m)
    (hconnection : ∀ m, m ≠ n → owner.connection = some m → owner'.connection = some m)
    (hunderway : ∀ m, owner'.Underway m → owner'.startup = some m ∧
      owner'.cancellation = some m ∧ owner'.connection = none ∧ owner'.disposed = false)
    (hkept : attempt.phase = .returned →
      owner'.closed n = true ∨ owner'.connection = some n ∨ Awaiting attempt)
    (hdisposed : owner'.disposed = true → owner'.connection = none) : owner'.Owned := by
  have hattempts : ∀ m, owner'.attempts m = if m = n then attempt else owner.attempts m := by
    intro m
    rw [hattempts, Function.update_apply]
  refine ⟨fun {m} => hunderway m, fun m => ?_, fun {m} hm => ?_, fun {m} hm => ?_, fun {m} hm => ?_,
    hdisposed⟩
  · rw [hattempts]
    split
    · exact hwellFormed
    · exact h.wellFormed m
  · rw [hcounts] at hm
    rw [hattempts, if_neg (by omega)]
    exact h.fresh hm
  · rw [hcounts]
    exact hissued m hm
  · rw [hattempts] at hm ⊢
    by_cases hmn : m = n
    · rw [if_pos hmn] at hm ⊢
      rw [hmn]
      exact hkept hm
    · rw [if_neg hmn] at hm ⊢
      rw [hothers m hmn]
      rcases h.kept hm with hclosed | hheld | hawaiting
      · exact .inl hclosed
      · exact .inr (.inl (hconnection m hmn hheld))
      · exact .inr (.inr hawaiting)

/-- The case in which the fields stay as they are. -/
theorem Owned.changeAttempt (closed : Bool) (hexists : owner.attempts n ≠ .absent)
    (hwellFormed : attempt.WellFormed)
    (hunderway : ((owner.setAttempt n attempt).setClosed n closed).Underway n → owner.Underway n)
    (hkept : attempt.phase = .returned →
      closed = true ∨ owner.connection = some n ∨ Awaiting attempt) :
    ((owner.setAttempt n attempt).setClosed n closed).Owned := by
  refine h.change (h.lt_count hexists) rfl rfl hwellFormed (fun _ => h.issued) (fun m hne => ?_)
    (fun _ _ => id) (fun m hm => ?_) (fun hreturned => ?_) h.disposed
  · rw [closed_setClosed, if_neg hne]
    rfl
  · by_cases hmn : m = n
    · rw [hmn] at hm ⊢
      exact h.underway (hunderway hm)
    · have hm : (owner.setAttempt n attempt).Underway m := hm
      unfold Underway at hm
      rw [attempts_setAttempt, if_neg hmn] at hm
      exact h.underway hm
  · rw [closed_setClosed, if_pos rfl]
    exact hkept hreturned

theorem Owned.setAttempt (hexists : owner.attempts n ≠ .absent) (hwellFormed : attempt.WellFormed)
    (hunderway : (owner.setAttempt n attempt).Underway n → owner.Underway n)
    (hkept : attempt.phase = .returned →
      owner.closed n = true ∨ owner.connection = some n ∨ Awaiting attempt) :
    (owner.setAttempt n attempt).Owned := by
  have howned := h.changeAttempt (owner.closed n) hexists hwellFormed hunderway hkept
  rw [show (owner.setAttempt n attempt).setClosed n (owner.closed n) = _ from
    setClosed_self (owner.setAttempt n attempt) n] at howned
  exact howned

theorem Owned.close (n : Nat) : (owner.setClosed n true).Owned := by
  refine ⟨h.underway, h.wellFormed, h.fresh, h.issued, fun {m} hm => ?_, h.disposed⟩
  rw [closed_setClosed]
  split
  · exact .inl rfl
  · exact h.kept hm

/-- With nothing under way the fields can be cleared, if what they hold is closed. -/
theorem Owned.forget (hidle : ∀ n, ¬ owner.Underway n)
    (hclosed : ∀ n, owner.connection = some n → owner.closed n = true) : owner.forget.Owned := by
  refine ⟨fun hm => absurd hm (hidle _), h.wellFormed, h.fresh, h.issued, fun {m} hm => ?_,
    fun _ => rfl⟩
  rcases h.kept hm with hdone | hheld | hawaiting
  · exact .inl hdone
  · exact .inl (hclosed m hheld)
  · exact .inr (.inr hawaiting)

/-- Nothing is under way while there is a connection. -/
theorem Owned.idle_of_connection (hconnection : owner.connection = some n) (m : Nat) :
    ¬ owner.Underway m := by
  intro hm
  have hnone := (h.underway hm).2.2.1
  rw [hconnection] at hnone
  cases hnone

end

theorem awaiting_cancel (h : Awaiting attempt) : Awaiting attempt.cancel := by
  rcases h with ⟨hstage, houtcome⟩ | ⟨hhandled, -⟩
  · refine .inl ?_
    unfold StartupAttempt.cancel StartupAttempt.decideRace
    rw [houtcome]
    exact ⟨hstage, houtcome⟩
  · refine .inr ⟨?_, rfl⟩
    unfold StartupAttempt.cancel StartupAttempt.decideRace
    split <;> exact hhandled

theorem phase_cancel (attempt : StartupAttempt) : attempt.cancel.phase = attempt.phase := by
  unfold StartupAttempt.cancel StartupAttempt.decideRace
  split <;> rfl

/-- After a cancellation nothing is under way. -/
theorem Owned.cancelStartup (h : owner.Owned) :
    owner.cancelStartup.Owned ∧ ∀ n, ¬ owner.cancelStartup.Underway n := by
  unfold Ownership.cancelStartup
  cases hcancellation : owner.cancellation with
  | none =>
    refine ⟨h, fun n hn => ?_⟩
    have hsome := (h.underway hn).2.1
    rw [hcancellation] at hsome
    cases hsome
  | some n =>
    have hidle : ∀ m, ¬ ({ owner.setAttempt n (owner.attempts n).cancel with
        cancellation := none } : Ownership).Underway m := by
      intro m hm
      unfold Underway at hm
      rw [attempts_setAttempt] at hm
      split at hm
      · exact absurd hm.1 nofun
      -- another attempt under way would be the one to cancel
      rename_i hne
      have hsome := (h.underway hm).2.1
      rw [hcancellation] at hsome
      exact hne (Option.some.inj hsome).symm
    refine ⟨?_, hidle⟩
    refine h.change (h.issued hcancellation) rfl rfl (h.wellFormed n).cancel nofun (fun _ _ => rfl)
      (fun _ _ => id) (fun m hm => absurd hm (hidle m)) (fun hreturned => ?_) h.disposed
    rw [phase_cancel] at hreturned
    rcases h.kept hreturned with hclosed | hheld | hawaiting
    · exact .inl hclosed
    · exact .inr (.inl hheld)
    · exact .inr (.inr (awaiting_cancel hawaiting))

theorem cancelStartup_frame (owner : Ownership) :
    owner.cancelStartup.connection = owner.connection ∧
      owner.cancelStartup.closed = owner.closed := by
  unfold Ownership.cancelStartup
  cases owner.cancellation <;> exact ⟨rfl, rfl⟩

/-- A startup begins where nothing is under way. -/
theorem Owned.begin (h : owner.Owned) {phase : AttemptPhase}
    (hrunning : phase = .sleeping ∨ phase = .starting) (hdisposed : owner.disposed = false)
    (hconnection : owner.connection = none) (hstartup : owner.startup = none) :
    Owned { owner.setAttempt owner.count { StartupAttempt.absent with phase } with
      count := owner.count + 1
      cancellation := some owner.count
      startup := some owner.count } := by
  have hidle : ∀ n, ¬ owner.Underway n := by
    intro n hn
    have hsome := (h.underway hn).1
    rw [hstartup] at hsome
    cases hsome
  have hreturned : phase ≠ .returned := by
    rcases hrunning with rfl | rfl <;> nofun
  -- the count grows first, so that the new attempt is one of those counted
  have hgrown : Owned { owner with count := owner.count + 1 } :=
    ⟨h.underway, h.wellFormed, fun {m} hm => h.fresh (Nat.le_of_succ_le hm),
      fun hm => Nat.lt_succ_of_lt (h.issued hm), h.kept, h.disposed⟩
  refine hgrown.change (Nat.lt_succ_self _) rfl rfl (.of_absent hreturned) ?_ (fun _ _ => rfl)
    (fun _ _ => id) ?_ (fun heq => absurd heq hreturned) fun _ => hconnection
  · intro m hm
    cases hm
    exact Nat.lt_succ_self _
  · intro m hm
    unfold Underway at hm
    rw [attempts_setAttempt] at hm
    split at hm
    · rename_i heq
      rw [heq]
      exact ⟨rfl, rfl, hconnection, hdisposed⟩
    · exact absurd hm (hidle m)

/-- The startup becomes the connection. -/
theorem Owned.connect (h : owner.Owned) (hstage : (owner.attempts n).stage = .pending)
    (houtcome : (owner.attempts n).outcome = .connected) (hdisposed : owner.disposed = false)
    (hcancelled : (owner.attempts n).cancelled = false) :
    Owned { owner.setAttempt n { owner.attempts n with stage := .done } with
      connection := some n
      cancellation := if owner.cancellation = some n then none else owner.cancellation } := by
  have hreturned := (h.wellFormed n).connected houtcome
  have hunderway : owner.Underway n := by
    refine ⟨hcancelled, hstage, ?_, ?_⟩ <;> rw [hreturned] <;> nofun
  obtain ⟨hstartup, hcancellation, hconnection, -⟩ := h.underway hunderway
  have hdecided : (owner.attempts n).outcome ≠ .undecided := by
    rw [houtcome]
    nofun
  refine h.change (h.issued hcancellation) rfl rfl ((h.wellFormed n).settle hdecided _) ?_
    (fun _ _ => rfl) ?_ ?_ (fun _ => .inr (.inl rfl)) ?_
  · intro m hm
    rw [if_pos hcancellation] at hm
    cases hm
  · intro m _ hm
    rw [hconnection] at hm
    cases hm
  · intro m hm
    unfold Underway at hm
    rw [attempts_setAttempt] at hm
    split at hm
    · exact absurd hm.2.1 nofun
    rename_i hne
    have hsome := (h.underway hm).1
    rw [hstartup] at hsome
    exact absurd (Option.some.inj hsome).symm hne
  · intro htrue
    have htrue : owner.disposed = true := htrue
    rw [hdisposed] at htrue
    cases htrue

/-- The handler of the race for an error clears the fields of its own startup only. -/
theorem Owned.catch (h : owner.Owned) (hstage : (owner.attempts n).stage ≠ .pending) :
    Owned { owner.setAttempt n { owner.attempts n with stage := .done } with
      startup := if owner.startup = some n then none else owner.startup
      cancellation := if owner.cancellation = some n then none else owner.cancellation } := by
  have hdecided : (owner.attempts n).outcome ≠ .undecided :=
    fun houtcome => hstage ((h.wellFormed n).undecided houtcome)
  have hexists : owner.attempts n ≠ .absent := by
    intro habsent
    rw [habsent] at hstage
    exact hstage rfl
  refine h.change (h.lt_count hexists) rfl rfl ((h.wellFormed n).settle hdecided _) ?_
    (fun _ _ => rfl) (fun _ _ => id) ?_ ?_ h.disposed
  · intro m hm
    have hm : (if owner.cancellation = some n then none else owner.cancellation) = some m := hm
    split at hm
    · cases hm
    · exact h.issued hm
  · intro m hm
    unfold Underway at hm
    rw [attempts_setAttempt] at hm
    split at hm
    · exact absurd hm.2.1 nofun
    rename_i hne
    obtain ⟨hstartup, hcancellation, hconnection, hdisposed⟩ := h.underway hm
    have hother : ¬ some m = some n := fun heq => hne (Option.some.inj heq)
    refine ⟨?_, ?_, hconnection, hdisposed⟩
    · show (if owner.startup = some n then none else owner.startup) = some m
      rw [hstartup, if_neg hother]
    · show (if owner.cancellation = some n then none else owner.cancellation) = some m
      rw [hcancellation, if_neg hother]
  · intro hreturned
    rcases h.kept hreturned with hclosed | hheld | ⟨hpending, -⟩ | hawaiting
    · exact .inl hclosed
    · exact .inr (.inl hheld)
    · exact absurd hpending hstage
    · exact .inr (.inr (.inr hawaiting))

/-- No shutdown ends while the service holds another connection, or a startup. -/
def Undisturbed (owner : Ownership) : BackendEvent → Prop
  | .shutdownSettled n =>
    owner.connection = some n ∨ owner.connection = none ∧ owner.startup = none
  | _ => True

/-- A connection ends while the service holds it. -/
theorem Owned.give (h : owner.Owned) (hconnection : owner.connection = some n) :
    (owner.setClosed n true).forget.Owned := by
  refine (h.close n).forget (fun m => h.idle_of_connection hconnection m) fun m hm => ?_
  have hm : owner.connection = some m := hm
  rw [hconnection] at hm
  cases hm
  rw [closed_setClosed, if_pos rfl]

/-- What is not under way any more is not under way after the change. -/
theorem not_underway (h : attempt.phase = .failed ∨ attempt.stage ≠ .pending) :
    ¬ (owner.setAttempt n attempt).Underway n := by
  unfold Underway
  rw [attempts_setAttempt, if_pos rfl]
  rintro ⟨-, hstage, -, hphase⟩
  rcases h with h | h
  · exact hphase h
  · exact h hstage

theorem Owned.dispose (h : owner.Owned) : owner.dispose.Owned := by
  obtain ⟨howned, hidle⟩ := h.cancelStartup
  obtain ⟨hconnection, -⟩ := cancelStartup_frame owner
  unfold Ownership.dispose
  cases hheld : owner.connection with
  | none =>
    have hforget := howned.forget hidle fun n hn => by
      rw [hconnection, hheld] at hn
      cases hn
    exact ⟨fun hm => absurd hm (hidle _), hforget.wellFormed, hforget.fresh, hforget.issued,
      hforget.kept, fun _ => rfl⟩
  | some n =>
    have hforget := howned.give (hconnection.trans hheld)
    exact ⟨fun hm => absurd hm (hidle _), hforget.wellFormed, hforget.fresh, hforget.issued,
      hforget.kept, fun _ => rfl⟩

/-- **One event** of a run without such a shutdown. -/
theorem Owned.step {owner' : Ownership} {event : BackendEvent} (h : owner.Owned)
    (hok : owner.Undisturbed event) (hstep : OwnershipStep owner event owner') : owner'.Owned := by
  -- an attempt in any phase but the first exists
  have hexists : ∀ {n}, (owner.attempts n).phase ≠ .absent → owner.attempts n ≠ .absent := by
    intro n hphase habsent
    rw [habsent] at hphase
    exact hphase rfl
  cases hstep with
  | stays => exact h
  | begins now phase running disposed connection startup =>
    exact h.begin running disposed connection startup
  | wakes n phase disposed =>
    refine h.setAttempt (hexists (by rw [phase]; nofun)) ((h.wellFormed n).wake phase) ?_ nofun
    unfold Underway
    rw [attempts_setAttempt, if_pos rfl]
    rintro ⟨hcancelled, hstage, _⟩
    refine ⟨hcancelled, hstage, ?_, ?_⟩ <;> rw [phase] <;> nofun
  | fails event n code phase =>
    refine h.setAttempt (hexists ?_) ((h.wellFormed n).fail phase code) ?_ nofun
    · rcases phase with phase | phase <;> rw [phase] <;> nofun
    · exact fun hunderway => absurd hunderway (not_underway (.inl rfl))
  | returns n phase =>
    obtain ⟨hrace, hhandled⟩ := (h.wellFormed n).awaited (.inr phase)
    refine h.changeAttempt false (hexists (by rw [phase]; nofun)) ((h.wellFormed n).connect phase)
      ?_ fun _ => .inr (.inr ?_)
    · show (owner.setAttempt n _).Underway n → _
      unfold Underway StartupAttempt.decideRace
      rw [attempts_setAttempt, if_pos rfl]
      rcases hrace with ⟨houtcome, hstage⟩ | ⟨houtcome, hcancelled⟩
      · rw [houtcome]
        rintro ⟨hcancelled, _⟩
        refine ⟨hcancelled, hstage, ?_, ?_⟩ <;> rw [phase] <;> nofun
      · rw [houtcome]
        rintro ⟨hfalse, _⟩
        exact absurd (hcancelled.symm.trans hfalse) nofun
    · unfold StartupAttempt.decideRace
      rcases hrace with ⟨houtcome, hstage⟩ | ⟨houtcome, hcancelled⟩
      · rw [houtcome]
        exact .inl ⟨hstage, rfl⟩
      · rw [houtcome]
        exact .inr ⟨hhandled, hcancelled⟩
  | handles n phase cancelled =>
    refine h.setAttempt (hexists (by rw [phase]; nofun)) ((h.wellFormed n).handle phase) ?_
      fun _ => ?_
    · unfold Underway
      rw [attempts_setAttempt, if_pos rfl]
      exact id
    · rcases h.kept phase with hclosed | hheld | ⟨hstage, houtcome⟩ | ⟨-, htrue⟩
      · exact .inl hclosed
      · exact .inr (.inl hheld)
      · exact .inr (.inr (.inl ⟨hstage, houtcome⟩))
      · rw [cancelled] at htrue
        cases htrue
  | handlesCancelled n phase =>
    refine h.changeAttempt true (hexists (by rw [phase]; nofun)) ((h.wellFormed n).handle phase) ?_
      fun _ => .inl rfl
    show (owner.setAttempt n _).Underway n → _
    unfold Underway
    rw [attempts_setAttempt, if_pos rfl]
    exact id
  | discards n now stage outcome =>
    have hphase := (h.wellFormed n).connected outcome
    refine h.changeAttempt true (hexists (by rw [hphase]; nofun))
      ((h.wellFormed n).settle (by rw [outcome]; nofun) _) ?_ fun _ => .inl rfl
    exact fun hunderway => absurd hunderway (not_underway (.inr nofun))
  | connects n now stage outcome disposed cancelled =>
    exact h.connect stage outcome disposed cancelled
  | rejects n now cancellation code stage outcome =>
    have hdecided : (owner.attempts n).outcome ≠ .undecided := by
      rcases outcome with outcome | outcome <;> rw [outcome] <;> nofun
    refine h.setAttempt ?_ ((h.wellFormed n).settle hdecided _) ?_ fun hreturned => ?_
    · intro habsent
      rw [habsent] at hdecided
      exact hdecided rfl
    · exact fun hunderway => absurd hunderway (not_underway (.inr nofun))
    · rcases h.kept hreturned with hclosed | hheld | ⟨-, hconnected⟩ | hawaiting
      · exact .inl hclosed
      · exact .inr (.inl hheld)
      · rcases outcome with outcome | outcome <;> simp [outcome] at hconnected
      · exact .inr (.inr (.inr hawaiting))
  | caught n now stage => exact h.catch stage
  | cancels connection =>
    obtain ⟨howned, hidle⟩ := h.cancelStartup
    exact ⟨fun hm => absurd hm (hidle _), howned.wellFormed, howned.fresh, howned.issued,
      howned.kept, howned.disposed⟩
  | gives event n connection => exact h.give connection
  | closes event n => exact h.close n
  | settles n =>
    rcases hok with hheld | ⟨hnone, hstartup⟩
    · exact h.give hheld
    · refine (h.close n).forget (fun m hm => ?_) fun m hm => ?_
      · have hsome := (h.underway hm).1
        rw [hstartup] at hsome
        cases hsome
      · have hm : owner.connection = some m := hm
        rw [hnone] at hm
        cases hm
  | disposes => exact h.dispose

end

end Ownership

/-! ## At most one -/

namespace BackendService

open Ownership

/-- No shutdown ends while the service holds another connection, or a startup. -/
def Undisturbed (service : BackendService) (event : BackendEvent) : Prop :=
  service.ownership.Undisturbed event

instance (service : BackendService) (event : BackendEvent) :
    Decidable (service.Undisturbed event) :=
  match event with
  | .shutdownSettled _ => inferInstanceAs (Decidable (_ ∨ _ ∧ _))
  | .initializeService _ | .wake _ | .started _ | .startFails _ _ | .attemptSettled _
  | .raceSettled _ _ | .raceRejected _ _ | .shutdown | .dispose | .terminated _ _ _
  | .heartbeatDue | .heartbeatSucceeds _ _ | .heartbeatFails _ _ _ _ => isTrue trivial

/-- The connection was returned by a startup that was not cancelled, and is neither disposed nor
terminated. -/
def Live (service : BackendService) (n : Nat) : Prop :=
  (service.attempts n).phase = .returned ∧ (service.attempts n).cancelled = false ∧
    (service.connections n).disposed = false ∧ (service.connections n).terminated = false

/-- Both handlers of the startup have run. -/
def Handled (service : BackendService) (n : Nat) : Prop :=
  (service.attempts n).handled = true ∧ (service.attempts n).stage ≠ .pending

theorem owned_run {options : BackendServiceOptions} {events : List BackendEvent}
    {service : BackendService} (halong : Runs.Along step Undisturbed (.new options) events)
    (hrun : Runs.run step (.new options) events = some service) : service.ownership.Owned := by
  have hkeeps : ∀ (s : BackendService) (event : BackendEvent) (s' : BackendService),
      s.ownership.Owned → s.Undisturbed event → s.step event = some s' → s'.ownership.Owned :=
    fun s event s' h hok hstep => h.step hok (step_ownership hstep)
  exact Runs.run_invariant hkeeps (owned_new options) halong hrun

/-- A live connection is that of the startup under way, or that of the service. -/
theorem live_cases {service : BackendService} {n : Nat} (h : service.ownership.Owned)
    (hlive : service.Live n) :
    service.ownership.Underway n ∨ service.connection = some n := by
  obtain ⟨hreturned, hcancelled, hdisposed, -⟩ := hlive
  rcases h.kept hreturned with hclosed | hheld | ⟨hstage, -⟩ | ⟨-, htrue⟩
  · exact absurd (hclosed.symm.trans hdisposed) nofun
  · exact .inr hheld
  · refine .inl ⟨hcancelled, hstage, ?_, ?_⟩ <;>
      show (service.attempts n).phase ≠ _ <;> rw [hreturned] <;> nofun
  · exact absurd (htrue.symm.trans hcancelled) nofun

/-- **At most one live connection.**  In every run in which no shutdown ends while the service holds
another connection or a startup, no two connections are live, and after `dispose` every connection
is disposed as soon as the handlers of its startup have run. -/
theorem at_most_one_connection (options : BackendServiceOptions) (events : List BackendEvent)
    (service : BackendService) (halong : Runs.Along step Undisturbed (.new options) events)
    (hrun : Runs.run step (.new options) events = some service) :
    (∀ n m, service.Live n → service.Live m → n = m) ∧
      (service.disposed = true → ∀ n, (service.attempts n).phase = .returned →
        service.Handled n → (service.connections n).disposed = true) := by
  have h := owned_run halong hrun
  refine ⟨fun n m hn hm => ?_, fun hdisposed n hreturned hhandled => ?_⟩
  · rcases live_cases h hn with hunderway | hheld
    · obtain ⟨hstartup, -, hnone, -⟩ := h.underway hunderway
      rcases live_cases h hm with hunderway' | hheld'
      · exact Option.some.inj (hstartup.symm.trans (h.underway hunderway').1)
      · exact absurd (hheld'.symm.trans hnone) nofun
    · rcases live_cases h hm with hunderway' | hheld'
      · exact absurd hunderway' (h.idle_of_connection hheld m)
      · exact Option.some.inj (hheld.symm.trans hheld')
  · rcases h.kept hreturned with hclosed | hheld | ⟨hstage, -⟩ | ⟨hfalse, -⟩
    · exact hclosed
    · exact absurd (hheld.symm.trans (h.disposed hdisposed)) nofun
    · exact absurd hstage hhandled.2
    · exact absurd (hhandled.1.symm.trans hfalse) nofun

end BackendService

namespace BackendExample

open BackendService

def options : BackendServiceOptions := ⟨true, 0, 0⟩

/-- A startup that succeeds. -/
def connecting (n : Nat) : List BackendEvent :=
  [.initializeService 0, .started n, .attemptSettled n, .raceSettled n 0]

/-- The service is shut down, started again and disposed. -/
def restarted : List BackendEvent :=
  connecting 0 ++ [.shutdown, .shutdownSettled 0] ++ connecting 1 ++ [.dispose]

def afterRestart : BackendService := (Runs.run step (.new options) restarted).get rfl

theorem restarted_service_disposes :
    afterRestart.disposed = true ∧ (afterRestart.connections 1).disposed = true := by
  have hdisposed : afterRestart.disposed = true := by decide +kernel
  have hhandled : afterRestart.Handled 1 := by
    unfold Handled
    decide +kernel
  exact ⟨hdisposed, (at_most_one_connection options restarted afterRestart (by decide +kernel)
    (Option.some_get _).symm).2 hdisposed 1 (by decide +kernel) hhandled⟩

/-- A heartbeat fails while the shutdown awaits the connection, so that another one is started; the
end of the shutdown forgets it, and a third one is started. -/
def overtaken : List BackendEvent :=
  connecting 0 ++ [.heartbeatDue, .shutdown, .heartbeatFails 0 1 none 0] ++ connecting 1 ++
    [.shutdownSettled 0] ++ connecting 2

def afterOvertaking : BackendService := (Runs.run step (.new options) overtaken).get rfl

theorem forgotten_connection_lives :
    Runs.run step (.new options) overtaken = some afterOvertaking ∧
      afterOvertaking.Live 1 ∧ afterOvertaking.Live 2 ∧ afterOvertaking.dispose.Handled 1 ∧
      (afterOvertaking.dispose.connections 1).disposed = false := by
  refine ⟨(Option.some_get _).symm, ?_⟩
  unfold Live Handled
  decide +kernel

end BackendExample

end SubversionR
