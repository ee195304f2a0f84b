import Mathlib

/-!
# Runs of a guarded step function

A system is a function `step : σ → ε → Option σ`: in a state, an event is either impossible or
leads to one next state.  A run takes a list of events.

* `run_invariant` — what one step preserves, every state of a run has; `foldl_invariant` is the
  same for a total step function;
* `Along step ok s es` — every step of the run satisfies a condition on the state before it and
  the event; the invariant rule takes it as a premise of the step;
* `Path r s labels t` — a sequence of labelled steps that have happened, extended at its end.
-/

namespace Runs

variable {σ ε : Type}

/-- The state after a list of events, if all of them are possible. -/
def run (step : σ → ε → Option σ) : σ → List ε → Option σ
  | s, [] => some s
  | s, e :: es => (step s e).bind fun s' => run step s' es

/-- Every step of the run satisfies `ok`. -/
def Along (step : σ → ε → Option σ) (ok : σ → ε → Prop) : σ → List ε → Prop
  | _, [] => True
  | s, e :: es => ok s e ∧ ∀ s', step s e = some s' → Along step ok s' es

variable {step : σ → ε → Option σ} {ok : σ → ε → Prop}

theorem run_cons_eq_some {s s' : σ} {e : ε} {es : List ε} :
    run step s (e :: es) = some s' ↔ ∃ mid, step s e = some mid ∧ run step mid es = some s' :=
  Option.bind_eq_some_iff

theorem run_append_eq_some {s s' : σ} {es es' : List ε} :
    run step s (es ++ es') = some s' ↔ ∃ mid, run step s es = some mid ∧
      run step mid es' = some s' := by
  induction es generalizing s with
  | nil => simp [run]
  | cons e es ih =>
    rw [List.cons_append, run_cons_eq_some]
    simp only [ih, run_cons_eq_some]
    exact ⟨fun ⟨mid, hstep, mid', hrun, hrest⟩ => ⟨mid', ⟨mid, hstep, hrun⟩, hrest⟩,
      fun ⟨mid', ⟨mid, hstep, hrun⟩, hrest⟩ => ⟨mid, hstep, mid', hrun, hrest⟩⟩

/-- **The invariant rule.**  An invariant that every allowed step preserves holds at the end of
every run of allowed steps. -/
theorem run_invariant {inv : σ → Prop}
    (hstep : ∀ s e s', inv s → ok s e → step s e = some s' → inv s') {s s' : σ} {es : List ε}
    (hinit : inv s) (hok : Along step ok s es) (hrun : run step s es = some s') : inv s' := by
  induction es generalizing s with
  | nil =>
    cases hrun
    exact hinit
  | cons e es ih =>
    obtain ⟨mid, hmid, hrest⟩ := run_cons_eq_some.mp hrun
    exact ih (hstep s e mid hinit hok.1 hmid) (hok.2 mid hmid) hrest

/-- The rule for a loop that always goes on. -/
theorem foldl_invariant (inv : σ → Prop) {f : σ → ε → σ} {es : List ε}
    (hstep : ∀ s, inv s → ∀ e ∈ es, inv (f s e)) {s : σ} (hinit : inv s) : inv (es.foldl f s) := by
  induction es generalizing s with
  | nil => exact hinit
  | cons e es ih =>
    exact ih (fun s hs e' he' => hstep s hs e' (List.mem_cons_of_mem _ he'))
      (hstep s hinit e List.mem_cons_self)

/-- A condition on the events alone holds along every run of such events. -/
theorem along_of_forall_mem {p : ε → Prop} (s : σ) {es : List ε} (h : ∀ e ∈ es, p e) :
    Along step (fun _ e => p e) s es := by
  induction es generalizing s with
  | nil => trivial
  | cons e es ih =>
    exact ⟨h e List.mem_cons_self, fun s' _ => ih s' fun e' he' =>
      h e' (List.mem_cons_of_mem _ he')⟩

theorem Along.mono {ok' : σ → ε → Prop} {s : σ} {es : List ε} (h : Along step ok s es)
    (himp : ∀ s e, ok s e → ok' s e) : Along step ok' s es := by
  induction es generalizing s with
  | nil => trivial
  | cons e es ih => exact ⟨himp s e h.1, fun s' hs' => ih (h.2 s' hs')⟩

/-- Two conditions that agree wherever an invariant holds, which the first one preserves, hold along
the same runs. -/
theorem along_iff {ok' : σ → ε → Prop} {inv : σ → Prop}
    (hstep : ∀ s e s', inv s → ok s e → step s e = some s' → inv s')
    (hiff : ∀ s e, inv s → (ok s e ↔ ok' s e)) {s : σ} {es : List ε} (hinit : inv s) :
    Along step ok s es ↔ Along step ok' s es := by
  induction es generalizing s with
  | nil => exact Iff.rfl
  | cons e es ih =>
    constructor
    · rintro ⟨hok, hrest⟩
      exact ⟨(hiff s e hinit).mp hok, fun s' hs' =>
        (ih (hstep s e s' hinit hok hs')).mp (hrest s' hs')⟩
    · rintro ⟨hok', hrest⟩
      have hok := (hiff s e hinit).mpr hok'
      exact ⟨hok, fun s' hs' => (ih (hstep s e s' hinit hok hs')).mpr (hrest s' hs')⟩

/-- A condition that can be decided step by step can be decided along a concrete run. -/
instance decidableAlong [∀ s e, Decidable (ok s e)] :
    ∀ (s : σ) (es : List ε), Decidable (Along step ok s es)
  | _, [] => isTrue trivial
  | s, e :: es =>
    match h : step s e with
    | none => decidable_of_iff (ok s e)
        ⟨fun hok => ⟨hok, fun s' hs' => by rw [h] at hs'; cases hs'⟩, fun halong => halong.1⟩
    | some mid =>
      have := decidableAlong mid es
      decidable_of_iff (ok s e ∧ Along step ok mid es)
        ⟨fun hboth => ⟨hboth.1, fun s' hs' => by rw [h] at hs'; cases hs'; exact hboth.2⟩,
          fun halong => ⟨halong.1, halong.2 mid h⟩⟩

/-! ## Labelled paths -/

/-- `labels` lead from one state to the other, each along the relation. -/
def Path (r : σ → ε → σ → Prop) : σ → List ε → σ → Prop
  | s, [], t => s = t
  | s, e :: labels, t => ∃ mid, r s e mid ∧ Path r mid labels t

theorem Path.snoc {r : σ → ε → σ → Prop} {s t t' : σ} {labels : List ε} {e : ε}
    (h : Path r s labels t) (he : r t e t') : Path r s (labels ++ [e]) t' := by
  induction labels generalizing s with
  | nil =>
    cases h
    exact ⟨t', he, rfl⟩
  | cons label labels ih =>
    obtain ⟨mid, hmid, hrest⟩ := h
    exact ⟨mid, hmid, ih hrest⟩

end Runs
