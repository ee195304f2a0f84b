import Mathlib

/-!
# Fallible computations

Two ways of taking apart a computation in `Except`.

* `bind_eq_ok_iff` — a computation that succeeded: each step of it did.
* `Accepts x a P` — a computation that can succeed in one way only: it returns `a` exactly when
  `P` holds.  This is what a validating reader does on the encoding of `a`, and the rules below
  (`pure`, `ite`, `require`, `bind`, `mapError`, `items`, `check`, `unique`) follow the shapes such
  readers have, so that the condition of a reader is assembled from the conditions of its parts.
-/

namespace Fallible

variable {ε α β : Type}

/-- A sequence succeeds when its first part does and the rest does on its result. -/
theorem bind_eq_ok_iff {x : Except ε α} {f : α → Except ε β} {b : β} :
    (x >>= f) = .ok b ↔ ∃ a, x = .ok a ∧ f a = .ok b := by
  cases x with
  | error e => simp [bind, Except.bind]
  | ok a => simp [bind, Except.bind]

theorem mapError_eq_ok_iff {ε' : Type} {x : Except ε α} {f : ε → ε'} {a : α} :
    x.mapError f = .ok a ↔ x = .ok a := by
  cases x with
  | error e => simp [Except.mapError]
  | ok a' => simp [Except.mapError]

/-- Throw unless `P` holds. -/
def require (P : Prop) [Decidable P] (e : ε) : Except ε Unit := if P then pure () else throw e

/-- The computation returns `a` when `P` holds, and fails otherwise. -/
def Accepts (x : Except ε α) (a : α) (P : Prop) : Prop := ∀ b, x = .ok b ↔ P ∧ b = a

namespace Accepts

variable {x : Except ε α} {a : α} {P Q : Prop}

theorem ok_iff (h : Accepts x a P) : x = .ok a ↔ P := by
  have := h a
  simpa using this

theorem eq_of_ok {b : α} (h : Accepts x a P) (hok : x = .ok b) : b = a := ((h b).mp hok).2

theorem congr (h : Accepts x a P) (hPQ : P ↔ Q) : Accepts x a Q := by
  intro b
  rw [h b, hPQ]

theorem pure : Accepts (Pure.pure a : Except ε α) a True := by
  intro b
  constructor
  · intro h
    cases h
    exact ⟨trivial, rfl⟩
  · rintro ⟨-, rfl⟩
    rfl

/-- A result given under a condition only. -/
theorem ite [Decidable P] {e : ε} :
    Accepts (if P then Pure.pure a else throw e : Except ε α) a P := by
  intro b
  by_cases hP : P
  · rw [if_pos hP]
    exact (pure.congr (iff_of_true trivial hP)) b
  · rw [if_neg hP]
    constructor
    · intro h
      cases h
    · intro h
      exact absurd h.1 hP

theorem require [Decidable P] {e : ε} : Accepts (Fallible.require P e) () P := ite

theorem bind {b : β} {f : α → Except ε β} (hx : Accepts x a P) (hf : Accepts (f a) b Q) :
    Accepts (x >>= f) b (P ∧ Q) := by
  intro b'
  rw [bind_eq_ok_iff]
  constructor
  · rintro ⟨a', hxa, hfa⟩
    obtain ⟨hP, rfl⟩ := (hx a').mp hxa
    obtain ⟨hQ, rfl⟩ := (hf b').mp hfa
    exact ⟨⟨hP, hQ⟩, rfl⟩
  · rintro ⟨⟨hP, hQ⟩, rfl⟩
    exact ⟨a, hx.ok_iff.mpr hP, hf.ok_iff.mpr hQ⟩

/-- Reporting the error in other words changes nothing about what is accepted. -/
theorem mapError {ε' : Type} {f : ε → ε'} (h : Accepts x a P) : Accepts (x.mapError f) a P := by
  intro b
  rw [mapError_eq_ok_iff, h b]

end Accepts

/-! ## Lists

Readers of lists pass the index of an item on, because the errors name it. -/

/-- Read the items in order; `i` is the index of the first one. -/
def readItems (read : Nat → β → Except ε α) : Nat → List β → Except ε (List α)
  | _, [] => pure []
  | i, item :: rest => do
    let first ← read i item
    let others ← readItems read (i + 1) rest
    pure (first :: others)

/-- Throw at the first item that fails the test. -/
def checkItems (test : α → Bool) (err : Nat → α → ε) : Nat → List α → Except ε Unit
  | _, [] => pure ()
  | i, item :: rest => do
    require (test item = true) (err i item)
    checkItems test err (i + 1) rest

/-- Throw at the first item already seen. -/
def checkUnique [DecidableEq α] (err : Nat → ε) : Nat → List α → List α → Except ε Unit
  | _, _, [] => pure ()
  | i, seen, item :: rest => do
    require (item ∉ seen) (err i)
    checkUnique err (i + 1) (item :: seen) rest

namespace Accepts

theorem items {read : Nat → β → Except ε α} {encode : α → β} {P : α → Prop}
    (h : ∀ i a, Accepts (read i (encode a)) a (P a)) (i : Nat) (as : List α) :
    Accepts (readItems read i (as.map encode)) as (∀ a ∈ as, P a) := by
  induction as generalizing i with
  | nil => exact pure.congr (by simp)
  | cons a rest ih =>
    have hrest : Accepts (readItems read (i + 1) (rest.map encode) >>= fun others =>
        Pure.pure (a :: others)) (a :: rest) _ := (ih (i + 1)).bind pure
    refine ((h i a).bind hrest).congr ?_
    simp

theorem check {test : α → Bool} {err : Nat → α → ε} (i : Nat) (as : List α) :
    Accepts (checkItems test err i as) () (∀ a ∈ as, test a = true) := by
  induction as generalizing i with
  | nil => exact pure.congr (by simp)
  | cons a rest ih =>
    refine (require.bind (ih (i + 1))).congr ?_
    simp

theorem unique [DecidableEq α] {err : Nat → ε} (i : Nat) (seen as : List α) :
    Accepts (checkUnique err i seen as) () (as.Nodup ∧ ∀ a ∈ as, a ∉ seen) := by
  induction as generalizing i seen with
  | nil => exact pure.congr (by simp)
  | cons a rest ih =>
    refine (require.bind (ih (i + 1) (a :: seen))).congr ?_
    rw [List.nodup_cons, List.forall_mem_cons]
    simp only [List.mem_cons, not_or]
    constructor
    · rintro ⟨ha, hnodup, hrest⟩
      have hfresh : a ∉ rest := fun hmem => (hrest a hmem).1 rfl
      exact ⟨⟨hfresh, hnodup⟩, ha, fun b hb => (hrest b hb).2⟩
    · rintro ⟨⟨hfresh, hnodup⟩, ha, hrest⟩
      refine ⟨ha, hnodup, fun b hb => ⟨?_, hrest b hb⟩⟩
      rintro rfl
      exact hfresh hb

end Accepts

end Fallible
