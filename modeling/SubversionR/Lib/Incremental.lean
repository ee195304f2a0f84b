import Mathlib

/-!
# Incremental decoders

A decoder holds the symbols it could not use yet.  Each chunk is appended to them; then values are
taken from the front as long as there are any.  What it finds at the front may not depend on what
has not arrived: `Decoder` carries this as fields, so that a decoder that could change its mind
cannot be built.

* `drain_append` — draining what is held and then the rest is draining everything;
* `pushAll_eq_drain` — however a sequence is cut into chunks, the decoder emits the same values and
  keeps the same remainder;
* `drain_flatMap` — a sequence of encoded values is decoded completely;
* `indexOf` — the first place where a separator stands.
-/

namespace Incremental

variable {α β ε : Type}

/-- What stands at the front of the symbols held so far. -/
inductive Next (α β ε : Type) where
  | wait
  | emit (value : α) (rest : List β)
  | fail (error : ε)

/-- A decoder whose findings are not revised by later symbols. -/
structure Decoder (α β ε : Type) where
  next : List β → Next α β ε
  next_nil : next [] = .wait
  consumes : ∀ {held : List β} {value : α} {rest : List β},
    next held = .emit value rest → rest.length < held.length
  emit_append : ∀ {held : List β} {value : α} {rest : List β},
    next held = .emit value rest → ∀ more, next (held ++ more) = .emit value (rest ++ more)
  fail_append : ∀ {held : List β} {error : ε},
    next held = .fail error → ∀ more, next (held ++ more) = .fail error

namespace Decoder

variable (d : Decoder α β ε)

/-- Take values from the front as long as there are any. -/
def drain (held : List β) : Except ε (List α × List β) :=
  match h : d.next held with
  | .wait => .ok ([], held)
  | .fail error => .error error
  | .emit value rest =>
    have : rest.length < held.length := d.consumes h
    match drain rest with
    | .error error => .error error
    | .ok (values, remaining) => .ok (value :: values, remaining)
termination_by held.length

/-- One chunk arrives. -/
def push (held chunk : List β) : Except ε (List α × List β) := d.drain (held ++ chunk)

/-- Chunks arrive one after the other; the values they complete are collected. -/
def pushAll : List β → List (List β) → Except ε (List α × List β)
  | held, [] => .ok ([], held)
  | held, chunk :: chunks =>
    match d.push held chunk with
    | .error error => .error error
    | .ok (values, rest) =>
      match pushAll rest chunks with
      | .error error => .error error
      | .ok (more, remaining) => .ok (values ++ more, remaining)

variable {d}

theorem drain_of_wait {held : List β} (h : d.next held = .wait) :
    d.drain held = .ok ([], held) := by
  rw [drain]
  split
  · rfl
  · simp_all
  · simp_all

theorem drain_of_fail {held : List β} {error : ε} (h : d.next held = .fail error) :
    d.drain held = .error error := by
  rw [drain]
  split <;> simp_all

theorem drain_of_emit {held rest : List β} {value : α} (h : d.next held = .emit value rest) :
    d.drain held =
      match d.drain rest with
      | .error error => .error error
      | .ok (values, remaining) => .ok (value :: values, remaining) := by
  rw [drain]
  split
  · simp_all
  · simp_all
  · rename_i hemit
    rw [h] at hemit
    cases hemit
    rfl

/-- What is left after draining holds no further value. -/
theorem next_of_drain {held remaining : List β} {values : List α}
    (h : d.drain held = .ok (values, remaining)) : d.next remaining = .wait := by
  induction held using (measure (List.length (α := β))).wf.induction generalizing values with
  | _ held ih =>
    cases hnext : d.next held with
    | wait =>
      rw [drain_of_wait hnext] at h
      cases h
      exact hnext
    | fail error =>
      rw [drain_of_fail hnext] at h
      cases h
    | emit value rest =>
      rw [drain_of_emit hnext] at h
      split at h
      · cases h
      rename_i hrest
      cases h
      exact ih rest (d.consumes hnext) hrest

/-- **Draining in two parts.**  Draining what has arrived, and later what is left of it together
with the rest, is draining everything. -/
theorem drain_append (held more : List β) :
    d.drain (held ++ more) =
      match d.drain held with
      | .error error => .error error
      | .ok (values, rest) =>
        match d.drain (rest ++ more) with
        | .error error => .error error
        | .ok (values', remaining) => .ok (values ++ values', remaining) := by
  induction held using (measure (List.length (α := β))).wf.induction with
  | _ held ih =>
    cases hnext : d.next held with
    | wait =>
      rw [drain_of_wait hnext]
      dsimp only
      split <;> simp_all
    | fail error => rw [drain_of_fail hnext, drain_of_fail (d.fail_append hnext more)]
    | emit value rest =>
      -- the value at the front stays where it is when more symbols follow
      rw [drain_of_emit hnext, drain_of_emit (d.emit_append hnext more),
        ih rest (d.consumes hnext)]
      cases d.drain rest with
      | error error => rfl
      | ok drained =>
        dsimp only
        cases d.drain (drained.2 ++ more) with
        | error error => rfl
        | ok result => rfl

/-- **Chunks do not matter.**  A decoder that starts with nothing to take emits for a list of chunks
what it emits for their concatenation, and keeps the same remainder. -/
theorem pushAll_eq_drain {held : List β} (h : d.next held = .wait) (chunks : List (List β)) :
    d.pushAll held chunks = d.drain (held ++ chunks.flatten) := by
  induction chunks generalizing held with
  | nil => rw [List.flatten_nil, List.append_nil, drain_of_wait h, pushAll]
  | cons chunk chunks ih =>
    rw [pushAll, push, List.flatten_cons, ← List.append_assoc, drain_append (held ++ chunk)]
    cases hdrain : d.drain (held ++ chunk) with
    | error error => rfl
    | ok drained =>
      dsimp only
      rw [ih (next_of_drain hdrain)]

/-- **Encoded values are decoded.**  If every value is found at the front of its encoding, whatever
follows, the decoder emits exactly the values and keeps nothing. -/
theorem drain_flatMap {encode : α → List β} {values : List α}
    (h : ∀ value ∈ values, ∀ more, d.next (encode value ++ more) = .emit value more) :
    d.drain (values.flatMap encode) = .ok (values, []) := by
  induction values with
  | nil => rw [List.flatMap_nil, drain_of_wait d.next_nil]
  | cons value values ih =>
    rw [List.flatMap_cons, drain_of_emit (h value List.mem_cons_self _),
      ih fun other hother => h other (List.mem_cons_of_mem _ hother)]

end Decoder

/-! ## Separators -/

variable [DecidableEq β]

/-- The first place where a sequence occurs. -/
def indexOf (needle : List β) : List β → Option Nat
  | [] => if needle = [] then some 0 else none
  | b :: bs => if needle.isPrefixOf (b :: bs) then some 0 else (indexOf needle bs).map (· + 1)

theorem length_le_of_indexOf {needle held : List β} {i : Nat} (h : indexOf needle held = some i) :
    i + needle.length ≤ held.length := by
  induction held generalizing i with
  | nil =>
    unfold indexOf at h
    split at h
    · rename_i hnil
      cases h
      simp [hnil]
    · cases h
  | cons b bs ih =>
    unfold indexOf at h
    split at h
    · rename_i hfront
      cases h
      rw [List.isPrefixOf_iff_prefix] at hfront
      have := hfront.length_le
      omega
    · obtain ⟨j, hj, rfl⟩ := Option.map_eq_some_iff.mp h
      have := ih hj
      rw [List.length_cons]
      omega

/-- An occurrence that has arrived stays the first one. -/
theorem indexOf_append {needle held : List β} {i : Nat} (h : indexOf needle held = some i)
    (more : List β) : indexOf needle (held ++ more) = some i := by
  induction held generalizing i with
  | nil =>
    unfold indexOf at h
    split at h
    · rename_i hnil
      cases h
      subst hnil
      cases more <;> rfl
    · cases h
  | cons b bs ih =>
    have hlength := length_le_of_indexOf h
    unfold indexOf at h
    rw [List.cons_append]
    unfold indexOf
    split at h
    · rename_i hfront
      cases h
      have hlonger : needle.isPrefixOf (b :: (bs ++ more)) = true := by
        rw [List.isPrefixOf_iff_prefix] at hfront ⊢
        exact hfront.trans (List.prefix_append (b :: bs) more)
      rw [if_pos hlonger]
    · rename_i hfront
      obtain ⟨j, hj, rfl⟩ := Option.map_eq_some_iff.mp h
      -- the separator fits into what has arrived, so nothing new can stand before it
      have hnot : ¬ needle.isPrefixOf (b :: (bs ++ more)) = true := by
        rw [List.isPrefixOf_iff_prefix] at hfront ⊢
        intro hlonger
        refine hfront (List.prefix_of_prefix_length_le hlonger ?_ (by omega))
        exact List.prefix_append (b :: bs) more
      rw [if_neg hnot, ih hj]
      rfl

/-- A separator is found behind symbols that differ from its first one. -/
theorem indexOf_of_notMem {b : β} {needle before after : List β} (h : b ∉ before) :
    indexOf (b :: needle) (before ++ (b :: needle ++ after)) = some before.length := by
  induction before with
  | nil =>
    have hfront : (b :: needle).isPrefixOf (b :: (needle ++ after)) = true := by
      rw [List.isPrefixOf_iff_prefix]
      exact List.prefix_append (b :: needle) after
    show indexOf (b :: needle) (b :: (needle ++ after)) = some 0
    unfold indexOf
    rw [if_pos hfront]
  | cons c before ih =>
    obtain ⟨hc, hbefore⟩ := List.ne_and_not_mem_of_not_mem_cons h
    have hnot : ¬ (b :: needle).isPrefixOf (c :: (before ++ (b :: needle ++ after))) = true := by
      rw [List.isPrefixOf_iff_prefix, List.cons_prefix_cons]
      exact fun hfront => hc hfront.1
    rw [List.cons_append]
    unfold indexOf
    rw [if_neg hnot, ih hbefore]
    rfl

end Incremental
