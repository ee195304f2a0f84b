import SubversionR.Wire
import SubversionR.Daemon.Paths
import SubversionR.Lib.Except

/-!
# Daemon requests — the parameters of `status/refresh`

`repository_id_param`, `epoch_param` and `status_refresh_targets` of the daemon's `state.rs`: the
daemon checks the parameters again and does not rely on the extension having done so.  An error is
the name of the field that is reported.

* `statusRefreshTargets_accepts` — the target lists the daemon takes.
-/

namespace SubversionR

open JsonValues Fallible

/-- `Value::as_str` with a filter on the text. -/
def stringParam (value : Option Json) (test : Text → Bool) (field : Text) : Except Text Text :=
  match value with
  | some (.str text) => if test text then pure text else throw field
  | _ => throw field

def repositoryIdParam (params : Json) : Option Text :=
  match params.prop "repositoryId" with
  | some (.str id) => if Text.nonBlankRust id then some id else none
  | _ => none

def epochParam (params : Json) : Option Nat :=
  match params.prop "epoch" with
  | some (.int n) => if 0 ≤ n ∧ n < 2 ^ 64 then some n.toNat else none
  | _ => none

/-- One turn of the loop of `status_refresh_targets`. -/
def statusRefreshTarget (value : Json) : Except Text StatusRefreshTarget := do
  let path ← stringParam (value.prop "path") validRepositoryRelativePath "targets.path"
  let depth ← stringParam (value.prop "depth") (fun depth =>
    (StatusRefreshDepth.ofWord? depth).isSome) "targets.depth"
  let reason ← stringParam (value.prop "reason") Text.nonBlankRust "targets.reason"
  pure { path, depth := (StatusRefreshDepth.ofWord? depth).getD .empty, reason }

def statusRefreshTargets (params : Json) : Except Text (List StatusRefreshTarget) :=
  match params.prop "targets" with
  | some (.arr values) => do
    require (values ≠ []) "targets"
    readItems (fun _ value => statusRefreshTarget value) 0 values
  | _ => .error "targets"

theorem eq_of_repositoryIdParam {params : Json} {id repositoryId : Text}
    (hprop : params.prop "repositoryId" = some (.str id))
    (h : repositoryIdParam params = some repositoryId) : repositoryId = id := by
  unfold repositoryIdParam at h
  rw [hprop] at h
  dsimp only at h
  split at h
  · cases h
    rfl
  · cases h

/-- A target both fields of which `status_refresh_targets` accepts. -/
structure StatusRefreshTarget.Takeable (target : StatusRefreshTarget) : Prop where
  path : validRepositoryRelativePath target.path = true
  reason : target.reason.nonBlankRust = true

theorem stringParam_accepts {text field : Text} {test : Text → Bool} :
    Accepts (stringParam (some (.str text)) test field) text (test text = true) :=
  Accepts.ite

theorem statusRefreshTarget_accepts {target : StatusRefreshTarget} :
    Accepts (statusRefreshTarget target.toJson) target target.Takeable := by
  have hreturn : Accepts (pure
      { path := target.path, depth := (StatusRefreshDepth.ofWord? target.depth.word).getD .empty,
        reason := target.reason } : Except Text StatusRefreshTarget) target True := by
    rw [StatusRefreshDepth.ofWord?_word]
    exact Accepts.pure
  refine .congr (.bind stringParam_accepts
    (.bind stringParam_accepts (.bind stringParam_accepts hreturn))) ?_
  rw [StatusRefreshDepth.ofWord?_word]
  exact ⟨fun h => ⟨h.1, h.2.2.1⟩, fun h => ⟨h.path, rfl, h.reason, trivial⟩⟩

/-- **Targets that are taken.**  The daemon takes the targets of a request when there are some and
each of them is takeable. -/
theorem statusRefreshTargets_accepts {request : StatusRefreshRequest} :
    Accepts (statusRefreshTargets request.toJson) request.targets
      (request.targets ≠ [] ∧ ∀ target ∈ request.targets, target.Takeable) := by
  refine .congr (.bind .require
    (Accepts.items (fun _ _ => statusRefreshTarget_accepts) 0 request.targets)) ?_
  simp

end SubversionR
