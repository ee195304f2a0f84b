import Mathlib

/-!
# History — paging through the log

`historyTreeDataProvider.ts` shows the first page of a log and loads more from the revision before
the last entry it was given.  The server counts top-level revisions towards the limit and lists the
revisions merged by each one after it (`bridge_log_receiver` keeps them all in one list), so that
the last entry can be a merged one.  `listsLog_iff` says when the whole log is listed all the same.
-/

namespace SubversionR.History

/-- A top-level revision of the server's log and the revisions it merged. -/
structure LogRevision where
  revision : Nat
  merged : List Nat

/-- A log with the newest revision first, and the settings of the view. -/
structure Paging where
  log : List LogRevision
  descending : log.Pairwise fun a b => b.revision < a.revision
  pageSize : Nat
  pageSize_pos : 1 ≤ pageSize
  includeMergedRevisions : Bool

/-- An entry of the view; whether it is a top-level one is not known to the code. -/
structure HistoryLogEntry where
  revision : Nat
  topLevel : Bool

structure HistoryState where
  entries : List HistoryLogEntry
  nextStartRevision : Option Nat

def nextStartRevision (entries : List HistoryLogEntry) (limit : Nat) : Option Nat :=
  if entries.length < limit then none
  else
    match entries.getLast? with
    | none => none
    | some last => if last.revision < 1 then none else some (last.revision - 1)

def topLevel (entries : List HistoryLogEntry) : List Nat :=
  (entries.filter HistoryLogEntry.topLevel).map HistoryLogEntry.revision

namespace Paging

variable (w : Paging)

/-- The entries of one answer: the first revisions up to the limit and what each one merged. -/
def page (revisions : List LogRevision) : List HistoryLogEntry :=
  (revisions.take w.pageSize).flatMap fun r =>
    ⟨r.revision, true⟩ :: if w.includeMergedRevisions then r.merged.map (⟨·, false⟩) else []

/-- The log from the first revision below the given one on. -/
def below (revision : Nat) : List LogRevision := w.log.dropWhile (revision ≤ ·.revision)

/-- The answer of the server from a start revision on, or from the newest one. -/
def getLog : Option Nat → List HistoryLogEntry
  | none => w.page w.log
  | some startRevision => w.page (w.below (startRevision + 1))

def reload : HistoryState := ⟨w.getLog none, nextStartRevision (w.getLog none) w.pageSize⟩

def loadMore (state : HistoryState) : HistoryState :=
  match state.nextStartRevision with
  | none => state
  | some start =>
    let entries := w.getLog (some start)
    ⟨state.entries ++ entries, nextStartRevision entries w.pageSize⟩

/-- Load more until no more is offered, within a number of turns. -/
def loadAll : Nat → HistoryState → Option HistoryState
  | 0, _ => none
  | turns + 1, state =>
    if state.nextStartRevision = none then some state else loadAll turns (w.loadMore state)

/-- Loading comes to an end, with these top-level revisions listed. -/
def Lists (state : HistoryState) (revisions : List Nat) : Prop :=
  ∃ turns final, w.loadAll turns state = some final ∧ topLevel final.entries = revisions

/-- The last entry of a page as long as the limit separates it from the rest of the log: the rest is
what is below the entry. -/
def Separates (rest : List LogRevision) : Prop :=
  w.pageSize ≤ (w.page rest).length → ∀ last ∈ (w.page rest).getLast?,
    w.below last.revision = rest.drop w.pageSize

/-! ## Loading -/

variable {w} {state : HistoryState} {revisions : List Nat} {rest : List LogRevision}

theorem lists_done (h : state.nextStartRevision = none) :
    w.Lists state revisions ↔ topLevel state.entries = revisions := by
  constructor
  · rintro ⟨_ | turns, final, hload, hfinal⟩
    · cases hload
    · rw [loadAll, if_pos h] at hload
      exact Option.some.inj hload ▸ hfinal
  · exact fun hfinal => ⟨1, state, by rw [loadAll, if_pos h], hfinal⟩

theorem lists_more (h : state.nextStartRevision ≠ none) :
    w.Lists state revisions ↔ w.Lists (w.loadMore state) revisions := by
  constructor
  · rintro ⟨_ | turns, final, hload, hfinal⟩
    · cases hload
    · rw [loadAll, if_neg h] at hload
      exact ⟨turns, final, hload, hfinal⟩
  · rintro ⟨turns, final, hload, hfinal⟩
    exact ⟨turns + 1, final, by rw [loadAll, if_neg h, hload], hfinal⟩

theorem Lists.extends (h : w.Lists state revisions) : topLevel state.entries <+: revisions := by
  obtain ⟨turns, final, hload, rfl⟩ := h
  induction turns generalizing state with
  | zero => cases hload
  | succ turns ih =>
    rw [loadAll] at hload
    split at hload
    · exact Option.some.inj hload ▸ List.prefix_rfl
    · refine List.IsPrefix.trans ?_ (ih hload)
      unfold loadMore
      split
      · exact List.prefix_rfl
      · exact ((List.prefix_append _ _).filter _).map _

theorem topLevel_append (a b : List HistoryLogEntry) :
    topLevel (a ++ b) = topLevel a ++ topLevel b := by
  rw [topLevel, List.filter_append, List.map_append, ← topLevel, ← topLevel]

theorem topLevel_page (rest : List LogRevision) :
    topLevel (w.page rest) = (rest.take w.pageSize).map LogRevision.revision := by
  unfold page
  induction rest.take w.pageSize with
  | nil => rfl
  | cons r rest ih =>
    rw [List.flatMap_cons, topLevel_append, ih]
    cases w.includeMergedRevisions <;> simp [topLevel]

theorem separates_nil : w.Separates [] := by
  intro _ last hlast
  simp [page] at hlast

/-- The pages from a revision on are the first one and the pages after it. -/
theorem separates_all_iff (rest : List LogRevision) :
    (∀ i, w.Separates (rest.drop (i * w.pageSize))) ↔
      w.Separates rest ∧ ∀ i, w.Separates ((rest.drop w.pageSize).drop (i * w.pageSize)) := by
  have hshift (i : Nat) : (rest.drop w.pageSize).drop (i * w.pageSize) =
      rest.drop ((i + 1) * w.pageSize) := by
    rw [List.drop_drop, Nat.succ_mul, Nat.add_comm]
  constructor
  · exact fun h => ⟨by simpa using h 0, fun i => hshift i ▸ h (i + 1)⟩
  · rintro ⟨h, hlater⟩ (_ | i)
    · simpa using h
    · exact hshift i ▸ hlater i

/-- An end of the log with more in front of it begins with another revision. -/
theorem eq_nil_of_head {front later : List LogRevision} (h : front ++ later <:+ w.log)
    (hhead : ((front ++ later).map LogRevision.revision).head? =
      (later.map LogRevision.revision).head?) : front = [] := by
  cases front with
  | nil => rfl
  | cons first front =>
    cases later with
    | nil => cases hhead
    | cons next later =>
      have hlt := (List.pairwise_cons.mp (w.descending.sublist h.sublist)).1 next (by simp)
      have heq : first.revision = next.revision := Option.some.inj hhead
      omega

theorem eq_of_head {a b : List LogRevision} (ha : a <:+ w.log) (hb : b <:+ w.log)
    (hhead : (a.map LogRevision.revision).head? = (b.map LogRevision.revision).head?) : a = b := by
  rcases List.suffix_or_suffix_of_suffix ha hb with ⟨front, rfl⟩ | ⟨front, rfl⟩
  · rw [eq_nil_of_head hb hhead.symm, List.nil_append]
  · rw [eq_nil_of_head ha hhead, List.nil_append]

/-- **Loading from a page on lists the rest of the log exactly when every page from there on
separates.** -/
theorem lists_iff (hend : rest <:+ w.log) (es : List HistoryLogEntry) :
    w.Lists ⟨es ++ w.page rest, nextStartRevision (w.page rest) w.pageSize⟩
        (topLevel es ++ rest.map LogRevision.revision) ↔
      ∀ i, w.Separates (rest.drop (i * w.pageSize)) := by
  -- on the number of revisions that are left
  induction hlength : rest.length using Nat.strong_induction_on generalizing es rest with
  | _ n ih =>
  have hpos := w.pageSize_pos
  have hlisted : topLevel es ++ rest.map LogRevision.revision = topLevel (es ++ w.page rest) ++
      (rest.drop w.pageSize).map LogRevision.revision := by
    rw [topLevel_append, topLevel_page, List.append_assoc, ← List.map_append,
      List.take_append_drop]
  have hdone (h : nextStartRevision (w.page rest) w.pageSize = none) :
      w.Lists ⟨es ++ w.page rest, nextStartRevision (w.page rest) w.pageSize⟩
        (topLevel es ++ rest.map LogRevision.revision) ↔ rest.drop w.pageSize = [] := by
    rw [lists_done h, hlisted, List.self_eq_append_right, List.map_eq_nil_iff]
  rw [separates_all_iff]
  by_cases hshort : (w.page rest).length < w.pageSize
  · -- a short page is the last one
    have hdrop : rest.drop w.pageSize = [] := by
      have htop := congrArg List.length (topLevel_page (w := w) rest)
      rw [topLevel, List.length_map, List.length_map, List.length_take] at htop
      have hle := List.length_filter_le HistoryLogEntry.topLevel (w.page rest)
      exact List.drop_eq_nil_of_le (by omega)
    rw [hdone (if_pos hshort), hdrop]
    simp only [List.drop_nil, true_iff]
    exact ⟨fun hle => absurd hle (by omega), fun _ => separates_nil⟩
  obtain ⟨last, hlast⟩ : ∃ last, (w.page rest).getLast? = some last :=
    ⟨_, List.getLast?_eq_some_getLast (List.ne_nil_of_length_pos (by omega))⟩
  have hseparates : w.Separates rest ↔ w.below last.revision = rest.drop w.pageSize := by
    simp [Separates, hlast, Nat.not_lt.mp hshort]
  have hnext : nextStartRevision (w.page rest) w.pageSize =
      if last.revision < 1 then none else some (last.revision - 1) := by
    rw [nextStartRevision, if_neg hshort, hlast]
  by_cases hzero : last.revision < 1
  · -- nothing is below revision zero
    have hnone : w.below last.revision = [] := by
      refine List.dropWhile_eq_nil_iff.mpr fun r _ => decide_eq_true ?_
      omega
    rw [hdone (by rw [hnext, if_pos hzero]), hseparates, hnone]
    refine ⟨fun h => ⟨h.symm, fun i => ?_⟩, fun h => h.1.symm⟩
    rw [h, List.drop_nil]
    exact separates_nil
  rw [lists_more (by simp [hnext, hzero])]
  simp only [loadMore, hnext, if_neg hzero, getLog, hlisted,
    Nat.sub_add_cancel (Nat.not_lt.mp hzero)]
  have hend' := (List.drop_suffix w.pageSize rest).trans hend
  have hlt : (rest.drop w.pageSize).length < n := by
    cases rest with
    | nil => simp [page] at hlast
    | cons r rest =>
      rw [List.length_drop, ← hlength, List.length_cons]
      omega
  have ih := ih _ hlt hend' (es ++ w.page rest) rfl
  constructor
  · intro hlists
    -- the answer begins with the next revision of the log, or the loading ends with it
    have hanswer := eq_of_head (List.dropWhile_suffix _) hend' (a := w.below last.revision) (by
      have hgoes := hlists.extends
      rw [topLevel_append, topLevel_page, List.prefix_append_right_inj] at hgoes
      cases hbelow : w.below last.revision with
      | nil =>
        have hstop : nextStartRevision (w.page []) w.pageSize = none := by
          simp [nextStartRevision, page]
        rw [hbelow, lists_done hstop, topLevel_append, topLevel_page] at hlists
        simpa using hlists
      | cons first others =>
        obtain ⟨m, hm⟩ := Nat.exists_eq_add_of_le' hpos
        rw [hbelow, hm, List.take_succ_cons, ← hm] at hgoes
        obtain ⟨more, hmore⟩ := hgoes
        rw [← hmore]
        rfl)
    rw [hanswer] at hlists
    exact ⟨hseparates.mpr hanswer, ih.mp hlists⟩
  · rintro ⟨hfirst, hlater⟩
    rw [hseparates.mp hfirst]
    exact ih.mpr hlater

/-- **Paging lists the whole log exactly when every page of it separates.** -/
theorem listsLog_iff (w : Paging) :
    w.Lists w.reload (w.log.map LogRevision.revision) ↔
      ∀ i, w.Separates (w.log.drop (i * w.pageSize)) := by
  rw [← lists_iff List.suffix_rfl []]
  rfl

end Paging

end SubversionR.History

namespace SubversionR.HistoryExample

open History

/-- Revision 10 merged revision 3, and a page holds one top-level revision. -/
def paging : Paging where
  log := [⟨10, [3]⟩, ⟨9, []⟩]
  descending := by decide
  pageSize := 1
  pageSize_pos := le_rfl
  includeMergedRevisions := true

/-- Revision 9 is never listed. -/
theorem revision_is_skipped : 9 ∈ paging.log.map LogRevision.revision ∧
    ∀ revisions, paging.Lists paging.reload revisions → 9 ∉ revisions := by
  refine ⟨by decide, fun revisions h => ?_⟩
  rw [Paging.lists_more (by decide), Paging.lists_done (by decide)] at h
  exact h ▸ by decide

end SubversionR.HistoryExample
