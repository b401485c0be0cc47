import Mathlib
import PiGwPanel.AnsweredProgram

/-!
# The backoff of the health sweeps

`run_once` of `monitor.py`: a node that failed both direct probes sits out a growing
number of sweeps. A sweep moves the two counters of a node in three places. It
counts down those of a node that sits out, forgets those of a node that is gone,
and settles those of every node it probed.
-/

namespace PiGwPanel.SweepBackoff

open AnsweredProgram Function List

/-- The counters of a node. -/
structure Backoff where
  (streak skip : ℕ)

/-- `_backoff`, by the id of the node. -/
abbrev Backoffs := ℕ → Option Backoff

/-- `BACKOFF_MAX_SKIP`. -/
def backoffMaxSkip : ℕ := 7

/-- What a streak of failures costs. -/
def skipOfStreak (streak : ℕ) : ℕ := min backoffMaxSkip (2 ^ min streak 3 - 1)

/-- The sweeps a node has still to sit out. -/
def skipsLeft (backoff : Backoffs) (id : ℕ) : ℕ := (backoff id).elim 0 Backoff.skip

/-- A completed sweep: the stored nodes, the node that is active when it starts, and what the two
direct probes of a node find. -/
structure Sweep where
  nodes : List ℕ
  active : Option ℕ
  (tcpOk httpOk : ℕ → Bool)

/-- The loop that collects the due nodes and counts the others down. -/
def collectDue (active : Option ℕ) : List ℕ → Backoffs → List ℕ × Backoffs
  | [], backoff => ([], backoff)
  | id :: rest, backoff =>
    if some id ≠ active ∧ 0 < skipsLeft backoff id then
      collectDue active rest (update backoff id
        ((backoff id).map fun bo => { bo with skip := bo.skip - 1 }))
    else
      let (due, after) := collectDue active rest backoff
      (id :: due, after)

/-- What the results of a node make of its counters. -/
def settle (sweep : Sweep) (backoff : Backoffs) (id : ℕ) : Backoffs :=
  if sweep.tcpOk id || sweep.httpOk id then
    match backoff id with
    | none => backoff
    | some bo =>
      if bo.streak - 1 = 0 then update backoff id none
      else update backoff id (some ⟨bo.streak - 1, skipOfStreak (bo.streak - 1)⟩)
  else if some id = sweep.active then backoff
  else
    let streak := (backoff id).elim 0 Backoff.streak + 1
    update backoff id (some ⟨streak, skipOfStreak streak⟩)

/-- The nodes a sweep probes. -/
def probed (backoff : Backoffs) (sweep : Sweep) : List ℕ :=
  (collectDue sweep.active sweep.nodes backoff).1

/-- `run_once`. -/
def runOnce (backoff : Backoffs) (sweep : Sweep) : Backoffs :=
  let (due, waited) := collectDue sweep.active sweep.nodes backoff
  due.foldl (settle sweep) fun id => if id ∈ sweep.nodes then waited id else none

/-- A monitor that has not swept yet. -/
def fresh : Backoffs := fun _ => none

variable {backoff : Backoffs} {sweep : Sweep} {id : ℕ}

theorem skipsLeft_update (first : ℕ) (counters : Option Backoff) :
    skipsLeft (update backoff first counters) id =
      if id=first then counters.elim 0 Backoff.skip else skipsLeft backoff id := by
  unfold skipsLeft
  rw [update_apply]
  split <;> rfl

/-- The active node is due, whatever its counters say. -/
theorem mem_collectDue {nodes : List ℕ} (h : id∈nodes) :
    id∈(collectDue (some id) nodes backoff).1 := by
  induction nodes generalizing backoff with
  | nil => cases h
  | cons first rest ih =>
    unfold collectDue
    split_ifs with hout
    · have hne : id≠first := fun hid => hout.1 (congrArg some hid.symm)
      exact ih ((mem_cons.mp h).resolve_left hne)
    · rcases mem_cons.mp h with rfl | hrest
      · exact mem_cons_self
      · exact mem_cons_of_mem _ (ih hrest)

/-- No counter goes up while the due nodes are collected, and that of a node that is not due goes
down. -/
theorem collectDue_skips (active : Option ℕ) (nodes : List ℕ) (backoff : Backoffs) :
    skipsLeft (collectDue active nodes backoff).2 id ≤ skipsLeft backoff id ∧
      (id∈nodes → id∉(collectDue active nodes backoff).1 →
        skipsLeft (collectDue active nodes backoff).2 id < skipsLeft backoff id) := by
  induction nodes generalizing backoff with
  | nil => exact ⟨Nat.le_refl _,nofun⟩
  | cons first rest ih =>
    unfold collectDue
    split_ifs with hout
    · have hcounted : ((backoff first).map fun bo => { bo with skip := bo.skip - 1 }).elim 0
          Backoff.skip=skipsLeft backoff first-1 := by
        unfold skipsLeft
        cases backoff first <;> rfl
      obtain ⟨hle,hlt⟩ := ih (update backoff first _)
      rw [skipsLeft_update,hcounted] at hle hlt
      by_cases hid : id=first
      · rw [if_pos hid] at hle
        have hpos : 0 < skipsLeft backoff id := hid ▸ hout.2
        rw [hid] at hle hpos ⊢
        exact ⟨by omega,fun _ _ => by omega⟩
      · rw [if_neg hid] at hle hlt
        exact ⟨hle,fun hmem => hlt ((mem_cons.mp hmem).resolve_left hid)⟩
    · obtain ⟨hle,hlt⟩ := ih backoff
      refine ⟨hle,fun hmem hnot => ?_⟩
      obtain ⟨hid,hnot⟩ := not_or.mp (mem_cons.not.mp hnot)
      exact hlt ((mem_cons.mp hmem).resolve_left hid) hnot

/-- Settling a node leaves every other one alone, and the node itself sits out seven sweeps at
most. -/
theorem settle_skips (backoff : Backoffs) (first : ℕ) :
    skipsLeft (settle sweep backoff first) id=skipsLeft backoff id ∨
      id=first ∧ skipsLeft (settle sweep backoff first) id≤backoffMaxSkip := by
  have hupd (counters : Option Backoff) (h : counters.elim 0 Backoff.skip≤backoffMaxSkip) :
      skipsLeft (update backoff first counters) id=skipsLeft backoff id ∨
        id=first ∧ skipsLeft (update backoff first counters) id≤backoffMaxSkip := by
    rw [skipsLeft_update]
    split
    next hid => exact .inr ⟨hid,h⟩
    · exact .inl rfl
  unfold settle
  split
  · split
    · exact .inl rfl
    · split
      · exact hupd none (Nat.zero_le _)
      · exact hupd _ (Nat.min_le_left _ _)
  · split
    · exact .inl rfl
    · exact hupd _ (Nat.min_le_left _ _)

theorem foldl_settle_skips (due : List ℕ) (backoff : Backoffs) :
    skipsLeft (due.foldl (settle sweep) backoff) id=skipsLeft backoff id ∨
      id∈due ∧ skipsLeft (due.foldl (settle sweep) backoff) id≤backoffMaxSkip := by
  induction due generalizing backoff with
  | nil => exact .inl rfl
  | cons first rest ih =>
    rw [foldl_cons]
    rcases ih (settle sweep backoff first) with hrest | ⟨hmem,hle⟩
    · rw [hrest]
      exact (settle_skips backoff first).imp_right fun ⟨hid,hle⟩ => ⟨hid ▸ mem_cons_self,hle⟩
    · exact .inr ⟨mem_cons_of_mem _ hmem,hle⟩

/-- What a sweep leaves a node to sit out: no more than before unless it was probed. -/
theorem runOnce_skips (backoff : Backoffs) (sweep : Sweep) : skipsLeft (runOnce backoff sweep) id ≤
        skipsLeft (collectDue sweep.active sweep.nodes backoff).2 id ∨
      id∈probed backoff sweep ∧ skipsLeft (runOnce backoff sweep) id≤backoffMaxSkip := by
  refine (foldl_settle_skips _ _).imp_left fun h => h.trans_le ?_
  by_cases hnode : id∈sweep.nodes <;> simp [skipsLeft,hnode]

/-- No node is ever to sit out more than seven sweeps. -/
theorem skipsLeft_le (sweeps : List Sweep) :
    skipsLeft (run runOnce fresh sweeps) id≤backoffMaxSkip := by
  refine run_keeps (I := fun backoff => skipsLeft backoff id≤backoffMaxSkip)
    (fun backoff sweep h => ?_) (Nat.zero_le _)
  rcases runOnce_skips backoff sweep with hle | ⟨-,hle⟩
  · exact hle.trans ((collectDue_skips _ _ _).1.trans h)
  · exact hle

/-- A node that is there in more sweeps than it has to sit out is probed in one of them. -/
theorem exists_probed (window : List Sweep) (hnode : ∀ sweep∈window, id∈sweep.nodes)
    (h : skipsLeft backoff id<window.length) : ∃ before sweep after,
      window=before++sweep::after ∧ id∈probed (run runOnce backoff before) sweep := by
  -- as long as the node is not probed, what it has to sit out goes down with every sweep
  induction window generalizing backoff with
  | nil => cases h
  | cons sweep rest ih =>
    by_cases hprobed : id∈probed backoff sweep
    · exact ⟨[],sweep,rest,rfl,hprobed⟩
    · have hdown : skipsLeft (runOnce backoff sweep) id < skipsLeft backoff id := by
        rcases runOnce_skips backoff sweep with hle | ⟨hmem,-⟩
        · exact hle.trans_lt ((collectDue_skips _ _ _).2 (hnode sweep mem_cons_self) hprobed)
        · exact absurd hmem hprobed
      obtain ⟨before,later,after,rfl,hlater⟩ := ih (fun other hother =>
        hnode other (mem_cons_of_mem _ hother)) (hdown.trans_le (Nat.le_of_lt_succ h))
      exact ⟨sweep::before,later,after,rfl,hlater⟩

/-- After every sequence of sweeps, the node that is active when a sweep starts is probed in it, and
of any eight sweeps in a row one probes a node that is there in all of them. -/
theorem sweep_backoff_bounded (earlier : List Sweep) (id : ℕ) :
    (∀ sweep, sweep.active = some id → id ∈ sweep.nodes →
      id ∈ probed (run runOnce fresh earlier) sweep) ∧
    ∀ window, window.length = 8 → (∀ sweep ∈ window, id ∈ sweep.nodes) →
      ∃ before sweep after, window = before ++ sweep :: after ∧
        id ∈ probed (run runOnce fresh (earlier ++ before)) sweep := by
  refine ⟨fun sweep hact hnode => ?_,fun window hlen hnode => ?_⟩
  · unfold probed
    rw [hact]
    exact mem_collectDue hnode
  · have hskips : skipsLeft (run runOnce fresh earlier) id<window.length :=
      hlen ▸ Nat.lt_succ_of_le (skipsLeft_le earlier)
    obtain ⟨before,sweep,after,hwindow,hprobed⟩ := exists_probed window hnode hskips
    exact ⟨before,sweep,after,hwindow,run_append before ▸ hprobed⟩

end PiGwPanel.SweepBackoff
