import Mathlib.Order.MinMax
import PiGwPanel.AnsweredProgram

/-!
# The health rows that three loops write

The sweep of the monitor, the probe of the active node and the preflights of a
failover write one row a node. Results through the tunnel and direct results have
columns of their own but share the stamp, and a result through the tunnel that is
older than the stamp is dropped. A preflight carries the time its evaluation
began, so a direct result of a sweep begun since then makes it be dropped.
-/

namespace PiGwPanel.HealthRows

open AnsweredProgram

variable {τ : Type} [LinearOrder τ]

/-- A row of `node_health`; a node without one has a blank one. -/
structure NodeHealth (τ : Type) where
  lastTcpOk : Option Bool := none
  lastTcpMs : Option ℕ := none
  lastHttpOk : Option Bool := none
  lastHttpMs : Option ℕ := none
  lastRealOk : Option Bool := none
  lastRealMs : Option ℕ := none
  egressIp : Option String := none
  egressIp6 : Option String := none
  checkedAt : Option τ := none
  failCount : ℕ := 0
  deriving DecidableEq

/-- What a direct check found. -/
structure DirectResult where
  tcpOk : Bool
  tcpMs : Option ℕ
  httpOk : Bool
  httpMs : Option ℕ

/-- What a request through the tunnel found. -/
structure RealResult where
  ok : Bool
  ms : Option ℕ
  (egressIp egressIp6 : Option String)
  deriving DecidableEq

/-- The stamp of a row after a direct result. -/
def laterStamp : Option τ → Option τ → Option τ
  | none, kept => kept
  | some stamp, none => some stamp
  | some stamp, some kept => some (if kept ≤ stamp then stamp else kept)

/-- `update_health_direct`. -/
def updateHealthDirect (found : DirectResult) (checkedAt : Option τ) (old : NodeHealth τ) :
    NodeHealth τ :=
  { old with
    lastTcpOk := some found.tcpOk
    lastTcpMs := found.tcpMs
    lastHttpOk := some found.httpOk
    lastHttpMs := found.httpMs
    checkedAt := laterStamp checkedAt old.checkedAt }

/-- A row is stamped later than this. -/
def Stale (stamp : τ) (row : NodeHealth τ) : Prop := ∃ kept, row.checkedAt = some kept ∧ stamp < kept

instance (stamp : τ) (row : NodeHealth τ) : Decidable (Stale stamp row) :=
  match h : row.checkedAt with
  | none => .isFalse fun ⟨_, hkept, _⟩ => nomatch h.symm.trans hkept
  | some kept => decidable_of_iff (stamp < kept) ⟨fun hlt => ⟨kept, h, hlt⟩, fun ⟨_, hkept, hlt⟩ =>
      Option.some.inj (h.symm.trans hkept) ▸ hlt⟩

/-- The row with a result through the tunnel in it. -/
def withReal (found : RealResult) (stamp : τ) (old : NodeHealth τ) : NodeHealth τ :=
  { old with
    lastRealOk := some found.ok
    lastRealMs := found.ms
    egressIp := found.egressIp
    egressIp6 := found.egressIp6
    checkedAt := some stamp
    failCount := if found.ok then 0 else old.failCount + 1 }

/-- `update_health_real`. -/
def updateHealthReal (found : RealResult) (checkedAt : τ) (old : NodeHealth τ) : NodeHealth τ :=
  if Stale checkedAt old then old else withReal found checkedAt old

/-- A loop under way: the time it took at its start and the active node it read then. -/
structure Begun (τ : Type) where
  stamp : τ
  active : Option ℕ

/-- The rows, the three loops and the clock. -/
structure Gateway (τ : Type) where
  rows : ℕ → NodeHealth τ
  active : Option ℕ
  clock : τ
  (sweep evaluation : Option (Begun τ))
  /-- The results through the tunnel that were stored, by node and stamp. -/
  stored : List (ℕ × τ)

/-- What may happen, in any order. -/
inductive Event (τ : Type) where
  | tick (now : τ)
  | activate (node : Option ℕ)
  | beginSweep (active : Option ℕ)
  /-- The sweep writes the direct result of a node. -/
  | direct (node : ℕ) (found : DirectResult)
  /-- The sweep's request through the tunnel for the node that was active came back. -/
  | tunnelled (node : ℕ) (found : RealResult) (direct : DirectResult)
  /-- `_probe_active` came back for the active node. -/
  | probed (node : ℕ) (found : RealResult)
  | beginEvaluation (active : Option ℕ)
  /-- A preflight of the evaluation came back. -/
  | preflight (node : ℕ) (found : RealResult)
  /-- `failover.run` returned or raised. -/
  | endEvaluation

/-- The result through the tunnel that an event writes, with its stamp. -/
def realWrite (s : Gateway τ) : Event τ → Option (ℕ × τ × RealResult)
  | .tunnelled node found _ => s.sweep.bind fun sweep =>
      if sweep.active = some node ∧ s.active = some node then some (node, sweep.stamp,
        { found with egressIp6 := (s.rows node).egressIp6 }) else none
  | .probed node found => if s.active = some node then some (node, s.clock, found) else none
  | .preflight node found => s.evaluation.bind fun evaluation =>
      if s.active = evaluation.active then some (node, evaluation.stamp, found) else none
  | _ => none

/-- The direct result that an event writes; the active node's row is not stamped. -/
def directWrite (s : Gateway τ) : Event τ → Option (ℕ × Option τ × DirectResult)
  | .direct node found => s.sweep.map fun sweep =>
      (node, if s.active = some node then none else some sweep.stamp, found)
  | .tunnelled node _ direct => s.sweep.bind fun sweep =>
      if sweep.active = some node ∧ s.active ≠ some node then
        some (node, some sweep.stamp, direct) else none
  | _ => none

/-- The loops and the clock after an event. -/
def advance (s : Gateway τ) : Event τ → Gateway τ
  | .tick now => { s with clock := max s.clock now }
  | .activate node => { s with active := node }
  | .beginSweep active => { s with sweep := some ⟨s.clock, active⟩ }
  | .beginEvaluation active => { s with evaluation := some ⟨s.clock, active⟩ }
  | .endEvaluation => { s with evaluation := none }
  | _ => s

/-- A result through the tunnel reaches the store. -/
def putReal (s : Gateway τ) (node : ℕ) (stamp : τ) (found : RealResult) : Gateway τ :=
  { s with
    rows := Function.update s.rows node (updateHealthReal found stamp (s.rows node))
    stored := if Stale stamp (s.rows node) then s.stored else (node, stamp) :: s.stored }

/-- A direct result reaches the store. -/
def putDirect (s : Gateway τ) (node : ℕ) (stamp : Option τ) (found : DirectResult) : Gateway τ :=
  { s with rows := Function.update s.rows node (updateHealthDirect found stamp (s.rows node)) }

/-- The state after one event. -/
def step (s : Gateway τ) (event : Event τ) : Gateway τ :=
  match realWrite s event, directWrite s event with
  | some (node, stamp, found), _ => putReal s node stamp found
  | none, some (node, stamp, found) => putDirect s node stamp found
  | none, none => advance s event

/-- While an evaluation is under way, no direct result is written that is stamped later than it. -/
def InTime (s : Gateway τ) (event : Event τ) : Prop :=
  ∀ write ∈ directWrite s event, ∀ stamp ∈ write.2.1, ∀ evaluation ∈ s.evaluation,
    stamp ≤ evaluation.stamp

/-- A stamp that is not after the stamps any loop will write next. -/
def Dated (s : Gateway τ) (stamp : τ) : Prop :=
  stamp ≤ s.clock ∧ (∀ sweep ∈ s.sweep, stamp ≤ sweep.stamp) ∧
    ∀ evaluation ∈ s.evaluation, stamp ≤ evaluation.stamp

/-- Every stamp of a row is that of a stored result through the tunnel, or early enough. -/
structure Sound (s : Gateway τ) : Prop where
  sweep : ∀ sweep ∈ s.sweep, sweep.stamp ≤ s.clock
  rows : ∀ node stamp, (s.rows node).checkedAt = some stamp →
    (node, stamp) ∈ s.stored ∨ Dated s stamp

variable {s : Gateway τ} {event : Event τ} {node : ℕ} {stamp : τ}

theorem laterStamp_cases (stamp kept : Option τ) :
    laterStamp stamp kept=kept ∨ laterStamp stamp kept=stamp := by
  unfold laterStamp
  split
  · exact .inl rfl
  · exact .inr rfl
  · split_ifs
    · exact .inr rfl
    · exact .inl rfl

theorem Sound.advance (h : Sound s) : Sound (advance s event) := by
  have hlater (t : Gateway τ) (hrows : t.rows=s.rows) (hstored : t.stored=s.stored)
      (hdated : ∀ stamp, Dated s stamp → Dated t stamp) (hsweep : ∀ sweep∈t.sweep,
        sweep.stamp≤t.clock) : Sound t :=
    ⟨hsweep,fun node stamp hstamp =>
      hstored ▸ (h.rows node stamp (hrows ▸ hstamp)).imp_right (hdated stamp)⟩
  cases event with
  | tick now =>
    exact hlater _ rfl rfl (fun stamp hd => ⟨le_max_of_le_left hd.1,hd.2⟩)
      fun sweep hs => le_max_of_le_left (h.sweep sweep hs)
  | beginSweep active =>
    refine hlater _ rfl rfl (fun stamp hd => ⟨hd.1,fun sweep hs => ?_,hd.2.2⟩) fun sweep hs => ?_
    · exact Option.some.inj hs ▸ hd.1
    · exact Option.some.inj hs ▸ le_rfl
  | beginEvaluation active =>
    refine hlater _ rfl rfl (fun stamp hd => ⟨hd.1,hd.2.1,fun evaluation he => ?_⟩) h.sweep
    exact Option.some.inj he ▸ hd.1
  | endEvaluation =>
    exact hlater _ rfl rfl (fun stamp hd => ⟨hd.1,hd.2.1,nofun⟩) h.sweep
  | _ => exact hlater _ rfl rfl (fun _ hd => hd) h.sweep

theorem Sound.putReal (h : Sound s) (found : RealResult) : Sound (putReal s node stamp found) := by
  refine ⟨h.sweep,fun other kept hkept => ?_⟩
  change (Function.update s.rows node _ other).checkedAt=some kept at hkept
  change (other, kept)∈(if Stale stamp (s.rows node) then s.stored else
    (node, stamp)::s.stored) ∨ Dated s kept
  by_cases hnode : other=node
  · rw [hnode,Function.update_self,updateHealthReal] at hkept
    split_ifs at hkept ⊢
    · exact hnode ▸ h.rows node kept hkept
    · exact .inl (hnode ▸ Option.some.inj hkept ▸ List.mem_cons_self)
  · rw [Function.update_of_ne hnode] at hkept
    refine (h.rows other kept hkept).imp_left fun hmem => ?_
    split_ifs
    · exact hmem
    · exact List.mem_cons_of_mem _ hmem

theorem Sound.putDirect {mark : Option τ} (h : Sound s) (hmark : ∀ stamp∈mark, Dated s stamp)
    (found : DirectResult) : Sound (putDirect s node mark found) := by
  refine ⟨h.sweep,fun other kept hkept => ?_⟩
  change (Function.update s.rows node _ other).checkedAt=some kept at hkept
  by_cases hnode : other=node
  · subst hnode
    rw [Function.update_self] at hkept
    rcases laterStamp_cases mark (s.rows other).checkedAt with hold | hnew
    · exact h.rows other kept (hold.symm.trans hkept)
    · exact .inr (hmark kept (hnew.symm.trans hkept))
  · rw [Function.update_of_ne hnode] at hkept
    exact h.rows other kept hkept

omit [LinearOrder τ] in
/-- A direct result is stamped with the start of its sweep. -/
theorem stamp_of_directWrite {mark : Option τ} {found : DirectResult}
    (h : directWrite s event=some (node, mark, found)) :
    ∀ stamp∈mark, ∃ sweep∈s.sweep, stamp=sweep.stamp := by
  intro stamp hstamp
  cases event with
  | direct other result =>
    obtain ⟨sweep,hsweep,hwrite⟩ := Option.map_eq_some_iff.mp h
    obtain ⟨-,rfl,-⟩ : _ ∧ _ ∧ _ := by simpa using hwrite
    split_ifs at hstamp
    · cases hstamp
    · exact ⟨sweep,hsweep,(Option.some.inj hstamp).symm⟩
  | tunnelled other result direct =>
    obtain ⟨sweep,hsweep,hwrite⟩ := Option.bind_eq_some_iff.mp h
    split_ifs at hwrite
    obtain ⟨-,rfl,-⟩ : _ ∧ _ ∧ _ := by simpa using hwrite
    exact ⟨sweep,hsweep,(Option.some.inj hstamp).symm⟩
  | _ => cases h

theorem Sound.step (h : Sound s) (hevent : InTime s event) : Sound (step s event) := by
  unfold HealthRows.step
  split
  · exact h.putReal _
  · next node mark found _ hwrite =>
    refine h.putDirect (fun stamp hstamp => ?_) found
    obtain ⟨sweep,hsweep,rfl⟩ := stamp_of_directWrite hwrite stamp hstamp
    refine ⟨h.sweep sweep hsweep,fun other hother => ?_, hevent _ hwrite _ hstamp⟩
    rw [Option.mem_def.mp hsweep] at hother
    exact Option.some.inj hother ▸ le_rfl
  · exact h.advance

/-- A gateway before the first result. -/
def fresh (now : τ) : Gateway τ where
  rows := fun _ => {}
  active := none
  clock := now
  sweep := none
  evaluation := none
  stored := []

end PiGwPanel.HealthRows
