import Mathlib.Data.List.Chain
import Mathlib.Data.Prod.Lex
import Mathlib.Tactic.Linarith
import PiGwPanel.AnsweredProgram
import PiGwPanel.RoutingPriority

/-!
# Pacing of the automatic failover

`health/failover.py` and `health/selection.py`. An evaluation looks at the stored
health, decides whether the active node has failed long enough, and tries the
ranked candidates until one of them passes its preflight and its apply. What is
remembered of earlier failovers is the time of the last one and the node it left.

Times are seconds as rational numbers, and `checked_at` is the instant it parses
to. Every evaluation of a run brings its own nodes, health records and settings;
the log of switches is kept beside the store.
-/

namespace PiGwPanel.FailoverPacing

open AnsweredProgram Models StableFirstMatch List
open RoutingPriority (sampleNode)

/-- `DEFAULT_HYSTERESIS`. -/
def defaultHysteresis : ℤ := 3

/-- `DEFAULT_COOLDOWN`. -/
def defaultCooldown : ℚ := 120

/-- `DEMOTION_GRACE`. -/
def demotionGrace : ℚ := 600

/-- `MAX_PREFLIGHTS`. -/
def maxPreflights : ℕ := 5

/-- `DEFAULT_FRESHNESS_TTL`. -/
def defaultFreshnessTtl : ℚ := 180

/-- `DEFAULT_ACTIVE_INTERVAL`. -/
def defaultActiveInterval : ℚ := 60

/-- `DEFAULT_SWEEP_INTERVAL`. -/
def defaultSweepInterval : ℚ := 1800

/-- `FRESHNESS_SLACK`. -/
def freshnessSlack : ℚ := 2

/-- The parts of a `NodeHealth` that the selection reads. -/
structure NodeHealth where
  nodeId : ℕ
  lastTcpOk : Bool
  lastTcpMs : Option ℤ
  lastHttpOk : Bool
  lastHttpMs : Option ℤ
  lastRealOk : Bool
  lastRealMs : Option ℤ
  /-- The instant `checked_at` parses to. -/
  checkedAt : Option ℚ
  failCount : ℤ
  deriving DecidableEq, Repr

/-- A setting as a number: not set, not a number, or its value. -/
inductive Setting (α : Type) where
  | absent
  | malformed
  | value (a : α)
  deriving DecidableEq, Repr

/-- `int(...)` and `float(...)` of a setting with a default; malformed text raises. -/
def Setting.orDefault {α : Type} (fallback : α) : Setting α → Option α
  | .absent => some fallback
  | .malformed => none
  | .value a => some a

/-- `_positive_float`. -/
def Setting.positiveFloat (fallback : ℚ) : Setting ℚ → ℚ
  | .value a => if 0 < a then a else fallback
  | _ => fallback

/-- What a preflight gives. -/
inductive Preflight where
  | raised (text : String)
  | answered (realOk : Bool)
  deriving DecidableEq, Repr

/-- What `apply_node` gives. -/
inductive Applied where
  | ok
  | failed
  | raised (text : String)
  deriving DecidableEq, Repr

/-- Everything one evaluation meets. -/
structure Evaluation where
  now : ℚ
  failoverEnabled : Bool
  healthHysteresis : Setting ℤ
  (failoverCooldown healthActiveInterval healthInterval : Setting ℚ)
  /-- `_sweep_enabled`. -/
  sweepEnabled : Bool
  nodes : List Node
  health : List NodeHealth
  preflight : Node → Preflight
  apply : Node → Applied

/-- One automatic failover: when, away from which node, to which node, under which cooldown. -/
structure Switch where
  moment : ℚ
  (away target : ℕ)
  cooldown : ℚ
  deriving DecidableEq, Repr

/-- The settings the failover keeps. -/
structure Memory where
  activeNodeId : Option ℕ
  lastFailoverAt : Option ℚ
  lastDemotedNodeId : Option ℕ
  lastAllDownAt : Option ℚ
  events : List (ℚ × String)
  /-- Ghost: the automatic failovers so far, newest first. -/
  switches : List Switch
  deriving DecidableEq, Repr

section Selection

variable (health : List NodeHealth)

/-- The dictionary of health records by node. -/
def healthOf (id : ℕ) : Option NodeHealth := health.reverse.find? fun h => h.nodeId = id

/-- The latency part of a score. -/
def latencyScore (ms : Option ℤ) : ℤ := -(ms.getD 1000000000)

/-- `health_score`. -/
def healthScore : Option NodeHealth → ℤ × ℤ
  | none => (0, 0)
  | some h =>
    if h.lastRealOk then (3, latencyScore h.lastRealMs)
    else if h.lastHttpOk then (2, latencyScore h.lastHttpMs)
    else if h.lastTcpOk then (1, latencyScore h.lastTcpMs)
    else (0, 0)

/-- `_alive`. -/
def alive (h : Option NodeHealth) : Bool :=
  h.any fun h => h.lastRealOk || h.lastHttpOk || h.lastTcpOk

/-- `health_age_seconds`. -/
def healthAgeSeconds (h : Option NodeHealth) (now : ℚ) : Option ℚ :=
  (h.bind NodeHealth.checkedAt).map fun checked => max 0 (now - checked)

/-- `health_fresh`. -/
def healthFresh (h : Option NodeHealth) (now ttl : ℚ) : Bool :=
  (healthAgeSeconds h now).any fun age => decide (age ≤ ttl)

/-- `_rank_key`. -/
def rankKey (h : Option NodeHealth) (maxFailCount : Option ℤ) : ℤ ×ₗ ℤ ×ₗ ℤ :=
  let trusted : ℤ :=
    if maxFailCount.any fun limit => h.any fun h => decide (limit ≤ h.failCount) then 0 else 1
  toLex (trusted, toLex (healthScore h))

/-- A node that may stand in: it is not stale, and its health is fresh and alive where asked. -/
def standsBy (now : ℚ) (ttl : Option ℚ) (requireAlive : Bool) (n : Node) : Bool :=
  !n.stale && ttl.all (healthFresh (healthOf health n.id) now) &&
    (!requireAlive || alive (healthOf health n.id))

/-- `ranked_nodes`. -/
def rankedNodes (nodes : List Node) (excluded : List ℕ) (now : ℚ) (ttl : Option ℚ)
    (requireAlive : Bool) (maxFailCount : Option ℤ) : List Node :=
  sortByKey (fun n => OrderDual.toDual (rankKey (healthOf health n.id) maxFailCount))
    (nodes.filter fun n => !excluded.contains n.id && standsBy health now ttl requireAlive n)

/-- Who is ranked: exactly the nodes that are not excluded and may stand in. -/
theorem mem_rankedNodes {nodes : List Node} {excluded : List ℕ} {now : ℚ} {ttl : Option ℚ}
    {requireAlive : Bool} {maxFailCount : Option ℤ} {n : Node} :
    n∈rankedNodes health nodes excluded now ttl requireAlive maxFailCount ↔
      n∈nodes ∧ n.id∉excluded ∧ standsBy health now ttl requireAlive n=true := by
  unfold rankedNodes sortByKey
  simp

/-- `best_node`. -/
def bestNode (nodes : List Node) (excluded : List ℕ) (now : ℚ) (ttl : Option ℚ)
    (requireAlive : Bool) (maxFailCount : Option ℤ) : Option Node :=
  (rankedNodes health nodes excluded now ttl requireAlive maxFailCount).head?

end Selection

/-- `active_freshness_ttl`. -/
def Evaluation.activeTtl (e : Evaluation) : ℚ :=
  max defaultFreshnessTtl
    (e.healthActiveInterval.positiveFloat defaultActiveInterval * freshnessSlack)

section

variable (e : Evaluation) (s : Memory) (active : ℕ) (hysteresis : ℤ) (cooldown : ℚ)

/-- `standby_freshness_ttl`. -/
def Evaluation.standbyTtl : Option ℚ :=
  if e.sweepEnabled then
    some (max e.activeTtl (e.healthInterval.positiveFloat defaultSweepInterval * freshnessSlack))
  else none

/-- A node that may stand in at this evaluation. -/
def Evaluation.standsBy (n : Node) : Bool :=
  FailoverPacing.standsBy e.health e.now e.standbyTtl e.standbyTtl.isSome n

/-- `_recently_demoted`. -/
def recentlyDemoted (now : ℚ) : Option ℕ :=
  match s.lastDemotedNodeId, s.lastFailoverAt with
  | some demoted, some last => if now - last < demotionGrace then some demoted else none
  | _, _ => none

/-- The cooldown since the last failover is still running. -/
def coolingDown (cooldown now : ℚ) : Bool :=
  s.lastFailoverAt.any fun last => decide (now - last < cooldown)

/-- The active node has failed often enough, on a fresh record. -/
def activeFailing : Bool :=
  (healthOf e.health active).any fun h => !decide (h.failCount < hysteresis) &&
    healthFresh (some h) e.now e.activeTtl

/-- The ids no candidate may have. -/
def excludedIds (now : ℚ) (active : ℕ) : List ℕ :=
  active :: (recentlyDemoted s now).toList

/-- The nodes ranked by this evaluation. -/
def Evaluation.ranked : List Node :=
  rankedNodes e.health e.nodes (excludedIds s e.now active) e.now e.standbyTtl e.standbyTtl.isSome
    (some hysteresis)

/-- `decide`. -/
def decideFailover : Option ℕ :=
  if !activeFailing e active hysteresis then none
  else if coolingDown s cooldown e.now then none
  else
    (bestNode e.health e.nodes (excludedIds s e.now active) e.now e.standbyTtl
      e.standbyTtl.isSome (some hysteresis)).map Node.id

/-- `_maybe_report_all_down`; the second ranking there has no failure limit. -/
def maybeReportAllDown (exhausted : Bool) : Memory :=
  if !activeFailing e active hysteresis || coolingDown s cooldown e.now then s
  else if !exhausted && (bestNode e.health e.nodes (excludedIds s e.now active) e.now
      e.standbyTtl e.standbyTtl.isSome none).isSome then s
  else if s.lastAllDownAt.any fun last => decide (e.now - last < cooldown) then s
  else
    { s with
      lastAllDownAt := some e.now
      events := (e.now, "active node failing and no alive node to fail over to") :: s.events }

/-- How an evaluation ends: the new active node, nothing, or an exception. -/
inductive Verdict where
  | switched (id : ℕ)
  | stayed
  | raised (text : String)
  deriving DecidableEq, Repr

/-- The records a successful failover leaves. -/
def Memory.switchTo (now : ℚ) (active : ℕ) (n : Node) (cooldown : ℚ) : Memory :=
  { s with
    activeNodeId := some n.id
    lastFailoverAt := some now
    lastDemotedNodeId := some active
    switches := ⟨now, active, n.id, cooldown⟩ :: s.switches }

/-- The loop over the candidates; the errors are those of preflights that could not run. -/
def tryCandidates (e : Evaluation) (active : ℕ) (hysteresis : ℤ) (cooldown : ℚ) (total : ℕ) :
    Memory → List Node → List String → Memory × Verdict
  | s, [], errors =>
    if errors ≠ [] ∧ errors.length = total then
      (s, .raised ("no failover preflight could run: " ++ "; ".intercalate errors))
    else (maybeReportAllDown e s active hysteresis cooldown true, .stayed)
  | s, n :: rest, errors =>
    if s.activeNodeId ≠ some active then (s, .stayed)
    else
      match e.preflight n with
      | .raised text =>
        tryCandidates e active hysteresis cooldown total s rest
          (errors ++ ["node " ++ toString n.id ++ ": " ++ text])
      | .answered false => tryCandidates e active hysteresis cooldown total s rest errors
      | .answered true =>
        match e.apply n with
        | .ok => (s.switchTo e.now active n cooldown, .switched n.id)
        | .failed => tryCandidates e active hysteresis cooldown total s rest errors
        | .raised text => (s, .raised text)

/-- `run`, past the reading of the settings and of the active node. -/
def evaluate : Memory × Verdict :=
  match decideFailover e s active hysteresis cooldown with
  | none => (maybeReportAllDown e s active hysteresis cooldown false, .stayed)
  | some _ =>
    let candidates := (e.ranked s active hysteresis).take maxPreflights
    tryCandidates e active hysteresis cooldown candidates.length s candidates []

/-- `failover.run`; without an active node there is nothing to leave. -/
def failoverRun (e : Evaluation) : Memory × Verdict :=
  if !e.failoverEnabled then (s, .stayed)
  else
    match e.healthHysteresis.orDefault defaultHysteresis,
      e.failoverCooldown.orDefault defaultCooldown, s.activeNodeId with
    | some hysteresis, some cooldown, some active => evaluate e s active hysteresis cooldown
    | some _, some _, none => (s, .stayed)
    | _, _, _ => (s, .raised "could not convert setting")

/-- One evaluation of a run. -/
def step (e : Evaluation) : Memory := (failoverRun s e).1

/-- The part of the memory that the pacing reads is as it was. -/
structure Same (s t : Memory) : Prop where
  active : t.activeNodeId = s.activeNodeId
  last : t.lastFailoverAt = s.lastFailoverAt
  demoted : t.lastDemotedNodeId = s.lastDemotedNodeId
  switches : t.switches = s.switches

theorem Same.refl : Same s s := ⟨rfl,rfl,rfl,rfl⟩

/-- Reporting that every node is down changes no record of a failover. -/
theorem maybeReportAllDown_same (exhausted : Bool) :
    Same s (maybeReportAllDown e s active hysteresis cooldown exhausted) := by
  unfold maybeReportAllDown
  split_ifs
  · exact .refl s
  · exact .refl s
  · exact .refl s
  · exact ⟨rfl,rfl,rfl,rfl⟩

/-- The loop changes nothing, or switches to one of the candidates. -/
theorem tryCandidates_cases (total : ℕ) (s : Memory) (candidates : List Node)
    (errors : List String) :
    Same s (tryCandidates e active hysteresis cooldown total s candidates errors).1 ∨
      ∃ n∈candidates, (tryCandidates e active hysteresis cooldown total s candidates errors).1 =
          s.switchTo e.now active n cooldown := by
  induction candidates generalizing errors with
  | nil =>
    left
    unfold tryCandidates
    split_ifs
    · exact .refl s
    · exact maybeReportAllDown_same e s active hysteresis cooldown true
  | cons n rest ih =>
    -- The induction hypothesis carries every case in which the loop goes on.
    have hgoes : ∀ errors',
        Same s (tryCandidates e active hysteresis cooldown total s rest errors').1 ∨
          ∃ m∈n::rest, (tryCandidates e active hysteresis cooldown total s rest errors').1 =
              s.switchTo e.now active m cooldown := by
      intro errors'
      rcases ih errors' with hsame | ⟨m,hm,heq⟩
      · exact .inl hsame
      · exact .inr ⟨m,mem_cons_of_mem n hm,heq⟩
    unfold tryCandidates
    split_ifs
    · exact .inl (.refl s)
    · cases e.preflight n with
      | raised text => exact hgoes _
      | answered realOk =>
        cases realOk with
        | false => exact hgoes _
        | true =>
          cases e.apply n with
          | ok => exact .inr ⟨n,mem_cons_self,rfl⟩
          | failed => exact hgoes _
          | raised text => exact .inl (.refl s)

/-- A failover of the active node is due: it has failed often enough, its record is fresh and the
cooldown is over. -/
structure FailoverDue (s : Memory) (e : Evaluation) (active : ℕ) (hysteresis : ℤ) (cooldown : ℚ) :
    Prop where
  activeNode : s.activeNodeId = some active
  hysteresisRead : e.healthHysteresis.orDefault defaultHysteresis = some hysteresis
  cooldownRead : e.failoverCooldown.orDefault defaultCooldown = some cooldown
  failing : activeFailing e active hysteresis = true
  cooled : coolingDown s cooldown e.now = false

/-- What one automatic failover went through. -/
structure Switches (s : Memory) (e : Evaluation) (active : ℕ) (n : Node) (cooldown : ℚ) : Prop where
  enabled : e.failoverEnabled = true
  due : ∃ hysteresis, FailoverDue s e active hysteresis cooldown
  listed : n ∈ e.nodes
  allowed : n.id ∉ excludedIds s e.now active
  standsBy : e.standsBy n = true

/-- An evaluation that decides for a failover changes nothing or makes it. -/
theorem evaluate_cases : Same s (evaluate e s active hysteresis cooldown).1 ∨
      ∃ n, activeFailing e active hysteresis=true ∧ coolingDown s cooldown e.now=false ∧
        n∈e.ranked s active hysteresis ∧
          (evaluate e s active hysteresis cooldown).1=s.switchTo e.now active n cooldown := by
  unfold evaluate
  cases hdecide : decideFailover e s active hysteresis cooldown with
  | none => exact .inl (maybeReportAllDown_same e s active hysteresis cooldown false)
  | some id =>
    have hdue : activeFailing e active hysteresis=true ∧ coolingDown s cooldown e.now=false := by
      unfold decideFailover at hdecide
      split_ifs at hdecide with hfailing hcooling
      exact ⟨by simpa using hfailing,Bool.not_eq_true _ ▸ hcooling⟩
    rcases tryCandidates_cases e active hysteresis cooldown _ s
      ((e.ranked s active hysteresis).take maxPreflights) [] with hsame | ⟨n,hn,heq⟩
    · exact .inl hsame
    · exact .inr ⟨n,hdue.1,hdue.2,mem_of_mem_take hn,heq⟩

theorem step_cases (e : Evaluation) :
    Same s (step s e) ∨ ∃ active n cooldown, Switches s e active n cooldown ∧
      step s e=s.switchTo e.now active n cooldown := by
  unfold step failoverRun
  split_ifs with hon
  · exact .inl (.refl s)
  · split
    next hysteresis cooldown active hread hcooldown hact =>
      rcases evaluate_cases e s active hysteresis cooldown with
        hsame | ⟨n,hfailing,hcooled,hn,heq⟩
      · exact .inl hsame
      · obtain ⟨hlist,hallowed,hstands⟩ := (mem_rankedNodes e.health).mp hn
        have hdue : FailoverDue s e active hysteresis cooldown :=
          ⟨hact,hread,hcooldown,hfailing,hcooled⟩
        exact .inr ⟨active,n,cooldown,
          ⟨by simpa using hon,⟨_,hdue⟩,hlist,hallowed,hstands⟩,heq⟩
    · exact .inl (.refl s)
    · exact .inl (.refl s)

/-- The two settings describe the newest switch. -/
def Remembers : Prop :=
  ∀ sw ∈ s.switches.head?, s.lastFailoverAt = some sw.moment ∧ s.lastDemotedNodeId = some sw.away

/-- Two successive failovers are the cooldown of the later one apart. -/
def CooldownKept (later earlier : Switch) : Prop :=
  earlier.moment + later.cooldown ≤ later.moment

/-- A later failover to the node an earlier one left keeps the grace. -/
def GraceKept (later earlier : Switch) : Prop :=
  earlier.away = later.target → earlier.moment + demotionGrace ≤ later.moment

/-- Where a failover is due, no node that a failover before the last one left less than the grace
ago may stand in. -/
def OlderStayOut (e : Evaluation) : Prop :=
  e.failoverEnabled = true → ∀ active hysteresis cooldown,
    FailoverDue s e active hysteresis cooldown →
      ∀ sw ∈ s.switches.tail, e.now < sw.moment + demotionGrace →
        ∀ n ∈ e.nodes, n.id = sw.away → e.standsBy n = false

end

variable {n : Node} {s : Memory} {e : Evaluation}

theorem remembers_step (e : Evaluation) (h : Remembers s) : Remembers (step s e) := by
  rcases step_cases s e with hsame | ⟨active,n,cooldown,_,heq⟩
  · intro sw hsw
    rw [hsame.switches] at hsw
    rw [hsame.last,hsame.demoted]
    exact h sw hsw
  · rw [heq]
    intro sw hsw
    obtain rfl : sw=⟨e.now,active,n.id,cooldown⟩ := by
      simpa [Memory.switchTo,eq_comm] using hsw
    exact ⟨rfl,rfl⟩

variable {cooldown : ℚ} {active : ℕ}

section

variable (h : Switches s e active n cooldown)

include h

variable (hmem : Remembers s)

include hmem

/-- A failover is made only when the cooldown since the last one is over. -/
theorem Switches.cooldownKept :
    ∀ sw∈s.switches.head?, CooldownKept ⟨e.now,active,n.id,cooldown⟩ sw := by
  intro sw hsw
  obtain ⟨_,hdue⟩ := h.due
  have hcooled := hdue.cooled
  unfold coolingDown at hcooled
  rw [(hmem sw hsw).1,Option.any_some,decide_eq_false_iff_not,not_lt] at hcooled
  change sw.moment+cooldown≤e.now
  linarith

/-- A failover back to the node the last one left keeps the grace. -/
theorem Switches.graceKept_last :
    ∀ sw∈s.switches.head?, GraceKept ⟨e.now,active,n.id,cooldown⟩ sw := by
  intro sw hsw haway
  by_contra hearly
  obtain ⟨hlast,hdemoted⟩ := hmem sw hsw
  have hwithin : e.now - sw.moment<demotionGrace := by
    linarith
  have hout : recentlyDemoted s e.now=some sw.away := by
    unfold recentlyDemoted
    rw [hlast,hdemoted]
    exact if_pos hwithin
  apply h.allowed
  unfold excludedIds
  rw [hout]
  have hid : n.id=sw.away := haway.symm
  simp [hid]

/-- Where older nodes stay out, a failover keeps the grace of every earlier one. -/
theorem Switches.graceKept (hout : OlderStayOut s e) :
    ∀ sw∈s.switches, GraceKept ⟨e.now,active,n.id,cooldown⟩ sw := by
  intro sw hsw
  obtain ⟨_,hdue⟩ := h.due
  cases hlog : s.switches with
  | nil => simp [hlog] at hsw
  | cons newest older =>
    rw [hlog] at hsw
    rcases mem_cons.mp hsw with rfl | hsw
    · exact h.graceKept_last hmem sw (by simp [hlog])
    · intro haway
      by_contra hearly
      have hlt : e.now < sw.moment+demotionGrace := not_le.mp hearly
      have hfalse :=
        hout h.enabled _ _ _ hdue sw (by simpa [hlog] using hsw) hlt n h.listed haway.symm
      rw [h.standsBy] at hfalse
      cases hfalse

end

theorem cooldown_step (e : Evaluation) (hmem : Remembers s) (h : s.switches.IsChain CooldownKept) :
    (step s e).switches.IsChain CooldownKept := by
  rcases step_cases s e with hsame | ⟨active,n,cooldown,hswitches,heq⟩
  · rwa [hsame.switches]
  · rw [heq]
    exact isChain_cons.mpr ⟨hswitches.cooldownKept hmem,h⟩

/-- An evaluation at which older nodes stay out keeps the grace of every failover. -/
theorem grace_step (hout : OlderStayOut s e) (hmem : Remembers s)
    (h : s.switches.Pairwise GraceKept) : (step s e).switches.Pairwise GraceKept := by
  rcases step_cases s e with hsame | ⟨active,n,cooldown,hswitches,heq⟩
  · rwa [hsame.switches]
  · rw [heq]
    exact pairwise_cons.mpr ⟨hswitches.graceKept hmem hout,h⟩

/-- Over every run of evaluations two successive failovers are at least the cooldown apart, and
where no node left by an older failover may stand in within its grace when a failover is due, no
failover returns to a node before the grace is over. -/
theorem failovers_paced (start : Memory) (hstart : start.switches = [])
    (evaluations : List Evaluation) : (run step start evaluations).switches.IsChain CooldownKept ∧
      (EveryStep step OlderStayOut start evaluations →
        (run step start evaluations).switches.Pairwise GraceKept) := by
  have hremembers : Remembers start := by
    intro sw hsw
    simp [hstart] at hsw
  constructor
  · have hkept : Remembers (run step start evaluations) ∧
        (run step start evaluations).switches.IsChain CooldownKept := by
      refine run_keeps (I := fun s => Remembers s ∧ s.switches.IsChain CooldownKept) ?_
        ⟨hremembers,by simp [hstart]⟩
      intro s e hs
      exact ⟨remembers_step e hs.1,cooldown_step e hs.1 hs.2⟩
    exact hkept.2
  · intro hout
    have hkept : Remembers (run step start evaluations) ∧
        (run step start evaluations).switches.Pairwise GraceKept := by
      refine run_keeps_of (I := fun s => Remembers s ∧ s.switches.Pairwise GraceKept) ?_ hout
        ⟨hremembers,by simp [hstart]⟩
      intro s e hout hs
      exact ⟨remembers_step e hs.1,grace_step hout hs.1 hs.2⟩
    exact hkept.2

/-- A fresh record of a node that answers, with the given number of failures. -/
def sampleHealth (id : ℕ) (now : ℚ) (failCount : ℤ) : NodeHealth :=
  ⟨id, true, some 10, false, none, false, none, some now, failCount⟩

/-- An evaluation over the given nodes with default settings: the named node has failed three
times, every preflight and every apply succeeds. -/
def sampleEvaluation (now : ℚ) (ids : List ℕ) (failing : ℕ) : Evaluation where
  now := now
  failoverEnabled := true
  healthHysteresis := .absent
  failoverCooldown := .absent
  healthActiveInterval := .absent
  healthInterval := .absent
  sweepEnabled := true
  nodes := ids.map fun id => { sampleNode with id := id }
  health := ids.map fun id => sampleHealth id now (if id = failing then 3 else 0)
  preflight := fun _ => .answered true
  apply := fun _ => .ok

/-- Node 1 is active and nothing is remembered. -/
def sampleMemory : Memory := ⟨some 1, none, none, none, [], []⟩

/-- With two nodes the run stays out of the grace of the node it left. -/
theorem failovers_paced_two_nodes :
    (run step sampleMemory [sampleEvaluation 1000 [1, 2] 1, sampleEvaluation 1300 [1, 2] 2,
      sampleEvaluation 1600 [1, 2] 2]).switches = [⟨1600, 2, 1, 120⟩, ⟨1000, 1, 2, 120⟩] ∧
    (run step sampleMemory [sampleEvaluation 1000 [1, 2] 1, sampleEvaluation 1300 [1, 2] 2,
      sampleEvaluation 1600 [1, 2] 2]).switches.Pairwise GraceKept := by
  refine ⟨by decide +kernel,(failovers_paced sampleMemory rfl _).2 ?_⟩
  have hout : ∀ s e,s.switches.tail=[] → OlderStayOut s e := by
    intro s e hs _ _ _ _ _ sw hsw
    simp [hs] at hsw
  exact ⟨hout _ _ rfl,hout _ _ (by decide +kernel),hout _ _ (by decide +kernel),trivial⟩

/-- Three failing nodes in turn, two minutes apart: the third failover goes back to the node the
first one left, because the second one overwrote its memory. -/
theorem third_failover_returns_within_grace :
    (run step sampleMemory [sampleEvaluation 1000 [1, 2, 3] 1, sampleEvaluation 1120 [1, 2, 3] 2,
      sampleEvaluation 1240 [1, 2, 3] 3]).switches =
        [⟨1240, 3, 1, 120⟩, ⟨1120, 2, 3, 120⟩, ⟨1000, 1, 2, 120⟩] ∧
    ¬ (run step sampleMemory [sampleEvaluation 1000 [1, 2, 3] 1, sampleEvaluation 1120 [1, 2, 3] 2,
      sampleEvaluation 1240 [1, 2, 3] 3]).switches.Pairwise GraceKept := by
  have hlog : (run step sampleMemory [sampleEvaluation 1000 [1,2,3] 1,
      sampleEvaluation 1120 [1,2,3] 2,sampleEvaluation 1240 [1,2,3] 3]).switches =
        [⟨1240,3,1,120⟩,⟨1120,2,3,120⟩,⟨1000,1,2,120⟩] := by decide +kernel
  refine ⟨hlog,?_⟩
  rw [hlog]
  intro hpair
  have hgrace : GraceKept ⟨1240,3,1,120⟩ ⟨1000,1,2,120⟩ := (pairwise_cons.mp hpair).1 _ (by simp)
  have hle : (1000 : ℚ)+demotionGrace≤1240 := hgrace rfl
  norm_num [demotionGrace] at hle

section Standbys

variable {active : ℕ} {hysteresis : ℤ} {cooldown : ℚ}

/-- `health_status`: the nodes counted as eligible standbys. -/
def eligibleStandbys (s : Memory) (e : Evaluation) : List Node :=
  match s.activeNodeId with
  | none => []
  | some active =>
    rankedNodes e.health e.nodes [active] e.now e.standbyTtl e.standbyTtl.isSome none

/-- The nodes that `failover.run` goes through. -/
def preflightCandidates (s : Memory) (e : Evaluation) : List Node :=
  if !e.failoverEnabled then []
  else
    match e.healthHysteresis.orDefault defaultHysteresis,
      e.failoverCooldown.orDefault defaultCooldown, s.activeNodeId with
    | some hysteresis, some cooldown, some active =>
      if (decideFailover e s active hysteresis cooldown).isSome then
        (e.ranked s active hysteresis).take maxPreflights
      else []
    | _, _, _ => []

section

variable (h : FailoverDue s e active hysteresis cooldown)

include h

theorem FailoverDue.isSome_decideFailover :
    (decideFailover e s active hysteresis cooldown).isSome ↔ e.ranked s active hysteresis≠[] := by
  unfold decideFailover bestNode
  rw [h.failing,h.cooled]
  change ((e.ranked s active hysteresis).head?.map Node.id).isSome ↔ _
  cases e.ranked s active hysteresis <;> simp

theorem FailoverDue.failoverRun_eq (hany : preflightCandidates s e≠[]) :
    failoverRun s e=tryCandidates e active hysteresis cooldown (preflightCandidates s e).length s
      (preflightCandidates s e) [] := by
  unfold preflightCandidates at hany ⊢
  unfold failoverRun evaluate
  rw [h.hysteresisRead,h.cooldownRead,h.activeNode] at *
  cases hon : e.failoverEnabled with
  | false => simp [hon] at hany
  | true =>
    cases hdecide : decideFailover e s active hysteresis cooldown with
    | none => simp [hon,hdecide] at hany
    | some id => simp [hdecide]

theorem FailoverDue.preflightCandidates_ne_nil :
    preflightCandidates s e≠[] ↔ e.failoverEnabled=true ∧
      ∃ n∈e.nodes, n.id∉excludedIds s e.now active ∧ e.standsBy n=true := by
  have hranked : e.ranked s active hysteresis≠[] ↔
      ∃ n∈e.nodes, n.id∉excludedIds s e.now active ∧ e.standsBy n=true := by
    rw [← length_pos_iff,length_pos_iff_exists_mem]
    exact exists_congr fun n => mem_rankedNodes e.health
  unfold preflightCandidates
  rw [h.hysteresisRead,h.cooldownRead,h.activeNode,← hranked]
  cases e.failoverEnabled with
  | false => simp
  | true =>
    have hdecide := h.isSome_decideFailover
    by_cases hempty : e.ranked s active hysteresis=[]
    · simp [hempty]
    · simp [hdecide.mpr hempty,hempty,maxPreflights]

end

theorem eligibleStandbys_ne_nil (h : s.activeNodeId=some active) :
    eligibleStandbys s e≠[] ↔ ∃ n∈e.nodes, n.id≠active ∧ e.standsBy n=true := by
  unfold eligibleStandbys
  rw [h,← length_pos_iff,length_pos_iff_exists_mem]
  refine exists_congr fun n => (mem_rankedNodes e.health).trans ?_
  simp [Evaluation.standsBy]

/-- When a failover is due, the standby count says whether there is a node to try exactly when
either no node may stand in, or the failover is switched on and one that may stand in is not the
node the last failover left less than the grace ago. -/
theorem standby_count_agrees_iff (s : Memory) (e : Evaluation) (active : ℕ) (hysteresis : ℤ)
    (cooldown : ℚ) (h : FailoverDue s e active hysteresis cooldown) :
    (0 < (eligibleStandbys s e).length ↔ preflightCandidates s e ≠ []) ↔
      ((∃ n ∈ e.nodes, n.id ≠ active ∧ e.standsBy n = true) → e.failoverEnabled = true ∧
          ∃ n ∈ e.nodes, n.id ∉ excludedIds s e.now active ∧ e.standsBy n = true) := by
  rw [length_pos_iff,eligibleStandbys_ne_nil h.activeNode,h.preflightCandidates_ne_nil]
  refine ⟨Iff.mp,fun himp => ⟨himp,?_⟩⟩
  rintro ⟨-,n,hn,hallowed,hstands⟩
  exact ⟨n,hn,fun hid => hallowed (mem_cons.mpr (.inl hid)),hstands⟩

/-- A failing node with a standby that no failover has left. -/
theorem standby_count_agrees_two_nodes :
    0 < (eligibleStandbys sampleMemory (sampleEvaluation 1000 [1, 2] 1)).length ↔
      preflightCandidates sampleMemory (sampleEvaluation 1000 [1, 2] 1) ≠ [] := by
  have hdue : FailoverDue sampleMemory (sampleEvaluation 1000 [1,2] 1) 1 3 120 :=
    ⟨rfl,rfl,rfl,by decide +kernel,rfl⟩
  exact (standby_count_agrees_iff _ _ 1 3 120 hdue).mpr fun _ => ⟨rfl,by decide +kernel⟩

/-- Five minutes after the failover from node 1 node 2 fails too: node 1 is counted as a standby,
and the failover has nothing to try. -/
theorem demoted_node_counted :
    let s : Memory := ⟨some 2, some 1000, some 1, none, [], []⟩
    let e := sampleEvaluation 1300 [1, 2] 2
    FailoverDue s e 2 3 120 ∧ (eligibleStandbys s e).length = 1 ∧ preflightCandidates s e = [] :=
  ⟨⟨rfl,rfl,rfl,by decide +kernel,by decide +kernel⟩,by decide +kernel,by decide +kernel⟩

end Standbys

end PiGwPanel.FailoverPacing
