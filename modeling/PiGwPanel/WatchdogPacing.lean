import Mathlib.Algebra.Order.Archimedean.Basic
import Mathlib.Data.List.Chain

/-!
# Pacing of the xray watchdog

`health/liveness.py`, `LivenessLoop._watchdog`. The watchdog restarts an xray
that died and doubles the pause before the next restart up to a ceiling. Whether
a crash opens a new episode is judged by the last start at which xray was seen
running, so the pacing is a matter of two clocks: the time since that start, and
the pause itself. The power of two behind the pause outgrows a float at the
1025th attempt of an episode, and from then on no pause is put.

Times are seconds as rational numbers. An xray is known by the moment it dies;
between two ticks, and while a tick waits for its locks, others may start and
stop it.
-/

namespace PiGwPanel.WatchdogPacing

open List

/-- `WATCHDOG_BASE_BACKOFF`. -/
def watchdogBaseBackoff : ℚ := 20

/-- `WATCHDOG_MAX_BACKOFF`. -/
def watchdogMaxBackoff : ℚ := 600

/-- `WATCHDOG_STABLE_SEC`. -/
def watchdogStableSec : ℚ := 300

/-- One restart: the time read before it, its count and the pause put after it, zero when none
was. -/
structure Restart where
  now : ℚ
  attempt : ℕ
  delay : ℚ
  deriving DecidableEq, Repr

/-- What the watchdog remembers between its ticks. -/
structure Pacing where
  restartAttempts : ℕ
  (lastReadyAt nextRestartAt : ℚ)
  backoffReported : Bool
  /-- Ghost: the restarts so far, newest first. -/
  restarts : List Restart
  deriving DecidableEq, Repr

/-- The pacing of a new `LivenessLoop`. -/
def Pacing.fresh : Pacing := ⟨0, 0, 0, false, []⟩

/-- The answer of `supervisor.state()`. -/
inductive XrayState where
  | working
  | error
  | stopped
  deriving DecidableEq, Repr

/-- The watchdog and the supervisor it watches. -/
structure Site where
  pacing : Pacing
  wantRunning : Bool
  /-- When the child of the supervisor dies, if it has one. -/
  proc : Option ℚ
  /-- Recorded events, newest first. -/
  events : List (ℚ × String)
  deriving DecidableEq, Repr

section

variable (s : Site) (p : Pacing) (t : Tick)

/-- `poll() is None` at the given time. -/
def Site.alive (time : ℚ) : Bool := s.proc.any (fun diesAt => decide (time < diesAt))

/-- `XraySupervisor.state` at the given time. -/
def Site.xrayState (time : ℚ) : XrayState :=
  if s.alive time then .working else if s.wantRunning then .error else .stopped

/-- What others do to the supervisor. -/
inductive Meddling where
  /-- A deliberate stop; the child may outlive it. -/
  | stop (gone : Bool)
  /-- A start, with the moment the child it spawns dies. -/
  | start (time : ℚ) (diesAt : Option ℚ)
  deriving DecidableEq, Repr

/-- One action of others. -/
def Site.meddle : Meddling → Site
  | .stop gone => { s with wantRunning := false, proc := if gone then none else s.proc }
  | .start time diesAt =>
    { s with wantRunning := true, proc := if s.alive time then s.proc else diesAt }

/-- What one call of `_watchdog` meets. -/
structure Tick where
  /-- The stop event is set when the call begins. -/
  stopsFirst : Bool
  /-- The clock when the call reads it. -/
  now : ℚ
  /-- What others do before the locks are held. -/
  meanwhile : List Meddling
  /-- The stop event is set under the locks. -/
  stopsLocked : Bool
  /-- When the locks are held and xray is started. -/
  lockedAt : ℚ
  /-- How long the started xray lives; `none` when the start spawned nothing. -/
  life : Option ℚ
  /-- The start raised. -/
  startRaises : Bool
  /-- When `status` looks, and whether it raised. -/
  statusAt : ℚ
  statusRaises : Bool
  /-- Recording the event raised. -/
  recordRaises : Bool
  deriving DecidableEq, Repr

/-- When the xray that this tick starts dies. -/
def Tick.child : Option ℚ := t.life.map (t.lockedAt + ·)

/-- `status` finds the started xray running. -/
def Tick.seenRunning : Bool :=
  !t.statusRaises && t.child.any (fun diesAt => decide (t.statusAt < diesAt))

/-- `_watchdog_backoff`: the integer power is turned into a float, which raises from `2 ** 1024`
on. A product that is too large is an infinity, and the ceiling is taken. -/
def watchdogBackoff (attempts : ℕ) : Option ℚ :=
  if 1024 ≤ attempts - 1 then none
  else some (min watchdogMaxBackoff (watchdogBaseBackoff * 2 ^ (attempts - 1)))

/-- The pause an attempt puts. -/
def pause (attempts : ℕ) : ℚ := (watchdogBackoff attempts).getD 0

/-- Whether a crash seen now counts as the end of a healthy run. -/
def Pacing.stable (now : ℚ) : Bool :=
  decide (p.lastReadyAt ≠ 0) && decide (watchdogStableSec ≤ now - p.lastReadyAt)

/-- The count of this attempt, from one again in a new episode. -/
def Pacing.begin (now : ℚ) : Pacing :=
  if p.stable now then { p with restartAttempts := 1, backoffReported := false }
  else { p with restartAttempts := p.restartAttempts + 1 }

/-- The crash loop is reported: not the first attempt, xray is not up, the pause is the ceiling. -/
def Pacing.reports (ready : Bool) : Bool :=
  decide (p.restartAttempts ≠ 1) && !ready &&
    decide (watchdogMaxBackoff ≤ pause p.restartAttempts) && !p.backoffReported

/-- The bookkeeping after a start that returned; it ends early when the pause raises. -/
def Pacing.settle (now : ℚ) (ready : Bool) : Pacing :=
  let seen : Pacing := { p with
    lastReadyAt := if ready then now else p.lastReadyAt
    restarts := ⟨now, p.restartAttempts, pause p.restartAttempts⟩ :: p.restarts }
  match watchdogBackoff p.restartAttempts with
  | none => seen
  | some delay => { seen with
      nextRestartAt := now + delay
      backoffReported := p.backoffReported || p.reports ready }

/-- The event recorded after a start that returned. -/
def Pacing.event (ready : Bool) : Option String :=
  if p.restartAttempts = 1 then some "auto-restarted after crash"
  else if p.reports ready then
    some ("xray keeps crashing — retrying every " ++
      toString (pause p.restartAttempts).floor ++ "s")
  else none

/-- The part of `_watchdog` under the locks, once xray is known to be down. -/
def restartXray : Site :=
  let p := s.pacing.begin t.now
  let started : Site := { s with pacing := p, wantRunning := true, proc := t.child }
  if t.startRaises then started
  else
    { started with
      pacing := p.settle t.now t.seenRunning
      events := if t.recordRaises then s.events
        else ((p.event t.seenRunning).map (t.now, ·)).toList ++ s.events }

/-- The call gets past its first checks. -/
def due : Bool :=
  !t.stopsFirst && decide (s.xrayState t.now = .error) && !decide (t.now < s.pacing.nextRestartAt)

/-- The site once others have acted while the call waited for its locks. -/
def locked : Site := t.meanwhile.foldl Site.meddle s

/-- The call goes on to start xray. -/
def restartsXray : Bool :=
  due s t && !t.stopsLocked && decide ((locked s t).xrayState t.lockedAt = .error)

/-- `LivenessLoop._watchdog`. -/
def watchdog : Site :=
  if due s t then
    if restartsXray s t then restartXray (locked s t) t else locked s t
  else s

/-- What happens next: a tick of the watchdog, or an action of others. -/
inductive Moment where
  | tick (t : Tick)
  | others (action : Meddling)
  deriving DecidableEq, Repr

/-- One step of a run. -/
def step : Moment → Site
  | .tick t => watchdog s t
  | .others action => s.meddle action

/-- The site after the first `n` moments of a run. -/
def siteAt (s : Site) (moments : ℕ → Moment) : ℕ → Site
  | 0 => s
  | n + 1 => step (siteAt s moments n) (moments n)

@[simp] theorem meddle_pacing (action : Meddling) :
    (s.meddle action).pacing=s.pacing := by
  cases action <;> rfl

@[simp] theorem locked_pacing : (locked s t).pacing=s.pacing := by
  unfold locked
  induction t.meanwhile generalizing s with
  | nil => rfl
  | cons action rest ih => rw [foldl_cons,ih,meddle_pacing]

/-- A step leaves the pacing alone, counts an attempt whose start raised, or restarts xray. -/
theorem step_cases (moment : Moment) : (step s moment).pacing=s.pacing ∨
      ∃ t, moment = .tick t ∧ restartsXray s t=true ∧
        ((t.startRaises=true ∧ (step s moment).pacing=s.pacing.begin t.now) ∨ (t.startRaises=false ∧
            (step s moment).pacing=(s.pacing.begin t.now).settle t.now t.seenRunning)) := by
  cases moment with
  | others action => exact .inl (meddle_pacing s action)
  | tick t =>
    by_cases hdue : due s t=true
    · by_cases hrestart : restartsXray s t=true
      · right
        cases hraise : t.startRaises with
        | true => simp [step,watchdog,hdue,hrestart,restartXray,hraise]
        | false => simp [step,watchdog,hdue,hrestart,restartXray,hraise]
      · left
        simp [step,watchdog,hdue,hrestart]
    · left
      simp [step,watchdog,hdue]

end

variable {s : Site} {t : Tick} {moment : Moment} {p : Pacing}

theorem step_of_restartsXray (hrestart : restartsXray s t=true) :
    step s (.tick t)=restartXray (locked s t) t := by
  have hdue : due s t=true := by
    simp only [restartsXray,Bool.and_eq_true] at hrestart
    exact hrestart.1.1
  simp [step,watchdog,hdue,hrestart]

theorem step_tick_pacing (hrestart : restartsXray s t=true) (hraise : t.startRaises=false) :
    (step s (.tick t)).pacing=(s.pacing.begin t.now).settle t.now t.seenRunning := by
  simp [step_of_restartsXray hrestart,restartXray,hraise]

theorem nextRestartAt_le_of_restartsXray (h : restartsXray s t=true) :
    s.pacing.nextRestartAt≤t.now := by
  simp only [restartsXray,due,Bool.and_eq_true,Bool.not_eq_true',decide_eq_false_iff_not,
    not_lt] at h
  exact h.1.1.2

theorem pause_eq {n : ℕ} (h : n≤1024) :
    pause n=min watchdogMaxBackoff (watchdogBaseBackoff * 2 ^ (n-1)) := by
  rw [pause,watchdogBackoff,if_neg (by omega),Option.getD_some]

theorem pause_of_lt {n : ℕ} (h : 1024<n) : pause n=0 := by
  rw [pause,watchdogBackoff,if_pos (by omega),Option.getD_none]

/-- Up to the 1024th attempt a later pause is no shorter. -/
theorem pause_mono {m n : ℕ} (h : m≤n) (hn : n≤1024) : pause m≤pause n := by
  have hpow : (2 : ℚ) ^ (m-1)≤2 ^ (n-1) := pow_le_pow_right₀ (by norm_num) (by omega)
  rw [pause_eq (h.trans hn),pause_eq hn,watchdogBaseBackoff]
  exact min_le_min le_rfl (by linarith)

theorem pause_one : pause 1=watchdogBaseBackoff := by
  norm_num [pause_eq,watchdogMaxBackoff,watchdogBaseBackoff]

/-- From the sixth attempt on the pause is the ceiling. -/
theorem pause_of_six_le {n : ℕ} (h : 6≤n) (hn : n≤1024) : pause n=watchdogMaxBackoff := by
  have hpow : (2 : ℚ) ^ 5≤2 ^ (n-1) := pow_le_pow_right₀ (by norm_num) (by omega)
  rw [pause_eq hn,watchdogMaxBackoff,watchdogBaseBackoff]
  exact min_eq_left (by linarith)

theorem pause_pos_iff {n : ℕ} : 0<pause n ↔ n≤1024 := by
  constructor
  · intro hpos
    by_contra hn
    exact hpos.ne' (pause_of_lt (not_le.mp hn))
  · intro hn
    rw [pause_eq hn,watchdogBaseBackoff,watchdogMaxBackoff]
    exact lt_min (by norm_num) (by positivity)

section Settle

variable {now : ℚ} {ready : Bool}

theorem settle_restarts : (p.settle now ready).restarts =
    ⟨now,p.restartAttempts,pause p.restartAttempts⟩::p.restarts := by
  unfold Pacing.settle
  cases watchdogBackoff p.restartAttempts <;> rfl

theorem settle_restartAttempts : (p.settle now ready).restartAttempts=p.restartAttempts := by
  unfold Pacing.settle
  cases watchdogBackoff p.restartAttempts <;> rfl

theorem settle_lastReadyAt :
    (p.settle now ready).lastReadyAt=if ready then now else p.lastReadyAt := by
  unfold Pacing.settle
  cases watchdogBackoff p.restartAttempts <;> rfl

/-- A pause that was put is what the next restart waits for; otherwise nothing changes. -/
theorem settle_nextRestartAt : (p.settle now ready).nextRestartAt =
      if 1024<p.restartAttempts then p.nextRestartAt else now+pause p.restartAttempts := by
  rcases le_or_gt p.restartAttempts 1024 with hput | hraised
  · rw [if_neg (not_lt.mpr hput)]
    simp [Pacing.settle,pause,watchdogBackoff,show ¬1024≤p.restartAttempts-1 by omega]
  · rw [if_pos hraised]
    simp [Pacing.settle,watchdogBackoff,show 1024≤p.restartAttempts-1 by omega]

end Settle

/-- A new episode counts from one; anything else counts on. Nothing else changes. -/
theorem begin_cases (p : Pacing) (now : ℚ) :
    (p.begin now).lastReadyAt=p.lastReadyAt ∧ (p.begin now).nextRestartAt=p.nextRestartAt ∧
      (p.begin now).restarts=p.restarts ∧
      (p.begin now).restartAttempts=if p.stable now then 1 else p.restartAttempts+1 := by
  unfold Pacing.begin
  split_ifs <;> exact ⟨rfl,rfl,rfl,rfl⟩

theorem begin_restarts (p : Pacing) (now : ℚ) : (p.begin now).restarts=p.restarts :=
  (begin_cases p now).2.2.1

/-- The log of restarts only grows, by one restart at a time. -/
theorem step_restarts (s : Site) (moment : Moment) :
    (step s moment).pacing.restarts=s.pacing.restarts ∨
      ∃ t, moment = .tick t ∧ restartsXray s t=true ∧ t.startRaises=false ∧
        (step s moment).pacing.restarts = ⟨t.now,(s.pacing.begin t.now).restartAttempts,
            pause (s.pacing.begin t.now).restartAttempts⟩::s.pacing.restarts := by
  rcases step_cases s moment with hsame | ⟨t,hmoment,hrestart,⟨_,hpacing⟩ | ⟨hraise,hpacing⟩⟩
  · rw [hsame]
    exact .inl rfl
  · rw [hpacing]
    exact .inl (begin_restarts _ _)
  · rw [hpacing,settle_restarts,begin_restarts]
    exact .inr ⟨t,hmoment,hrestart,hraise,rfl⟩

/-- Each restart waited out the pause put after the one before it, the next one waits for that of
the newest, and every pause up to the 1024th attempt lies between the base and the ceiling. -/
structure Waits (p : Pacing) : Prop where
  next : ∀ r ∈ p.restarts.head?, r.attempt ≤ 1024 → p.nextRestartAt = r.now + r.delay
  waited : p.restarts.IsChain fun later earlier =>
    earlier.attempt ≤ 1024 → earlier.now + earlier.delay ≤ later.now
  bounded : ∀ r ∈ p.restarts, r.attempt ≤ 1024 →
    watchdogBaseBackoff ≤ r.delay ∧ r.delay ≤ watchdogMaxBackoff

theorem Waits.step (h : Waits s.pacing) : Waits (step s moment).pacing := by
  rcases step_cases s moment with hsame | ⟨t,-,hrestart,⟨-,hpacing⟩ | ⟨-,hpacing⟩⟩
  · rwa [hsame]
  · obtain ⟨-,hnext,hlog,-⟩ := begin_cases s.pacing t.now
    rw [hpacing]
    constructor <;> simp only [hnext,hlog]
    exacts [h.next,h.waited,h.bounded]
  · obtain ⟨-,-,hlog,hcount⟩ := begin_cases s.pacing t.now
    have hdue := nextRestartAt_le_of_restartsXray hrestart
    have hpos : 1≤(s.pacing.begin t.now).restartAttempts := by
      rw [hcount]
      split_ifs <;> omega
    rw [hpacing]
    constructor <;> simp only [settle_restarts,hlog]
    · intro r hr hattempt
      obtain rfl : _ = r := Option.some.inj hr
      rw [settle_nextRestartAt,if_neg (not_lt.mpr hattempt)]
    · exact isChain_cons.mpr ⟨fun r hr hattempt => h.next r hr hattempt ▸ hdue,h.waited⟩
    · refine forall_mem_cons.mpr ⟨fun hattempt => ⟨?_,?_⟩,h.bounded⟩
      · exact pause_one ▸ pause_mono hpos hattempt
      · exact pause_eq hattempt ▸ min_le_left _ _

theorem waits_siteAt {start : Site} {moments : ℕ → Moment} (hfresh : start.pacing = .fresh)
    (n : ℕ) : Waits (siteAt start moments n).pacing := by
  induction n with
  | zero => constructor <;> simp [siteAt,hfresh,Pacing.fresh]
  | succ n ih => exact ih.step

/-- Whatever others do to xray and whatever the clock reads, a new watchdog waits between its
restarts, as long as an episode lasts no more than 1024 attempts. -/
theorem restarts_wait (start : Site) (moments : ℕ → Moment) (n : ℕ) :
    Waits (siteAt { start with pacing := .fresh } moments n).pacing :=
  waits_siteAt rfl n


/-- Every tick of a run reads a positive clock. -/
def ClockPositive (moment : Moment) : Prop := ∀ t, moment = .tick t → 0 < t.now

/-- What every pacing meets over a positive clock: a pause is that of its attempt, and as long as
every restart put one, xray was last seen running no later than at the newest. -/
structure Paced (p : Pacing) : Prop where
  delays : ∀ r ∈ p.restarts, r.delay = pause r.attempt
  ready : (∀ r ∈ p.restarts, r.attempt ≤ 1024) → ∀ r ∈ p.restarts.head?, p.lastReadyAt ≤ r.now
  unseen : p.restarts = [] → p.lastReadyAt = 0

/-- The time of the last start seen running lies behind a restart that may be made. -/
theorem Paced.lastReadyAt_le {now : ℚ} (h : Paced p) (hwaits : Waits p) (hclock : 0<now)
    (hcount : ∀ r∈p.restarts, r.attempt≤1024) (hnext : p.nextRestartAt≤now) :
    p.lastReadyAt≤now := by
  cases hlog : p.restarts with
  | nil =>
    rw [h.unseen hlog]
    exact hclock.le
  | cons r rest =>
    have hmem : r∈p.restarts := hlog ▸ mem_cons_self
    have hready : p.lastReadyAt ≤ r.now := h.ready hcount r (by simp [hlog])
    have hpause : p.nextRestartAt=r.now+r.delay := hwaits.next r (by simp [hlog]) (hcount r hmem)
    have hpos : 0 < r.delay := h.delays r hmem ▸ pause_pos_iff.mpr (hcount r hmem)
    linarith

theorem Paced.step (h : Paced s.pacing) (hwaits : Waits s.pacing) (hclock : ClockPositive moment) :
    Paced (step s moment).pacing := by
  rcases step_cases s moment with hsame | ⟨t,hmoment,hrestart,⟨-,hpacing⟩ | ⟨-,hpacing⟩⟩
  · rwa [hsame]
  · obtain ⟨hready,-,hlog,-⟩ := begin_cases s.pacing t.now
    rw [hpacing]
    constructor <;> simp only [hready,hlog]
    exacts [h.delays,h.ready,h.unseen]
  · obtain ⟨hready,-,hlog,-⟩ := begin_cases s.pacing t.now
    rw [hpacing]
    constructor <;> simp only [settle_restarts,settle_lastReadyAt,hready,hlog]
    · exact forall_mem_cons.mpr ⟨rfl,h.delays⟩
    · intro hcount r hr
      obtain rfl : _ = r := Option.some.inj hr
      split_ifs
      · exact le_rfl
      · exact h.lastReadyAt_le hwaits (hclock t hmoment) (forall_mem_cons.mp hcount).2
          (nextRestartAt_le_of_restartsXray hrestart)
    · exact nofun

theorem step_lastReadyAt_ne_zero (hclock : ClockPositive moment) (h : s.pacing.lastReadyAt≠0) :
    (step s moment).pacing.lastReadyAt≠0 := by
  rcases step_cases s moment with hsame | ⟨t,hmoment,_,⟨_,hpacing⟩ | ⟨_,hpacing⟩⟩
  · rwa [hsame]
  · rwa [hpacing,(begin_cases s.pacing t.now).1]
  · rw [hpacing,settle_lastReadyAt,(begin_cases s.pacing t.now).1]
    split_ifs
    · exact (hclock t hmoment).ne'
    · exact h

/-- While xray has never been seen running the attempts of the log count up, and they have not
passed the last one that puts a pause. -/
structure Climbing (p : Pacing) : Prop where
  counted : p.lastReadyAt = 0 → p.restarts.length ≤ p.restartAttempts ∧
    ∀ r ∈ p.restarts, r.attempt ≤ p.restartAttempts
  ordered : p.restarts.Pairwise fun later earlier => earlier.attempt < later.attempt
  within : ∀ r ∈ p.restarts, r.attempt ≤ 1024
  top : ∀ r ∈ p.restarts.head?, p.restarts.length ≤ r.attempt

theorem begin_of_unseen (h : p.lastReadyAt=0) (now : ℚ) :
    (p.begin now).restartAttempts=p.restartAttempts+1 := by
  rw [(begin_cases p now).2.2.2,if_neg (by simp [Pacing.stable,h])]

/-- A restart before which xray has never been seen running keeps the climb going. -/
theorem Climbing.step (h : Climbing s.pacing)
    (hrestart : (step s moment).pacing.restarts≠s.pacing.restarts →
      s.pacing.lastReadyAt=0 ∧ s.pacing.restartAttempts<1024) :
    Climbing (step s moment).pacing := by
  rcases step_cases s moment with hsame | ⟨t,-,-,⟨-,hpacing⟩ | ⟨-,hpacing⟩⟩
  · rwa [hsame]
  · obtain ⟨hready,-,hlog,-⟩ := begin_cases s.pacing t.now
    rw [hpacing]
    constructor <;> simp only [hready,hlog]
    · intro hunseen
      obtain ⟨hlen,hcount⟩ := h.counted hunseen
      rw [begin_of_unseen hunseen]
      exact ⟨by omega,fun r hr => (hcount r hr).trans (Nat.le_succ _)⟩
    · exact h.ordered
    · exact h.within
    · exact h.top
  · obtain ⟨-,-,hlog,-⟩ := begin_cases s.pacing t.now
    obtain ⟨hunseen,hfew⟩ := hrestart (by
      rw [hpacing,settle_restarts,hlog]
      exact cons_ne_self _ _)
    obtain ⟨hlen,hcount⟩ := h.counted hunseen
    rw [hpacing]
    constructor <;> simp only [settle_restarts,settle_restartAttempts,settle_lastReadyAt,hlog,
      begin_of_unseen hunseen,length_cons]
    · exact fun _ => ⟨by omega,forall_mem_cons.mpr
        ⟨le_rfl,fun r hr => (hcount r hr).trans (Nat.le_succ _)⟩⟩
    · exact pairwise_cons.mpr ⟨fun r hr => Nat.lt_succ_of_le (hcount r hr),h.ordered⟩
    · exact forall_mem_cons.mpr ⟨hfew,h.within⟩
    · intro r hr
      obtain rfl : _ = r := Option.some.inj hr
      exact Nat.succ_le_succ hlen

section Runs

variable (start : Site) (moments : ℕ → Moment) (n : ℕ)

/-- The restarts that the first `n` moments have logged, newest first. -/
def log : List Restart := (siteAt start moments n).pacing.restarts

/-- A run of `n` moments in which every xray that the watchdog starts dies less than 300 seconds
later, the watchdog restarts it at least seven times, and again after its first pause at the
ceiling. -/
structure CrashLoop : Prop where
  clock : ∀ m, ClockPositive (moments m)
  dies : ∀ m t, moments m = .tick t → ∀ life ∈ t.life, life < 300
  long : 7 ≤ (log start moments n).length
  goesOn : (∃ r ∈ log start moments n, r.delay = watchdogMaxBackoff) →
    ∃ r ∈ (log start moments n).tail, r.delay = watchdogMaxBackoff

/-- Every restart puts a pause, the pauses never decrease, and they reach the ceiling. -/
def Escalates : Prop :=
  (∀ r ∈ log start moments n, 0 < r.delay) ∧
  (log start moments n).Pairwise (fun later earlier => earlier.delay ≤ later.delay) ∧
  ∃ r ∈ log start moments n, r.delay = watchdogMaxBackoff

/-- No xray that the watchdog starts before its newest restart is seen running right after the
start. -/
def NeverSeenRunning : Prop :=
  ∀ m t, moments m = .tick t → restartsXray (siteAt start moments m) t = true →
    t.startRaises = false → (log start moments (m + 1)).length < (log start moments n).length →
    t.seenRunning = false

/-- No start of an xray returns that more than 1023 attempts have gone before. -/
def FewAttempts : Prop :=
  ∀ m t, m < n → moments m = .tick t → restartsXray (siteAt start moments m) t = true →
    t.startRaises = false → (siteAt start moments m).pacing.restartAttempts < 1024

variable {start moments n} {m : ℕ}

theorem log_suffix (h : m≤n) : log start moments m <:+ log start moments n := by
  induction n, h using Nat.le_induction with
  | base => exact suffix_rfl
  | succ n hmn ih =>
    change _ <:+ (step (siteAt start moments n) (moments n)).pacing.restarts
    rcases step_restarts (siteAt start moments n) (moments n) with hsame | ⟨t,_,_,_,hnew⟩
    · rwa [hsame]
    · rw [hnew]
      exact ih.trans (suffix_cons _ _)

section

variable (hfresh : start.pacing = .fresh)

include hfresh

theorem paced_siteAt (hclock : ∀ m, ClockPositive (moments m)) (n : ℕ) :
    Paced (siteAt start moments n).pacing := by
  induction n with
  | zero => constructor <;> simp [siteAt,hfresh,Pacing.fresh]
  | succ n ih => exact ih.step (waits_siteAt hfresh n) (hclock n)

/-- The newest restart of a log was put there at some moment, on top of the rest. -/
theorem exists_newest {r : Restart} {rest : List Restart} (hlog : log start moments n=r::rest) :
    ∃ k<n, log start moments k=rest ∧ log start moments (k+1)=r::rest := by
  induction n with
  | zero =>
    change start.pacing.restarts=_ at hlog
    rw [hfresh] at hlog
    cases hlog
  | succ n ih =>
    rcases step_restarts (siteAt start moments n) (moments n) with hsame | ⟨t,_,_,_,hnew⟩
    · obtain ⟨k,hk,hrest⟩ := ih (hsame.symm.trans hlog)
      exact ⟨k,hk.trans n.lt_succ_self,hrest⟩
    · exact ⟨n,n.lt_succ_self,(cons.inj (hnew.symm.trans hlog)).2,hlog⟩

/-- Until the newest restart xray has not been seen running. -/
theorem unseen_siteAt (hseen : NeverSeenRunning start moments n)
    (hm : (log start moments m).length<(log start moments n).length) :
    (siteAt start moments m).pacing.lastReadyAt=0 := by
  induction m with
  | zero =>
    change start.pacing.lastReadyAt=0
    rw [hfresh]
    rfl
  | succ m ih =>
    have hpre := ih ((log_suffix m.le_succ).length_le.trans_lt hm)
    change (step (siteAt start moments m) (moments m)).pacing.lastReadyAt=0
    rcases step_cases (siteAt start moments m) (moments m) with
      hsame | ⟨t,hmoment,hrestart,⟨_,hpacing⟩ | ⟨hraise,hpacing⟩⟩
    · rwa [hsame]
    · rwa [hpacing,(begin_cases _ _).1]
    · rw [hpacing,settle_lastReadyAt,hseen m t hmoment hrestart hraise hm,(begin_cases _ _).1]
      exact hpre

theorem climbing_siteAt (hseen : NeverSeenRunning start moments n)
    (hfew : FewAttempts start moments n) (hm : m≤n) :
    Climbing (siteAt start moments m).pacing := by
  induction m with
  | zero => constructor <;> simp [siteAt,hfresh,Pacing.fresh]
  | succ m ih =>
    refine (ih (Nat.le_of_succ_le hm)).step fun hgrown => ?_
    rcases step_restarts (siteAt start moments m) (moments m) with
      hsame | ⟨t,hmoment,hrestart,hraise,hnew⟩
    · exact absurd hsame hgrown
    · refine ⟨unseen_siteAt hfresh hseen ?_,hfew m t hm hmoment hrestart hraise⟩
      have hlonger : log start moments (m+1)=_ :: log start moments m := hnew
      have hsuf : log start moments (m+1) <:+ log start moments n := log_suffix hm
      have hle := hsuf.length_le
      rw [hlonger,length_cons] at hle
      exact hle

/-- After a start seen running, the restart that follows a pause at the ceiling puts the base. -/
theorem newest_delay (hclock : ∀ m, ClockPositive (moments m)) {newest previous : Restart}
    {earlier : List Restart} (hlog : log start moments m=previous::earlier)
    (hnew : log start moments (m+1)=newest::previous::earlier)
    (hcount : ∀ r∈previous::earlier, r.attempt≤1024)
    (hseen : (siteAt start moments m).pacing.lastReadyAt≠0)
    (hpause : watchdogMaxBackoff≤previous.delay) : newest.delay=watchdogBaseBackoff := by
  have hhead : previous∈(siteAt start moments m).pacing.restarts.head? := by
    change previous∈(log start moments m).head?
    simp [hlog]
  have hall : ∀ r∈log start moments m, r.attempt≤1024 := hlog ▸ hcount
  have hready := (paced_siteAt hfresh hclock m).ready hall previous hhead
  have hnext := (waits_siteAt hfresh m).next previous hhead (hcount previous mem_cons_self)
  rcases step_restarts (siteAt start moments m) (moments m) with hsame | ⟨t,_,hrestart,_,hadded⟩
  · have hlen := congrArg length (hlog.symm.trans (hsame.symm.trans hnew))
    simp at hlen
  · have hdue := nextRestartAt_le_of_restartsXray hrestart
    have hstable : (siteAt start moments m).pacing.stable t.now=true := by
      unfold watchdogMaxBackoff at hpause
      have hlong : watchdogStableSec≤t.now-(siteAt start moments m).pacing.lastReadyAt := by
        unfold watchdogStableSec
        linarith
      simp [Pacing.stable,hseen,hlong]
    rw [(begin_cases _ _).2.2.2,if_pos hstable,pause_one] at hadded
    rw [← (cons.inj (hadded.symm.trans hnew)).1]

variable (hloop : CrashLoop start moments n)

include hloop

/-- Had one been seen running, the restart after the ceiling would begin at the base again. -/
theorem neverSeenRunning_of_escalates (h : Escalates start moments n) :
    NeverSeenRunning start moments n := by
  intro m t hmoment hrestart hraise hm
  by_contra hseen
  obtain ⟨hput,hordered,hceiling⟩ := h
  obtain ⟨r,hr,htop⟩ := hloop.goesOn hceiling
  obtain ⟨newest,rest,hlog⟩ : ∃ newest rest, log start moments n=newest::rest :=
    exists_cons_of_length_pos ((Nat.succ_pos 6).trans_le hloop.long)
  obtain ⟨k,-,hrest,hnew⟩ := exists_newest hfresh hlog
  -- xray was seen running before the newest restart, and that is remembered
  have hmk : m+1≤k := by
    by_contra hlt
    have hsuf : log start moments (k+1) <:+ log start moments (m+1) :=
      log_suffix (not_le.mp hlt)
    have hle := hsuf.length_le
    rw [hnew,← hlog] at hle
    omega
  have hready : (siteAt start moments k).pacing.lastReadyAt≠0 := by
    clear hrest hnew
    induction k, hmk using Nat.le_induction with
    | base =>
      change (step (siteAt start moments m) (moments m)).pacing.lastReadyAt≠0
      rw [hmoment,step_tick_pacing hrestart hraise,settle_lastReadyAt,
        if_pos (by simpa using hseen)]
      exact (hloop.clock m t hmoment).ne'
    | succ k _ ih => exact step_lastReadyAt_ne_zero (hloop.clock k) ih
  rw [hlog] at hr hordered hput
  obtain ⟨hnewest,hordered⟩ := pairwise_cons.mp hordered
  obtain ⟨previous,earlier,rfl⟩ : ∃ previous earlier, rest=previous::earlier :=
    exists_cons_of_ne_nil (ne_nil_of_mem hr)
  have hpause : watchdogMaxBackoff≤previous.delay := by
    rcases mem_cons.mp hr with rfl | hearlier
    · exact htop.ge
    · exact htop ▸ (pairwise_cons.mp hordered).1 r hearlier
  have hdelays : ∀ r∈log start moments k, r.delay=pause r.attempt :=
    (paced_siteAt hfresh hloop.clock k).delays
  have hcount : ∀ r∈previous::earlier, r.attempt≤1024 := fun r hr =>
    pause_pos_iff.mp (hdelays r (hrest ▸ hr) ▸ hput r (mem_cons_of_mem _ hr))
  have hbase := newest_delay hfresh hloop.clock hrest hnew hcount hready hpause
  have hle := hpause.trans (hnewest previous mem_cons_self)
  rw [hbase,watchdogBaseBackoff,watchdogMaxBackoff] at hle
  norm_num at hle

end

/-- The pauses of a crash loop climb to the ceiling exactly when no xray the watchdog started before
its newest restart is seen running right after its start, and none is started after more than 1023
attempts. -/
theorem escalates_iff_neverSeenRunning (hfresh : start.pacing = .fresh)
    (hloop : CrashLoop start moments n) : Escalates start moments n ↔
      NeverSeenRunning start moments n ∧ FewAttempts start moments n := by
  have hdelays : ∀ r∈log start moments n, r.delay=pause r.attempt :=
    (paced_siteAt hfresh hloop.clock n).delays
  constructor
  · intro h
    have hseen := neverSeenRunning_of_escalates hfresh hloop h
    refine ⟨hseen,fun m t hm hmoment hrestart hraise => ?_⟩
    let p := (siteAt start moments m).pacing.begin t.now
    have hlogged : log start moments (m+1) =
        ⟨t.now,p.restartAttempts,pause p.restartAttempts⟩::log start moments m := by
      change (step (siteAt start moments m) (moments m)).pacing.restarts=_
      rw [hmoment,step_tick_pacing hrestart hraise,settle_restarts,begin_restarts]
      rfl
    have hsuf : log start moments (m+1) <:+ log start moments n := log_suffix hm
    have hlonger := hsuf.length_le
    rw [hlogged,length_cons] at hlonger
    have hpos := h.1 _ (hsuf.mem (hlogged ▸ mem_cons_self))
    have hfew := pause_pos_iff.mp hpos
    rw [begin_of_unseen (unseen_siteAt hfresh hseen hlonger)] at hfew
    exact hfew
  · rintro ⟨hseen,hfew⟩
    have hclimb := climbing_siteAt hfresh hseen hfew le_rfl
    have hwithin : ∀ r∈log start moments n, r.attempt≤1024 := hclimb.within
    refine ⟨fun r hr => ?_,?_,?_⟩
    · exact hdelays r hr ▸ pause_pos_iff.mpr (hwithin r hr)
    · refine hclimb.ordered.imp_of_mem fun {later earlier} hlater hearlier hlt => ?_
      rw [hdelays later hlater,hdelays earlier hearlier]
      exact pause_mono hlt.le (hwithin later hlater)
    · obtain ⟨newest,rest,hlog⟩ : ∃ newest rest, log start moments n=newest::rest :=
        exists_cons_of_length_pos ((Nat.succ_pos 6).trans_le hloop.long)
      have hmem : newest∈log start moments n := hlog ▸ mem_cons_self
      have htop : (log start moments n).length≤newest.attempt :=
        hclimb.top newest (show newest∈(log start moments n).head? by simp [hlog])
      have hlong := hloop.long
      refine ⟨newest,hmem,?_⟩
      rw [hdelays newest hmem]
      exact pause_of_six_le (by omega) (hwithin newest hmem)

end Runs

/-- A tick every twenty seconds at which a started xray lives for the given time. -/
def steadyTick (life : Option ℚ) (n : ℕ) : Moment :=
  .tick ⟨false, 20 * (n + 1), [], false, 20 * (n + 1), life, false, 20 * (n + 1), false, false⟩

/-- A new watchdog over an xray that is down. -/
def downSite : Site := ⟨.fresh, true, none, []⟩

theorem crashLoop_steadyTick {life : Option ℚ} {n : ℕ} (hlife : ∀ time∈life, time<300)
    (hlong : 7≤(log downSite (steadyTick life) n).length)
    (hon : (∃ r∈log downSite (steadyTick life) n, r.delay=watchdogMaxBackoff) →
      ∃ r∈(log downSite (steadyTick life) n).tail, r.delay=watchdogMaxBackoff) :
    CrashLoop downSite (steadyTick life) n where
  clock m t ht := by
    obtain rfl := Moment.tick.inj ht
    positivity
  dies m t ht := by
    obtain rfl := Moment.tick.inj ht
    exact hlife
  long := hlong
  goesOn := hon

/-- An xray that refuses to start drives the pauses to the ceiling. -/
theorem escalates_of_refused_starts :
    (log downSite (steadyTick none) 62).length = 7 ∧ Escalates downSite (steadyTick none) 62 := by
  have hlong : (log downSite (steadyTick none) 62).length=7 := by decide +kernel
  have hloop : CrashLoop downSite (steadyTick none) 62 :=
    crashLoop_steadyTick (by simp) hlong.ge (by decide +kernel)
  refine ⟨hlong,(escalates_iff_neverSeenRunning rfl hloop).mpr ⟨?_,?_⟩⟩
  · intro m t ht _ _ _
    obtain rfl := Moment.tick.inj ht
    rfl
  · have hfew : ∀ m<62, (siteAt downSite (steadyTick none) m).pacing.restartAttempts<1024 := by
      decide +kernel
    exact fun m t hm _ _ _ => hfew m hm

/-- An xray that comes up and dies ten seconds later, every time: the sixth restart opens a new
episode, because the pause before it was itself longer than a stable run. -/
theorem pauses_reset_by_their_own_length : CrashLoop downSite (steadyTick (some 10)) 33 ∧
      ((log downSite (steadyTick (some 10)) 33).map Restart.delay =
        [40, 20, 320, 160, 80, 40, 20]) ∧
      ¬ Escalates downSite (steadyTick (some 10)) 33 := by
  have hlife : ∀ time∈some (10 : ℚ), time<300 := by
    intro time htime
    obtain rfl := Option.some.inj htime
    norm_num
  refine ⟨crashLoop_steadyTick hlife (by decide +kernel) (by decide +kernel),by decide +kernel,?_⟩
  have hordered : ¬(log downSite (steadyTick (some 10)) 33).Pairwise
      fun later earlier => earlier.delay≤later.delay := by decide +kernel
  exact fun h => hordered h.2.1

end PiGwPanel.WatchdogPacing
