import Mathlib.Algebra.Order.Field.Rat
import PiGwPanel.AnsweredProgram
import PiGwPanel.KeyedRows

/-!
# The subscription scheduler

`subs/scheduler.py` refreshes the subscriptions whose time has come on a pool of
workers. A tick waits for its refreshes up to a deadline and leaves the rest to a
later tick, so a refresh may land at any moment: while the finished ones are
collected, while the due ones are looked up, or long after the tick that
submitted it. Every point of a tick at which a worker can get ahead is a question
to the environment, whose answer says which refreshes landed meanwhile. Between
start and stop nothing cancels a refresh; the branches that take a cancelled one
out of the books are part of the model all the same.
-/

namespace PiGwPanel.SubScheduler

open AnsweredProgram KeyedRows List Prog

/-- A subscription, as far as the scheduler reads it. -/
structure Sub where
  id : ℕ
  intervalSec : ℤ
  enabled : Bool
  deriving DecidableEq, Repr

/-- The answer of a refresh, as far as it is read. -/
structure RefreshResult where
  ok : Option Bool
  hasError : Bool
  deriving DecidableEq, Repr

/-- `_result_ok`. -/
def resultOk : Option RefreshResult → Bool
  | none => true
  | some result => result.ok.getD !result.hasError

/-- How a worker comes back from a refresh. -/
inductive Landing where
  | returned (result : Option RefreshResult)
  /-- It raised; a `TimeoutError` reads like a refresh that has not landed. -/
  | raised (timeout : Bool)
  deriving DecidableEq, Repr

/-- What a future that is done holds. -/
inductive Outcome where
  | landed (landing : Landing)
  | cancelled
  deriving DecidableEq, Repr

/-- A line of the history, newest first. -/
inductive Entry where
  /-- A refresh is handed to the pool; `busy` says whether another one of the subscription had not
  landed yet. -/
  | submitted (job sub : ℕ) (now : ℚ) (busy : Bool)
  /-- A refresh is scored; a failure has a time to retry at. -/
  | scored (job sub : ℕ) (retry : Option ℚ)
  deriving DecidableEq, Repr

/-- The subscriptions on record. Their ids are never reused. -/
structure Subscriptions where
  rows : List Sub
  /-- The highest id ever given. -/
  lastId : ℕ
  ids : (rows.map Sub.id).Nodup
  used : ∀ sub ∈ rows, sub.id ≤ lastId

/-- A subscription is added. -/
def Subscriptions.add (store : Subscriptions) (intervalSec : ℤ) (enabled : Bool) :
    Subscriptions where
  rows := store.rows ++ [⟨store.lastId + 1, intervalSec, enabled⟩]
  lastId := store.lastId + 1
  ids := by
    rw [List.map_append, List.map_singleton]
    refine store.ids.append (List.nodup_singleton _) (List.disjoint_singleton.mpr fun hmem => ?_)
    obtain ⟨sub, hsub, hid⟩ := List.mem_map.mp hmem
    have hnew : sub.id = store.lastId + 1 := hid
    have hused := store.used sub hsub
    omega
  used := by
    intro sub hsub
    rcases List.mem_append.mp hsub with hold | hnew
    · exact (store.used sub hold).trans (Nat.le_succ _)
    · rw [List.mem_singleton.mp hnew]

/-- The subscription of an id is edited, if there is one. -/
def Subscriptions.edit (store : Subscriptions) (sub : Sub) : Subscriptions where
  rows := replaceRow Sub.id store.rows sub
  lastId := store.lastId
  ids := by
    rw [map_key_replaceRow]
    exact store.ids
  used := by
    intro other hother
    have hid : other.id ∈ (replaceRow Sub.id store.rows sub).map Sub.id := List.mem_map_of_mem hother
    rw [map_key_replaceRow] at hid
    obtain ⟨old, hold, hsame⟩ := List.mem_map.mp hid
    exact hsame ▸ store.used old hold

/-- A subscription is deleted. -/
def Subscriptions.delete (store : Subscriptions) (id : ℕ) : Subscriptions where
  rows := store.rows.filter fun sub => sub.id ≠ id
  lastId := store.lastId
  ids := store.ids.sublist (List.filter_sublist.map Sub.id)
  used := fun sub hsub => store.used sub (List.mem_of_mem_filter hsub)

/-- The scheduler, the subscriptions on record, and the futures of its pool. -/
structure Scheduler where
  store : Subscriptions
  (lastRun retryAt : ℕ → Option ℚ)
  failures : ℕ → Option ℕ
  /-- `_inflight`: the future of each subscription with a live refresh. -/
  inflight : List (ℕ × ℕ)
  /-- The number of futures made so far; they are numbered from zero. -/
  next : ℕ
  /-- The subscription of a future. -/
  subOf : ℕ → ℕ
  /-- What a future holds once it is done. -/
  done : ℕ → Option Outcome
  log : List Entry

/-- An answer of the environment. -/
structure Answer where
  /-- The refreshes that landed meanwhile. -/
  landings : List (ℕ × Landing)
  /-- The call came back without an exception. -/
  said : Bool
  /-- `_age_since` of a subscription. -/
  age : Option ℚ
  /-- `random.uniform`. -/
  jitter : ℚ
  deriving DecidableEq, Repr

/-- A program of the scheduler. -/
abbrev Work (α : Type) := Prog Answer Scheduler Unit α

section Books

/-- A dictionary with another value under a key. -/
def put {V : Type} (map : ℕ → Option V) (key : ℕ) (value : Option V) : ℕ → Option V := fun other =>
  if other = key then value else map other

/-- A refresh lands, unless its future is done already. -/
def Scheduler.land (s : Scheduler) (landing : ℕ × Landing) : Scheduler :=
  if landing.1 < s.next ∧ s.done landing.1 = none then
    { s with done := put s.done landing.1 (some (.landed landing.2)) }
  else s

/-- The delay after so many failures in a row. -/
def backoff (failures : ℕ) (jitter : ℚ) : ℚ := min 900 (30 * 2 ^ min (failures - 1) 5 * jitter)

/-- `_score`. -/
def Scheduler.score (s : Scheduler) (job sub : ℕ) (ok : Bool) (now jitter : ℚ) : Scheduler :=
  if ok then
    { s with
      lastRun := put s.lastRun sub (some now)
      retryAt := put s.retryAt sub none
      failures := put s.failures sub none
      log := .scored job sub none :: s.log }
  else
    let failures := (s.failures sub).getD 0 + 1
    let retry := now + backoff failures jitter
    { s with
      failures := put s.failures sub (some failures)
      retryAt := put s.retryAt sub (some retry)
      log := .scored job sub (some retry) :: s.log }

/-- The future of a subscription is taken out of the books. -/
def Scheduler.drop (s : Scheduler) (sub : ℕ) : Scheduler :=
  { s with inflight := s.inflight.filter fun entry => entry.1 ≠ sub }

/-- A future that is done is scored, unless it was cancelled. -/
def Scheduler.settle (s : Scheduler) (entry : ℕ × ℕ) (outcome : Outcome) (now jitter : ℚ) :
    Scheduler :=
  match outcome with
  | .cancelled => s.drop entry.1
  | .landed (.returned result) => (s.drop entry.1).score entry.2 entry.1 (resultOk result) now jitter
  | .landed (.raised _) => (s.drop entry.1).score entry.2 entry.1 false now jitter

/-- `_forget_deleted`. -/
def Scheduler.forgetDeleted (s : Scheduler) : Scheduler :=
  let keep {V : Type} (map : ℕ → Option V) : ℕ → Option V := fun id =>
    if id ∈ s.store.rows.map Sub.id then map id else none
  { s with lastRun := keep s.lastRun, retryAt := keep s.retryAt, failures := keep s.failures }

/-- The body of the loop of `due_subs`: whether the subscription is due, and the books after. -/
def Scheduler.consider (s : Scheduler) (now : ℚ) (age : Option ℚ) (sub : Sub) : Bool × Scheduler :=
  if sub.intervalSec ≤ 0 ∨ sub.enabled = false then (false, s)
  else if sub.id ∈ s.inflight.map Prod.fst then (false, s)
  else
    match s.retryAt sub.id, s.lastRun sub.id, age with
    | some retry, _, _ => (decide (retry ≤ now), s)
    | none, some last, _ => (decide (sub.intervalSec ≤ now - last), s)
    | none, none, none => (true, s)
    | none, none, some age =>
      if age < sub.intervalSec then
        (false, { s with lastRun := put s.lastRun sub.id (some (now - age)) })
      else (true, s)

/-- Another refresh of the subscription has not landed. -/
def Scheduler.busy (s : Scheduler) (sub : ℕ) : Bool :=
  (List.range s.next).any fun job => s.subOf job = sub && (s.done job).isNone

/-- `submit`, and the entry in `_inflight`. -/
def Scheduler.submit (s : Scheduler) (now : ℚ) (sub : ℕ) : Scheduler :=
  { s with
    inflight := putRow Prod.fst s.inflight (sub, s.next)
    next := s.next + 1
    subOf := fun job => if job = s.next then sub else s.subOf job
    log := .submitted s.next sub now (s.busy sub) :: s.log }

end Books

section Ticks

variable (now : ℚ)

/-- A moment in which workers may get ahead. -/
def pause : Work Answer := do
  let reply ← Prog.ask
  Prog.update fun s => reply.landings.foldl Scheduler.land s
  pure reply

/-- `_reap_inflight`, over the entries it found. -/
def reapInflight : List (ℕ × ℕ) → Work Unit
  | [] => pure ()
  | entry :: rest => do
    let reply ← pause
    Prog.update fun s =>
      match s.done entry.2 with
      | none => s
      | some outcome => s.settle entry outcome now reply.jitter
    reapInflight rest

/-- The loop of `due_subs`. -/
def dueAmong : List Sub → Work (List Sub)
  | [] => pure []
  | sub :: rest => do
    let reply ← pause
    let s ← Prog.read
    Prog.update fun s => (s.consider now reply.age sub).2
    let others ← dueAmong rest
    pure (if (s.consider now reply.age sub).1 then sub :: others else others)

/-- `due_subs`. -/
def dueSubs : Work (List Sub) := do
  let reply ← pause
  if reply.said then
    Prog.update Scheduler.forgetDeleted
    let s ← Prog.read
    dueAmong now s.store.rows
  else Prog.raise ()

/-- The loop that hands the due subscriptions to the pool. -/
def submitAll : List Sub → Work (List (ℕ × ℕ))
  | [] => pure []
  | sub :: rest => do
    let _ ← pause
    let s ← Prog.read
    Prog.update fun s => s.submit now sub.id
    let others ← submitAll rest
    pure ((sub.id, s.next) :: others)

/-- The loop that waits for the futures, each up to what is left of the deadline. -/
def collect : List (ℕ × ℕ) → Work Unit
  | [] => pure ()
  | entry :: rest => do
    let reply ← pause
    Prog.update fun s =>
      match s.done entry.2 with
      | none => s
      | some (.landed (.raised true)) => s
      | some outcome => s.settle entry outcome now reply.jitter
    collect rest

/-- The part of `run_once` with something due. -/
def refreshDue (due : List Sub) : Work Unit := do
  let futures ← submitAll now due
  collect now futures

/-- `run_once`. -/
def runOnce : Work Unit := do
  let s ← Prog.read
  reapInflight now s.inflight
  let due ← dueSubs now
  refreshDue now due

end Ticks

section Runs

/-- A panel and whether its process is up. -/
structure Panel where
  scheduler : Scheduler
  up : Bool

/-- What happens between a start and a stop. -/
inductive Event where
  | tick (now : ℚ) (answers : List Answer)
  | land (landings : List (ℕ × Landing))
  | add (intervalSec : ℤ) (enabled : Bool)
  | edit (sub : Sub)
  | delete (id : ℕ)

/-- The panel after a change of the subscriptions. -/
def Panel.stored (panel : Panel) (change : Subscriptions → Subscriptions) : Panel :=
  { panel with scheduler := { panel.scheduler with store := change panel.scheduler.store } }

/-- The panel after an event; a panel whose process died has no more ticks. -/
def step (panel : Panel) : Event → Panel
  | .tick now answers =>
    if panel.up then
      let exit := runOnce now answers panel.scheduler
      ⟨exit.state, exit.outcome ≠ .killed⟩
    else panel
  | .land landings =>
    { panel with scheduler := landings.foldl Scheduler.land panel.scheduler }
  | .add intervalSec enabled => panel.stored fun store => store.add intervalSec enabled
  | .edit sub => panel.stored fun store => store.edit sub
  | .delete id => panel.stored fun store => store.delete id

/-- The scheduler at its start, with the subscriptions on record. -/
def started (store : Subscriptions) : Panel where
  scheduler :=
    { store := store
      lastRun := fun _ => none
      retryAt := fun _ => none
      failures := fun _ => none
      inflight := []
      next := 0
      subOf := fun _ => 0
      done := fun _ => none
      log := [] }
  up := true

end Runs

section History

/-- The refreshes scored so far. -/
def scoredJobs (log : List Entry) : List ℕ :=
  log.filterMap fun
    | .scored job _ _ => some job
    | .submitted _ _ _ _ => none

@[simp] theorem scoredJobs_scored (job sub : ℕ) (retry : Option ℚ) (log : List Entry) :
    scoredJobs (.scored job sub retry::log)=job::scoredJobs log := rfl

@[simp] theorem scoredJobs_submitted (job sub : ℕ) (now : ℚ) (busy : Bool) (log : List Entry) :
    scoredJobs (.submitted job sub now busy::log)=scoredJobs log := rfl

/-- The retry time of the last refresh scored for a subscription, if that one failed. -/
def latestRetry : List Entry → ℕ → Option ℚ
  | [], _ => none
  | .scored _ sub retry :: rest, id => if sub = id then retry else latestRetry rest id
  | .submitted _ _ _ _ :: rest, id => latestRetry rest id

/-- Every refresh is submitted with none of its subscription under way, and after a failure not
before the retry time. -/
def Paced : List Entry → Prop
  | [] => True
  | .submitted _ sub now busy :: rest =>
    busy = false ∧ (∀ retry ∈ latestRetry rest sub, retry ≤ now) ∧ Paced rest
  | .scored _ _ _ :: rest => Paced rest

/-- What the books of the scheduler say about the futures and the history. -/
structure Sound (s : Scheduler) : Prop where
  inflight_nodup : (s.inflight.map Prod.fst).Nodup
  /-- A live entry is about a future of its subscription that was not scored. -/
  tracked : ∀ entry ∈ s.inflight, entry.2 < s.next ∧ s.subOf entry.2 = entry.1 ∧
    entry.2 ∉ scoredJobs s.log
  /-- Every future was scored or is live. -/
  accounted : ∀ job < s.next, job ∈ scoredJobs s.log ∨ (s.subOf job, job) ∈ s.inflight
  scored : ∀ job ∈ scoredJobs s.log, job < s.next ∧ s.done job ≠ none
  scored_nodup : (scoredJobs s.log).Nodup
  uncancelled : ∀ job, s.done job ≠ some .cancelled
  unmade : ∀ job, s.next ≤ job → s.done job = none
  /-- A failure that counts is on the books for every subscription there is. -/
  retry : ∀ id ∈ s.store.rows.map Sub.id, ∀ retry ∈ latestRetry s.log id, s.retryAt id = some retry
  fresh : ∀ id, s.store.lastId < id → latestRetry s.log id = none
  live_used : ∀ entry ∈ s.inflight, entry.1 ≤ s.store.lastId
  paced : Paced s.log

/-- What is never undone. -/
structure Later (s t : Scheduler) : Prop where
  scored : ∀ job ∈ scoredJobs s.log, job ∈ scoredJobs t.log
  done : ∀ job, s.done job ≠ none → t.done job ≠ none

theorem Later.refl (s : Scheduler) : Later s s := ⟨fun _ h => h,fun _ h => h⟩

theorem Later.trans {s t u : Scheduler} (h : Later s t) (h' : Later t u) : Later s u :=
  ⟨fun job hjob => h'.scored job (h.scored job hjob),fun job hjob => h'.done job (h.done job hjob)⟩

/-- The books of a scheduler apart from what its workers do. -/
structure SameBooks (s t : Scheduler) : Prop where
  store : t.store = s.store
  inflight : t.inflight = s.inflight
  retryAt : t.retryAt = s.retryAt
  log : t.log = s.log

theorem SameBooks.refl (s : Scheduler) : SameBooks s s := ⟨rfl,rfl,rfl,rfl⟩

theorem SameBooks.trans {s t u : Scheduler} (h : SameBooks s t) (h' : SameBooks t u) :
    SameBooks s u :=
  ⟨h'.store.trans h.store,h'.inflight.trans h.inflight,h'.retryAt.trans h.retryAt,
    h'.log.trans h.log⟩

end History

variable {id : ℕ} {entry : ℕ × ℕ} {t u : Scheduler}

section Steps

variable {s : Scheduler}

theorem put_self {V : Type} (map : ℕ → Option V) (key : ℕ) (value : Option V) :
    put map key value key=value := if_pos rfl

theorem put_of_ne {V : Type} (map : ℕ → Option V) {key other : ℕ} (value : Option V)
    (h : other≠key) : put map key value other=map other := if_neg h

/-- What a landing changes: the future it is about is done. -/
structure Landed (s t : Scheduler) : Prop where
  books : SameBooks s t
  next : t.next = s.next
  subOf : t.subOf = s.subOf
  done : ∀ job, s.done job ≠ none → t.done job = s.done job
  uncancelled : ∀ job, t.done job = some .cancelled → s.done job = some .cancelled
  unmade : ∀ job, s.next ≤ job → t.done job = s.done job

theorem Landed.refl (s : Scheduler) : Landed s s :=
  ⟨.refl s,rfl,rfl,fun _ _ => rfl,fun _ h => h,fun _ _ => rfl⟩

theorem Landed.trans (h : Landed s t) (h' : Landed t u) : Landed s u where
  books := h.books.trans h'.books
  next := h'.next.trans h.next
  subOf := h'.subOf.trans h.subOf
  done job hjob := by
    have hkept := h.done job hjob
    rw [← hkept] at hjob
    exact (h'.done job hjob).trans hkept
  uncancelled job hjob := h.uncancelled job (h'.uncancelled job hjob)
  unmade job hjob := (h'.unmade job (h.next.trans_le hjob)).trans (h.unmade job hjob)

theorem landed_land (s : Scheduler) (landing : ℕ × Landing) : Landed s (s.land landing) := by
  unfold Scheduler.land
  split
  next hnew =>
    refine ⟨⟨rfl,rfl,rfl,rfl⟩,rfl,rfl,fun job hjob => ?_,fun job hjob => ?_, fun job hjob => ?_⟩
    · have hne : job≠landing.1 := fun heq => hjob (heq ▸ hnew.2)
      exact put_of_ne _ _ hne
    · by_cases heq : job=landing.1
      · rw [heq] at hjob
        have hlanded : some (Outcome.landed landing.2)=some .cancelled :=
          (put_self _ _ _).symm.trans hjob
        cases hlanded
      · exact (put_of_ne _ _ heq).symm.trans hjob
    · have hne : job≠landing.1 := by omega
      exact put_of_ne _ _ hne
  · exact .refl s

theorem landed_foldl (landings : List (ℕ × Landing)) :
    Landed s (landings.foldl Scheduler.land s) := by
  induction landings generalizing s with
  | nil => exact .refl s
  | cons landing rest ih => exact (landed_land s landing).trans ih

theorem Landed.later (h : Landed s t) : Later s t where
  scored job hjob := by
    rw [h.books.log]
    exact hjob
  done job hjob := by
    rw [h.done job hjob]
    exact hjob

/-- Workers that finish disturb no book of the scheduler. -/
theorem Landed.sound (h : Landed s t) (hs : Sound s) : Sound t where
  inflight_nodup := by
    rw [h.books.inflight]
    exact hs.inflight_nodup
  tracked := by
    rw [h.books.inflight,h.next,h.subOf,h.books.log]
    exact hs.tracked
  accounted := by
    rw [h.books.inflight,h.next,h.subOf,h.books.log]
    exact hs.accounted
  scored job hjob := by
    rw [h.books.log] at hjob
    obtain ⟨hmade,hdone⟩ := hs.scored job hjob
    exact ⟨hmade.trans_eq h.next.symm,h.later.done job hdone⟩
  scored_nodup := by
    rw [h.books.log]
    exact hs.scored_nodup
  uncancelled job hjob := hs.uncancelled job (h.uncancelled job hjob)
  unmade job hjob := by
    rw [h.next] at hjob
    rw [h.unmade job hjob]
    exact hs.unmade job hjob
  retry := by
    rw [h.books.store,h.books.log,h.books.retryAt]
    exact hs.retry
  fresh := by
    rw [h.books.store,h.books.log]
    exact hs.fresh
  live_used := by
    rw [h.books.store,h.books.inflight]
    exact hs.live_used
  paced := by
    rw [h.books.log]
    exact hs.paced

/-- What the scoring of a live entry changes. -/
structure Settled (s : Scheduler) (entry : ℕ × ℕ) (retry : Option ℚ) (t : Scheduler) : Prop where
  store : t.store = s.store
  inflight : t.inflight = s.inflight.filter fun other => other.1 ≠ entry.1
  next : t.next = s.next
  subOf : t.subOf = s.subOf
  done : t.done = s.done
  retryAt : t.retryAt = put s.retryAt entry.1 retry
  log : t.log = .scored entry.2 entry.1 retry :: s.log

theorem settled_score (s : Scheduler) (entry : ℕ × ℕ) (ok : Bool) (now jitter : ℚ) :
    ∃ retry, Settled s entry retry ((s.drop entry.1).score entry.2 entry.1 ok now jitter) := by
  cases ok with
  | true => exact ⟨none,rfl,rfl,rfl,rfl,rfl,rfl,rfl⟩
  | false => exact ⟨some _,rfl,rfl,rfl,rfl,rfl,rfl,rfl⟩

/-- A finished refresh is scored once and leaves `_inflight`. -/
theorem settled_settle (hs : Sound s) {outcome : Outcome}
    (hdone : s.done entry.2=some outcome) (now jitter : ℚ) :
    ∃ retry, Settled s entry retry (s.settle entry outcome now jitter) := by
  cases outcome with
  | cancelled => exact absurd hdone (hs.uncancelled entry.2)
  | landed landing =>
    cases landing with
    | returned result => exact settled_score s entry (resultOk result) now jitter
    | raised timeout => exact settled_score s entry false now jitter

section Scoring

variable {entry : ℕ × ℕ} {retry : Option ℚ} {t : Scheduler}

theorem latestRetry_scored_self (job sub : ℕ) (retry : Option ℚ) (log : List Entry) :
    latestRetry (.scored job sub retry::log) sub=retry := if_pos rfl

theorem latestRetry_scored_of_ne (job : ℕ) {sub id : ℕ} (retry : Option ℚ) (log : List Entry)
    (h : sub≠id) : latestRetry (.scored job sub retry::log) id=latestRetry log id := if_neg h

variable (h : Settled s entry retry t)

include h

theorem Settled.later : Later s t where
  scored job hjob := by
    rw [h.log,scoredJobs_scored]
    exact mem_cons_of_mem _ hjob
  done := by
    rw [h.done]
    exact fun _ hjob => hjob

theorem Settled.mem_inflight {other : ℕ × ℕ}
    (hother : other∈s.inflight) (hne : other.1≠entry.1) : other∈t.inflight := by
  rw [h.inflight,mem_filter]
  exact ⟨hother,by simpa using hne⟩

theorem Settled.sound (hs : Sound s) (hlive : entry∈s.inflight)
    (hdone : s.done entry.2≠none) : Sound t := by
  obtain ⟨hmade,hsub,hunscored⟩ := hs.tracked entry hlive
  have hmem : ∀ other∈t.inflight, other∈s.inflight ∧ other.1≠entry.1 := by
    intro other hother
    rw [h.inflight,mem_filter] at hother
    exact ⟨hother.1,by simpa using hother.2⟩
  have hlog : scoredJobs t.log=entry.2::scoredJobs s.log := by
    rw [h.log,scoredJobs_scored]
  refine {
    inflight_nodup := ?_, tracked := ?_, accounted := ?_, scored := ?_, scored_nodup := ?_
    uncancelled := ?_, unmade := ?_, retry := ?_, fresh := ?_, live_used := ?_, paced := ?_ }
  · rw [h.inflight]
    exact hs.inflight_nodup.sublist (filter_sublist.map Prod.fst)
  · intro other hother
    obtain ⟨hin,hne⟩ := hmem other hother
    obtain ⟨hother',hsub',hnot⟩ := hs.tracked other hin
    rw [hlog,h.next,h.subOf,mem_cons,not_or]
    refine ⟨hother',hsub',fun hsame => hne ?_,hnot⟩
    rw [← hsub',← hsub,hsame]
  · intro job hjob
    rw [h.next] at hjob
    rw [hlog,h.subOf,mem_cons]
    rcases hs.accounted job hjob with hscored | hin
    · exact .inl (.inr hscored)
    · by_cases hsame : job=entry.2
      · exact .inl (.inl hsame)
      · refine .inr (h.mem_inflight hin fun hkey => hsame ?_)
        have heq := inj_on_of_nodup_map hs.inflight_nodup hin hlive hkey
        exact congrArg Prod.snd heq
  · intro job hjob
    rw [hlog,mem_cons] at hjob
    rw [h.next,h.done]
    rcases hjob with rfl | hold
    · exact ⟨hmade,hdone⟩
    · exact hs.scored job hold
  · rw [hlog]
    exact hs.scored_nodup.cons hunscored
  · rw [h.done]
    exact hs.uncancelled
  · rw [h.next,h.done]
    exact hs.unmade
  · intro id hid found hfound
    rw [h.store] at hid
    rw [h.log] at hfound
    rw [h.retryAt]
    by_cases hsame : id=entry.1
    · rw [hsame,latestRetry_scored_self] at hfound
      rw [hsame,put_self]
      exact hfound
    · rw [latestRetry_scored_of_ne _ _ _ (Ne.symm hsame)] at hfound
      rw [put_of_ne _ _ hsame]
      exact hs.retry id hid found hfound
  · intro id hid
    rw [h.store] at hid
    have hne : entry.1≠id := by
      have hused := hs.live_used entry hlive
      omega
    rw [h.log,latestRetry_scored_of_ne _ _ _ hne]
    exact hs.fresh id hid
  · intro other hother
    rw [h.store]
    exact hs.live_used other (hmem other hother).1
  · rw [h.log]
    exact hs.paced

end Scoring

theorem sound_forgetDeleted (hs : Sound s) : Sound s.forgetDeleted :=
  { hs with
    retry := fun id hid found hfound => (if_pos hid).trans (hs.retry id hid found hfound) }

theorem consider_eq (s : Scheduler) (now : ℚ) (age : Option ℚ) (sub : Sub) :
    ∃ lastRun, (s.consider now age sub).2 = { s with lastRun := lastRun } := by
  unfold Scheduler.consider
  split
  · exact ⟨s.lastRun,rfl⟩
  · split
    · exact ⟨s.lastRun,rfl⟩
    · split
      · exact ⟨s.lastRun,rfl⟩
      · exact ⟨s.lastRun,rfl⟩
      · exact ⟨s.lastRun,rfl⟩
      · split
        · exact ⟨_,rfl⟩
        · exact ⟨s.lastRun,rfl⟩

/-- The subscription may be submitted now. -/
structure Due (s : Scheduler) (now : ℚ) (id : ℕ) : Prop where
  idle : id ∉ s.inflight.map Prod.fst
  rested : ∀ retry ∈ latestRetry s.log id, retry ≤ now
  used : id ≤ s.store.lastId

/-- Only a subscription without a refresh under way is due. -/
theorem due_of_consider (hs : Sound s) {now : ℚ} {age : Option ℚ} {sub : Sub}
    (hsub : sub∈s.store.rows) (h : (s.consider now age sub).1=true) : Due s now sub.id := by
  have hknown := hs.retry sub.id (mem_map_of_mem hsub)
  unfold Scheduler.consider at h
  split at h
  · cases h
  · split at h
    · cases h
    next hidle =>
      refine ⟨hidle,fun found hfound => ?_,s.store.used sub hsub⟩
      have hretry := hknown found hfound
      rw [hretry] at h
      exact of_decide_eq_true h

/-- What is not in flight has no refresh that still runs. -/
theorem not_busy (hs : Sound s) (hidle : id∉s.inflight.map Prod.fst) : s.busy id=false := by
  rw [Scheduler.busy,any_eq_false]
  intro job hjob hbusy
  rw [Bool.and_eq_true,decide_eq_true_eq,Option.isNone_iff_eq_none] at hbusy
  rcases hs.accounted job (mem_range.mp hjob) with hscored | hlive
  · exact (hs.scored job hscored).2 hbusy.2
  · rw [hbusy.1] at hlive
    exact hidle (mem_map_of_mem hlive)

/-- Submitting what is due keeps the books in order. -/
theorem sound_submit (hs : Sound s) {now : ℚ} (hdue : Due s now id) : Sound (s.submit now id) := by
  have hinflight : (s.submit now id).inflight=s.inflight++[(id, s.next)] := if_neg hdue.idle
  have hlog : (s.submit now id).log = .submitted s.next id now (s.busy id)::s.log := rfl
  have hsubOf {job : ℕ} (hjob : job < s.next) : (s.submit now id).subOf job=s.subOf job :=
    if_neg (Nat.ne_of_lt hjob)
  have hself : (s.submit now id).subOf s.next=id := if_pos rfl
  have hnext : (s.submit now id).next=s.next+1 := rfl
  refine {
    inflight_nodup := nodup_map_key_putRow hs.inflight_nodup _, tracked := ?_, accounted := ?_
    scored := ?_, scored_nodup := hs.scored_nodup, uncancelled := hs.uncancelled, unmade := ?_
    retry := hs.retry, fresh := hs.fresh, live_used := ?_, paced := ?_ }
  · intro entry hentry
    rw [hinflight,mem_append,mem_singleton] at hentry
    rcases hentry with hold | rfl
    · obtain ⟨hmade,hsub,hunscored⟩ := hs.tracked entry hold
      exact ⟨by omega,(hsubOf hmade).trans hsub,hunscored⟩
    · refine ⟨Nat.lt_succ_self _,hself,fun hscored => ?_⟩
      exact absurd (hs.scored s.next hscored).1 (lt_irrefl _)
  · intro job hjob
    rw [hlog,scoredJobs_submitted,hinflight,mem_append,mem_singleton]
    rcases Nat.lt_succ_iff_lt_or_eq.mp hjob with hold | rfl
    · rw [hsubOf hold]
      exact (hs.accounted job hold).imp_right .inl
    · rw [hself]
      exact .inr (.inr rfl)
  · intro job hjob
    obtain ⟨hmade,hdone⟩ := hs.scored job hjob
    exact ⟨hmade.trans (Nat.lt_succ_self _),hdone⟩
  · intro job hjob
    exact hs.unmade job (by omega)
  · intro entry hentry
    rw [hinflight,mem_append,mem_singleton] at hentry
    rcases hentry with hold | rfl
    · exact hs.live_used entry hold
    · exact hdue.used
  · exact ⟨not_busy hs hdue.idle,hdue.rested,hs.paced⟩

end Steps

section Programs

variable {base s : Scheduler} {now : ℚ}

/-- The books are right, and nothing since the base state was undone. -/
def Reached (base t : Scheduler) : Prop := Sound t ∧ Later base t

theorem Reached.landed (h : Reached base s) (ht : Landed s t) : Reached base t :=
  ⟨ht.sound h.1,h.2.trans ht.later⟩

variable {E : Scheduler → Prop}

theorem pause_meets (h : Reached base s) :
    Meets (fun _ => True) pause s (Reached base) E fun _ t => Reached base t ∧ Landed s t := by
  refine .ask_bind h fun reply _ => .update_bind (.pure ?_)
  have hlanded : Landed s (reply.landings.foldl Scheduler.land s) := landed_foldl reply.landings
  exact ⟨h.landed hlanded,hlanded⟩

theorem pause_safe (h : Reached base s) :
    SafeTo (Reached base) pause s fun _ t => Landed s t := pause_meets h

theorem live_after {rest : List (ℕ × ℕ)} {retry : Option ℚ}
    (h : Settled s entry retry t) (hlive : ∀ other∈rest, other∈s.inflight)
    (hkeys : ((entry::rest).map Prod.fst).Nodup) : ∀ other∈rest, other∈t.inflight := by
  intro other hother
  refine h.mem_inflight (hlive other hother) fun hsame => ?_
  rw [map_cons,nodup_cons] at hkeys
  exact hkeys.1 (hsame ▸ mem_map_of_mem hother)

variable {entries : List (ℕ × ℕ)}

theorem Due.congr (h : Due s now id) (hsame : SameBooks s t) : Due t now id := by
  refine ⟨?_,?_,?_⟩
  · rw [hsame.inflight]
    exact h.idle
  · rw [hsame.log]
    exact h.rested
  · rw [hsame.store]
    exact h.used

section

variable (h : Reached base s)

include h

/-- Every live refresh that has landed is scored, and nothing is raised. -/
theorem reapInflight_meets
    (hlive : ∀ entry∈entries, entry∈s.inflight) (hkeys : (entries.map Prod.fst).Nodup) :
    Meets (fun _ => True) (reapInflight now entries) s (Reached base) E fun _ t =>
      Reached base t ∧ Later s t ∧
        ∀ entry∈entries, s.done entry.2≠none → entry.2∈scoredJobs t.log := by
  induction entries generalizing s with
  | nil => exact .pure ⟨h,.refl s,fun _ hentry => by cases hentry⟩
  | cons entry rest ih =>
    obtain ⟨hfst,hrest⟩ := forall_mem_cons.mp hlive
    refine (pause_meets h).bind fun reply t ⟨ht,hlanded⟩ => .update_bind ?_
    rw [← hlanded.books.inflight] at hfst
    have hrest' : ∀ other∈rest, other∈t.inflight := by
      rw [hlanded.books.inflight]
      exact hrest
    cases hdone : t.done entry.2 with
    | none =>
      refine (ih ht hrest' (nodup_cons.mp hkeys).2).value fun _ u ⟨hreached,hu⟩ => ?_
      refine ⟨hreached,hlanded.later.trans hu.1,fun other hother hother' => ?_⟩
      rcases mem_cons.mp hother with rfl | hin
      · exact absurd hdone (hlanded.later.done other.2 hother')
      · exact hu.2 other hin (hlanded.later.done other.2 hother')
    | some outcome =>
      obtain ⟨retry,hsettled⟩ := settled_settle ht.1 hdone now reply.jitter
      have hsome : t.done entry.2≠none := by simp [hdone]
      have hreached : Reached base (t.settle entry outcome now reply.jitter) :=
        ⟨hsettled.sound ht.1 hfst hsome,ht.2.trans hsettled.later⟩
      refine (ih hreached (live_after hsettled hrest' hkeys)
        (nodup_cons.mp hkeys).2).value fun _ u ⟨hend,hu⟩ => ?_
      refine ⟨hend,hlanded.later.trans (hsettled.later.trans hu.1),fun other hother hother' => ?_⟩
      rcases mem_cons.mp hother with rfl | hin
      · refine hu.1.scored _ ?_
        rw [hsettled.log,scoredJobs_scored]
        exact mem_cons_self
      · exact hu.2 other hin (hsettled.later.done _ (hlanded.later.done other.2 hother'))

theorem collect_safe
    (hlive : ∀ entry∈entries, entry∈s.inflight) (hkeys : (entries.map Prod.fst).Nodup) :
    SafeTo (Reached base) (collect now entries) s fun _ _ => True := by
  induction entries generalizing s with
  | nil => exact .pure h trivial
  | cons entry rest ih =>
    obtain ⟨hfst,hrest⟩ := forall_mem_cons.mp hlive
    refine (pause_safe h).bind fun reply t ht hlanded => .update_bind ?_
    rw [← hlanded.books.inflight] at hfst
    have hrest' : ∀ other∈rest, other∈t.inflight := by
      rw [hlanded.books.inflight]
      exact hrest
    split
    · exact ih ht hrest' (nodup_cons.mp hkeys).2
    · exact ih ht hrest' (nodup_cons.mp hkeys).2
    next outcome _ hdone =>
      obtain ⟨retry,hsettled⟩ := settled_settle ht.1 hdone now reply.jitter
      have hsome : t.done entry.2≠none := by simp [hdone]
      exact ih ⟨hsettled.sound ht.1 hfst hsome,ht.2.trans hsettled.later⟩
        (live_after hsettled hrest' hkeys) (nodup_cons.mp hkeys).2

/-- What is found due may be submitted, each subscription once. -/
theorem dueAmong_safe {subs : List Sub} (hsubs : ∀ sub∈subs, sub∈s.store.rows) :
    SafeTo (Reached base) (dueAmong now subs) s fun due t =>
      SameBooks s t ∧ (due.map Sub.id).Sublist (subs.map Sub.id) ∧
        ∀ sub∈due, Due t now sub.id := by
  induction subs generalizing s with
  | nil => exact .pure h ⟨.refl s,List.Sublist.refl _,fun _ hsub => by cases hsub⟩
  | cons sub rest ih =>
    obtain ⟨hsub,hrest⟩ := forall_mem_cons.mp hsubs
    refine (pause_safe h).bind fun reply t ht hlanded => .read_bind (.update_bind ?_)
    obtain ⟨lastRun,hconsider⟩ := consider_eq t now reply.age sub
    rw [hconsider]
    have hsame : SameBooks t { t with lastRun := lastRun } := ⟨rfl,rfl,rfl,rfl⟩
    have hreached : Reached base { t with lastRun := lastRun } :=
      ⟨{ ht.1 with },ht.2.trans ⟨fun _ hjob => hjob,fun _ hjob => hjob⟩⟩
    have hrest' : ∀ other∈rest, other∈({ t with lastRun := lastRun } : Scheduler).store.rows := by
      rw [hlanded.books.store]
      exact hrest
    refine (ih hreached hrest').bind fun others u hu hothers => .pure hu ?_
    obtain ⟨hbooks,hsublist,hdue⟩ := hothers
    have hall := hlanded.books.trans (hsame.trans hbooks)
    split
    next hfound =>
      have hrow : sub∈t.store.rows := by
        rw [hlanded.books.store]
        exact hsub
      have hfst := (due_of_consider ht.1 hrow hfound).congr (hsame.trans hbooks)
      exact ⟨hall,hsublist.cons_cons _,forall_mem_cons.mpr ⟨hfst,hdue⟩⟩
    · exact ⟨hall,hsublist.cons _,hdue⟩

theorem dueSubs_safe : SafeTo (Reached base) (dueSubs now) s fun due t =>
      (due.map Sub.id).Nodup ∧ ∀ sub∈due, Due t now sub.id := by
  refine (pause_safe h).bind fun reply t ht _ => ?_
  split
  · refine .update_bind (.read_bind ?_)
    have hreached : Reached base t.forgetDeleted :=
      ⟨sound_forgetDeleted ht.1,ht.2.trans ⟨fun _ hjob => hjob,fun _ hjob => hjob⟩⟩
    refine (dueAmong_safe hreached fun _ hsub => hsub).mono fun due u _ hdue => ?_
    exact ⟨t.store.ids.sublist hdue.2.1,hdue.2.2⟩
  · exact .raise ht

/-- The submitted futures are live, one for each subscription. -/
theorem submitAll_safe {due : List Sub} (hids : (due.map Sub.id).Nodup)
    (hdue : ∀ sub∈due, Due s now sub.id) :
    SafeTo (Reached base) (submitAll now due) s fun futures t =>
      futures.map Prod.fst=due.map Sub.id ∧ (∀ entry∈futures, entry∈t.inflight) ∧
        ∀ entry∈s.inflight, entry∈t.inflight := by
  induction due generalizing s with
  | nil => exact .pure h ⟨rfl,fun _ hentry => (by cases hentry),fun _ hentry => hentry⟩
  | cons sub rest ih =>
    obtain ⟨hfst,hrest⟩ := forall_mem_cons.mp hdue
    obtain ⟨hnew,hids'⟩ := nodup_cons.mp hids
    refine (pause_safe h).bind fun reply t ht hlanded => .read_bind (.update_bind ?_)
    have hfirst' := hfst.congr hlanded.books
    have hinflight : (t.submit now sub.id).inflight=t.inflight++[(sub.id, t.next)] :=
      if_neg hfirst'.idle
    have hreached : Reached base (t.submit now sub.id) :=
      ⟨sound_submit ht.1 hfirst',ht.2.trans ⟨fun _ hjob => hjob,fun _ hjob => hjob⟩⟩
    have hrest' : ∀ other∈rest, Due (t.submit now sub.id) now other.id := by
      intro other hother
      have hother' := (hrest other hother).congr hlanded.books
      refine ⟨fun hmem => ?_,hother'.rested,hother'.used⟩
      rw [hinflight,map_append,mem_append] at hmem
      rcases hmem with hold | hself
      · exact hother'.idle hold
      · have hsame : other.id=sub.id := by simpa using hself
        exact hnew (hsame ▸ mem_map_of_mem hother)
    refine (ih hreached hids' hrest').bind fun others u hu hothers => .pure hu ?_
    obtain ⟨hkeys,hlive,hkept⟩ := hothers
    have hself : (sub.id, t.next)∈u.inflight := hkept _ (by simp [hinflight])
    refine ⟨by rw [map_cons,map_cons,hkeys],forall_mem_cons.mpr ⟨hself,hlive⟩,
      fun entry hentry => hkept entry ?_⟩
    rw [hinflight,hlanded.books.inflight]
    exact mem_append_left _ hentry

theorem refreshDue_safe {due : List Sub} (hids : (due.map Sub.id).Nodup)
    (hdue : ∀ sub∈due, Due s now sub.id) :
    SafeTo (Reached base) (refreshDue now due) s fun _ _ => True := by
  refine (submitAll_safe h hids hdue).bind fun futures t ht hfutures => ?_
  exact collect_safe ht hfutures.2.1 (hfutures.1 ▸ hids)

end

/-- Every refresh that had landed in the first scheduler is scored in the second. -/
def CaughtUp (s t : Scheduler) : Prop := ∀ job < s.next, s.done job ≠ none → job ∈ scoredJobs t.log

theorem CaughtUp.later (h : CaughtUp s t) (hlater : Later t u) : CaughtUp s u :=
  fun job hjob hdone => hlater.scored job (h job hjob hdone)

/-- A tick keeps the books right wherever it stops, and unless its process dies it scores every
refresh that had landed before it. -/
theorem runOnce_meets (h : Sound s) :
    Meets (fun _ => True) (runOnce now) s Sound (fun t => Sound t ∧ CaughtUp s t)
      fun _ t => Sound t ∧ CaughtUp s t := by
  have hstart : Reached s s := ⟨h,.refl s⟩
  have hreap : Meets (fun _ => True) (reapInflight now s.inflight) s (Reached s)
      (fun t => Sound t ∧ CaughtUp s t) _ :=
    reapInflight_meets hstart (fun _ hentry => hentry) h.inflight_nodup
  refine .read_bind ((hreap.weaken (fun _ ht => ht.1) fun _ ht => ht).bind fun _ t ht => ?_)
  obtain ⟨hreached,-,hscored⟩ := ht
  have hcaught : CaughtUp s t := by
    intro job hjob hdone
    rcases h.accounted job hjob with hpre | hlive
    · exact hreached.2.scored job hpre
    · exact hscored _ hlive hdone
  have hrest : SafeTo (Reached t) (dueSubs now >>= refreshDue now) t fun _ _ => True :=
    (dueSubs_safe ⟨hreached.1,.refl t⟩).bind fun due u hu hdue => refreshDue_safe hu hdue.1 hdue.2
  exact .mono hrest (fun _ hu => hu.1) (fun _ hu => ⟨hu.1,hcaught.later hu.2⟩)
    fun _ _ hu => ⟨hu.1.1,hcaught.later hu.1.2⟩

end Programs

section Ticking

theorem sound_started (store : Subscriptions) : Sound (started store).scheduler where
  inflight_nodup := nodup_nil
  tracked := fun _ hentry => by cases hentry
  accounted := fun _ hjob => absurd hjob (Nat.not_lt_zero _)
  scored := fun _ hjob => by cases hjob
  scored_nodup := nodup_nil
  uncancelled := fun _ hjob => by cases hjob
  unmade := fun _ _ => rfl
  retry := fun _ _ _ hretry => by cases hretry
  fresh := fun _ _ => rfl
  live_used := fun _ hentry => by cases hentry
  paced := trivial

/-- A change of the subscriptions leaves the books right when every id it adds is a new one. -/
theorem sound_stored {panel : Panel} {change : Subscriptions → Subscriptions}
    (hs : Sound panel.scheduler) (hids : ∀ store, ∀ id∈(change store).rows.map Sub.id,
      id∈store.rows.map Sub.id ∨ store.lastId < id)
    (hlast : ∀ store, store.lastId≤(change store).lastId) :
    Sound (panel.stored change).scheduler := by
  refine { hs with retry := fun id hid found hfound => ?_, fresh := fun id hid => ?_,
                   live_used := fun entry hentry => ?_ }
  · rcases hids panel.scheduler.store id hid with hold | hnew
    · exact hs.retry id hold found hfound
    · have hnone : latestRetry panel.scheduler.log id=none := hs.fresh id hnew
      have hfound' : found∈latestRetry panel.scheduler.log id := hfound
      rw [hnone] at hfound'
      cases hfound'
  · exact hs.fresh id ((hlast panel.scheduler.store).trans_lt hid)
  · exact (hs.live_used entry hentry).trans (hlast panel.scheduler.store)

/-- Ticks, landings and edits of the subscriptions keep the books in order. -/
theorem sound_step (panel : Panel) (event : Event) (hs : Sound panel.scheduler) :
    Sound (step panel event).scheduler := by
  cases event with
  | tick now answers =>
    cases hup : panel.up with
    | true =>
      have hstate : Sound (runOnce now answers panel.scheduler).state :=
        ((runOnce_meets hs).mono (fun _ ht => ht) (fun _ ht => ht.1) fun _ _ ht => ht.1).state
          fun _ _ => trivial
      simpa [step,hup] using hstate
    | false => simpa [step,hup] using hs
  | land landings => exact (landed_foldl landings).sound hs
  | add intervalSec enabled =>
    refine sound_stored hs (fun store id hid => ?_) fun store => Nat.le_succ _
    have hid' : id∈store.rows.map Sub.id ∨ id=store.lastId+1 := by
      simpa [Subscriptions.add] using hid
    exact hid'.imp_right fun hnew => by omega
  | edit sub =>
    refine sound_stored hs (fun store id hid => .inl ?_) fun store => le_rfl
    have hid' : id∈(replaceRow Sub.id store.rows sub).map Sub.id := hid
    rwa [map_key_replaceRow] at hid'
  | delete id =>
    refine sound_stored hs (fun store other hother => .inl ?_) fun store => le_rfl
    exact (filter_sublist.map Sub.id).subset hother

/-- What is promised about the refreshes of a scheduler. -/
structure Orderly (s : Scheduler) : Prop where
  /-- At most one refresh of a subscription is running or queued. -/
  one_each : ∀ job < s.next, ∀ other < s.next, s.done job = none → s.done other = none →
    s.subOf job = s.subOf other → job = other
  /-- No refresh was submitted while another of its subscription was under way, nor after a failure
  before the retry time. -/
  paced : Paced s.log
  /-- No refresh was scored twice, or before it landed. -/
  scored : (scoredJobs s.log).Nodup ∧ ∀ job ∈ scoredJobs s.log, s.done job ≠ none

theorem Sound.orderly {s : Scheduler} (hs : Sound s) : Orderly s := by
  refine ⟨fun job hjob other hother hopen hopen' hsame => ?_,hs.paced,hs.scored_nodup,
    fun job hjob => (hs.scored job hjob).2⟩
  have hlive {job : ℕ} (hjob : job < s.next) (hopen : s.done job=none) :
      (s.subOf job, job)∈s.inflight :=
    (hs.accounted job hjob).resolve_left fun hscored => (hs.scored job hscored).2 hopen
  have heq := inj_on_of_nodup_map hs.inflight_nodup (hlive hjob hopen) (hlive hother hopen') hsame
  exact congrArg Prod.snd heq

/-- After every run the refreshes ever submitted are those scored and those on the books, and none is
both: no refresh is lost, whatever becomes of it. -/
theorem refreshes_accounted (store : Subscriptions) (events : List Event) (job : ℕ) :
    let s := (run step (started store) events).scheduler
    job < s.next ↔ Xor (job ∈ scoredJobs s.log) ((s.subOf job, job) ∈ s.inflight) := by
  intro s
  have hs : Sound s :=
    run_keeps (I := fun panel : Panel => Sound panel.scheduler) sound_step (sound_started store)
  constructor
  · intro hjob
    rcases hs.accounted job hjob with hscored | hlive
    · exact .inl ⟨hscored,fun hlive => (hs.tracked _ hlive).2.2 hscored⟩
    · exact .inr ⟨hlive,(hs.tracked _ hlive).2.2⟩
  · rintro (⟨hscored,-⟩ | ⟨hlive,-⟩)
    · exact (hs.scored job hscored).1
    · exact (hs.tracked _ hlive).1

/-- Whatever subscriptions are on record at the start, and whatever ticks, landings and changes of
the subscriptions follow, the refreshes are orderly, and a tick that runs to its end leaves every
refresh that landed before it scored exactly once. -/
theorem refreshes_orderly (store : Subscriptions) (events : List Event) :
    let panel := run step (started store) events
    Orderly panel.scheduler ∧ ∀ now answers, (step panel (.tick now answers)).up = true →
        ∀ job < panel.scheduler.next, panel.scheduler.done job ≠ none →
          (scoredJobs (step panel (.tick now answers)).scheduler.log).count job = 1 := by
  intro panel
  have hsound : Sound panel.scheduler :=
    run_keeps (I := fun panel : Panel => Sound panel.scheduler) sound_step (sound_started store)
  refine ⟨hsound.orderly,fun now answers hend job hjob hdone => ?_⟩
  have hafter := sound_step panel (.tick now answers) hsound
  cases hup : panel.up with
  | false => simp [step,hup] at hend
  | true =>
    have hstep : step panel (.tick now answers) = ⟨(runOnce now answers panel.scheduler).state,
          (runOnce now answers panel.scheduler).outcome≠.killed⟩ := by
      simp [step,hup]
    rw [hstep] at hend hafter ⊢
    refine count_eq_one_of_mem hafter.scored_nodup ?_
    have hrun : Meets (fun _ => True) (runOnce now) panel.scheduler _ _ _ := runOnce_meets hsound
    have hmeets := (hrun answers fun _ _ => trivial).2
    cases hout : (runOnce now answers panel.scheduler).outcome with
    | done value =>
      rw [hout] at hmeets
      exact hmeets.2 job hjob hdone
    | raised error =>
      rw [hout] at hmeets
      exact hmeets.2 job hjob hdone
    | killed => simp [hout] at hend

/-- A store with one subscription that is refreshed every minute. -/
def oneSubscription : Subscriptions where
  rows := [⟨1, 60, true⟩]
  lastId := 1
  ids := List.nodup_singleton 1
  used := by decide

/-- An answer with nothing landed meanwhile. -/
def quiet : Answer := ⟨[], true, none, 1⟩

/-- A tick submits a refresh and stops waiting for it; it fails after the tick and is scored by the
next one. -/
theorem refreshes_orderly_late :
    let panel := run step (started oneSubscription)
      [.tick 30 [quiet, quiet, quiet, quiet], .land [(0, .raised false)]]
    panel.scheduler.done 0 ≠ none ∧ scoredJobs panel.scheduler.log = [] ∧
      (scoredJobs (step panel (.tick 60 [quiet, quiet, quiet])).scheduler.log).count 0 = 1 := by
  refine ⟨by decide +kernel,by decide +kernel,?_⟩
  exact (refreshes_orderly oneSubscription
    [.tick 30 [quiet,quiet,quiet,quiet],.land [(0, .raised false)]]).2 60 [quiet,quiet,quiet]
    (by decide +kernel) 0 (by decide +kernel) (by decide +kernel)

end Ticking

end PiGwPanel.SubScheduler
