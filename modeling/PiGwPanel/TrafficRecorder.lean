import Mathlib.Data.Rat.Floor
import PiGwPanel.AnsweredProgram
import PiGwPanel.PyText

/-!
# The traffic recorder

`stats/history.py` samples the proxy counters of xray and turns them into a
lifetime total and a series of minutes. The counters seen last, the bytes that
wait to be written and the open minute live in memory; the total and the counters
it covers are settings, written together in one transaction. Any callback may
raise, the transaction may fail to commit, and the process may die at every one
of them. The graph points of the history are left out; of the history only the
newest time stamp is kept, which the accounting is based on.
-/

namespace PiGwPanel.TrafficRecorder

open AnsweredProgram PyText

/-- Bytes in the two directions. -/
@[ext] structure Bytes where
  up : ℤ
  down : ℤ
  deriving DecidableEq, Repr

namespace Bytes

instance : Zero Bytes := ⟨⟨0, 0⟩⟩

instance : Add Bytes := ⟨fun a b => ⟨a.up + b.up, a.down + b.down⟩⟩

instance : Sub Bytes := ⟨fun a b => ⟨a.up - b.up, a.down - b.down⟩⟩

instance : LE Bytes := ⟨fun a b => a.up ≤ b.up ∧ a.down ≤ b.down⟩

instance (a b : Bytes) : Decidable (a ≤ b) :=
  inferInstanceAs (Decidable (a.up ≤ b.up ∧ a.down ≤ b.down))

@[simp] theorem up_zero : (0 : Bytes).up=0 := rfl

@[simp] theorem down_zero : (0 : Bytes).down=0 := rfl

variable (a b : Bytes)

include a b

@[simp] theorem up_add : (a+b).up=a.up+b.up := rfl

@[simp] theorem down_add : (a+b).down=a.down+b.down := rfl

@[simp] theorem up_sub : (a-b).up=a.up-b.up := rfl

@[simp] theorem down_sub : (a-b).down=a.down-b.down := rfl

end Bytes

/-- The bytes of one minute of the wall clock. -/
structure Bucket where
  minute : ℤ
  bytes : Bytes
  deriving DecidableEq, Repr

/-- What the recorder keeps in memory. -/
structure Recorder where
  /-- `_prev_abs`: the counters seen last. -/
  prevAbs : Option Bytes
  /-- `_recovered`: the next delta spans the time the panel was down. -/
  recovered : Bool
  /-- `_pending`: bytes not yet in the total. -/
  pending : Bytes
  /-- `_last_flush`, in seconds. -/
  lastFlush : ℚ
  /-- `_minute`: the open minute. -/
  minute : Option Bucket
  /-- `_pending_minutes`: completed minutes, oldest first. -/
  pendingMinutes : List Bucket
  /-- Minutes that fell off the full queue. -/
  dropped : List Bucket
  /-- The newest time stamp of the history, in milliseconds. -/
  newest : Option ℤ
  deriving DecidableEq, Repr

/-- The settings the recorder writes and reads back. -/
structure Records where
  /-- `proxy_abs_baseline`. -/
  baseline : Option String
  /-- `data_used_up`. -/
  usedUp : Option String
  /-- `data_used_down`. -/
  usedDown : Option String
  deriving DecidableEq, Repr

/-- Nothing was ever counted. -/
def Records.empty : Records := ⟨none, none, none⟩

section Settings

/-- `int(text or "0")`. -/
def counted (text : Option String) : Option ℤ :=
  match text with
  | none => some 0
  | some text => if text = "" then some 0 else pyInt text

/-- The total on record; nothing where a setting is no number. -/
def dataUsed (records : Records) : Option Bytes := do
  let up ← counted records.usedUp
  let down ← counted records.usedDown
  pure ⟨up, down⟩

/-- `_add_data_used`; nothing where it raises. -/
def addDataUsed (delta : Bytes) (records : Records) : Option Records := do
  let used ← dataUsed records
  pure { records with
    usedUp := some (toString (used.up + delta.up))
    usedDown := some (toString (used.down + delta.down)) }

/-- `_load_proxy_baseline`. -/
def loadProxyBaseline (records : Records) : Option Bytes := do
  let (up, down) := partition ':' (records.baseline.getD "")
  let up ← pyInt up
  let down ← pyInt down
  pure ⟨up, down⟩

/-- `_save_proxy_baseline`. -/
def saveProxyBaseline (reading : Bytes) (records : Records) : Records :=
  { records with baseline := some (toString reading.up ++ (":" ++ toString reading.down)) }

theorem intText_ne_empty (n : ℤ) : toString n ≠ "" := by
  intro hempty
  have hread := pyInt_intText n
  rw [hempty] at hread
  exact absurd hread (by simp [pyInt,strip,digitsValue])

/-- What the panel writes as a total it reads back. -/
theorem counted_intText (n : ℤ) : counted (some (toString n))=some n := by
  have hread : counted (some (toString n)) = if toString n = "" then some 0 else pyInt (toString n) :=
    rfl
  rw [hread,if_neg (intText_ne_empty n)]
  exact pyInt_intText n

/-- The stored totals move by the growth, the baseline stays. -/
theorem dataUsed_addDataUsed {used : Bytes} {records : Records}
    (h : dataUsed records=some used) (delta : Bytes) :
    ∃ after, addDataUsed delta records=some after ∧ dataUsed after=some (used+delta) ∧
      after.baseline=records.baseline := by
  have hadd : addDataUsed delta records=some { records with
      usedUp := some (toString (used.up+delta.up))
      usedDown := some (toString (used.down+delta.down)) } := by
    rw [addDataUsed,h]
    rfl
  refine ⟨_,hadd,?_,rfl⟩
  simp only [dataUsed,counted_intText]
  rfl

/-- The stored baseline round-trips: no number has a colon. -/
theorem loadProxyBaseline_saveProxyBaseline (reading : Bytes) (records : Records) :
    loadProxyBaseline (saveProxyBaseline reading records)=some reading := by
  have hcolon : ':' ∉ (toString reading.up).toList := by
    intro hmem
    rcases isDigit_or_minus_of_mem_intText hmem with hdigit | hminus
    · exact absurd hdigit (by decide)
    · exact absurd hminus (by decide)
  have hparts : partition ':' (toString reading.up++(":" ++ toString reading.down)) =
      (toString reading.up, toString reading.down) := partition_join hcolon _
  simp only [loadProxyBaseline,saveProxyBaseline,Option.getD_some,hparts,pyInt_intText]
  rfl

end Settings

/-- One answer of the clock, of a callback, of the settings table or of xray. -/
structure Answer where
  /-- The call came back without an exception. -/
  said : Bool
  /-- The answer to a question. -/
  yes : Bool
  /-- The wall clock, in seconds. -/
  clock : ℚ
  deriving DecidableEq, Repr

/-- The recorder in its process, what is on disk, and notes on the readings taken. -/
structure Panel where
  recorder : Recorder
  records : Records
  /-- The minutes the callback took. -/
  delivered : List Bucket
  /-- The last reading taken, by this process or an earlier one. -/
  last : Option Bytes
  /-- The reading at which counting began. -/
  began : Option Bytes
  /-- This process has taken a reading. -/
  taken : Bool

/-- A program of the recorder. -/
abbrev Work (α : Type) := Prog Answer Panel Unit α

section Memory

/-- `__init__` with the counters a restart finds on record. -/
def Recorder.start (baseline : Option Bytes) : Recorder where
  prevAbs := baseline
  recovered := baseline.isSome
  pending := 0
  lastFlush := 0
  minute := none
  pendingMinutes := []
  dropped := []
  newest := none

/-- `_MAX_PENDING_MINUTES`. -/
def maxPendingMinutes : ℕ := 1440

/-- `flush_interval`, in seconds. -/
def flushInterval : ℚ := 30

/-- `_queue_minute`. -/
def Recorder.queueMinute (bucket : Bucket) (recorder : Recorder) : Recorder :=
  let surplus := recorder.pendingMinutes.length + 1 - maxPendingMinutes
  { recorder with
    pendingMinutes := recorder.pendingMinutes.drop surplus ++ [bucket]
    dropped := recorder.dropped ++ recorder.pendingMinutes.take surplus }

/-- The open minute is queued unless nothing happened in it. -/
def Recorder.closeMinute (recorder : Recorder) : Recorder :=
  match recorder.minute with
  | none => recorder
  | some bucket =>
    let rest := { recorder with minute := none }
    if bucket.bytes = 0 then rest else rest.queueMinute bucket

/-- The open minute is closed when another one has begun. -/
def Recorder.rollMinute (current : ℤ) (recorder : Recorder) : Recorder :=
  match recorder.minute with
  | none => recorder
  | some bucket => if bucket.minute = current then recorder else recorder.closeMinute

/-- `_accumulate_minute`, at a time in milliseconds. -/
def Recorder.accumulateMinute (delta : Bytes) (now : ℤ) (recorder : Recorder) : Recorder :=
  let current := now / 60000
  let recorder := recorder.rollMinute current
  if delta = 0 then recorder
  else
    let bucket := recorder.minute.getD ⟨current, 0⟩
    { recorder with minute := some { bucket with bytes := bucket.bytes + delta } }

/-- The growth of one counter; a smaller reading counts whole. -/
def growth (before now : ℤ) : ℤ := if 0 ≤ now - before then now - before else max 0 now

/-- The growth in both directions, each on its own. -/
def growthOf (before now : Bytes) : Bytes := ⟨growth before.up now.up, growth before.down now.down⟩

/-- The part of `_accumulate_total` before the flushes. -/
def Recorder.take (reading : Bytes) (now : ℤ) (recorder : Recorder) : Recorder :=
  match recorder.prevAbs with
  | none => { recorder with prevAbs := some reading }
  | some before =>
    let delta := growthOf before reading
    let after := { recorder with prevAbs := some reading, pending := recorder.pending + delta }
    if after.recovered then { after with recovered := false } else after.accumulateMinute delta now

section Totals

/-! The minutes are kept apart from the total. -/

variable (recorder : Recorder) (bucket : Bucket) (delta : Bytes) (now : ℤ)

/-- The minute buckets leave the totals alone. -/
@[simp] theorem prevAbs_closeMinute : recorder.closeMinute.prevAbs=recorder.prevAbs := by
  unfold Recorder.closeMinute
  split
  · rfl
  · split <;> rfl

@[simp] theorem pending_closeMinute : recorder.closeMinute.pending=recorder.pending := by
  unfold Recorder.closeMinute
  split
  · rfl
  · split <;> rfl

@[simp] theorem prevAbs_rollMinute : (recorder.rollMinute now).prevAbs=recorder.prevAbs := by
  unfold Recorder.rollMinute
  split
  · rfl
  · split
    · rfl
    · exact prevAbs_closeMinute recorder

@[simp] theorem pending_rollMinute : (recorder.rollMinute now).pending=recorder.pending := by
  unfold Recorder.rollMinute
  split
  · rfl
  · split
    · rfl
    · exact pending_closeMinute recorder

@[simp] theorem prevAbs_accumulateMinute :
    (recorder.accumulateMinute delta now).prevAbs=recorder.prevAbs := by
  unfold Recorder.accumulateMinute
  split <;> simp

@[simp] theorem pending_accumulateMinute :
    (recorder.accumulateMinute delta now).pending=recorder.pending := by
  unfold Recorder.accumulateMinute
  split <;> simp

end Totals

/-- A reading becomes the one the next is compared with. -/
theorem prevAbs_take (recorder : Recorder) (reading : Bytes) (now : ℤ) :
    (recorder.take reading now).prevAbs=some reading := by
  unfold Recorder.take
  split
  · rfl
  · dsimp only
    split <;> simp

variable {recorder : Recorder}

/-- Between two readings what is pending moves by their growth. -/
theorem pending_take {before : Bytes} (h : recorder.prevAbs=some before)
    (reading : Bytes) (now : ℤ) :
    (recorder.take reading now).pending=recorder.pending+growthOf before reading := by
  unfold Recorder.take
  rw [h]
  dsimp only
  split <;> simp

theorem pending_take_first (h : recorder.prevAbs=none) (reading : Bytes)
    (now : ℤ) : (recorder.take reading now).pending=recorder.pending := by
  unfold Recorder.take
  rw [h]

/-- Counters that did not go back grew by their difference. -/
theorem growthOf_of_le {before reading : Bytes} (h : before ≤ reading) :
    growthOf before reading=reading-before := by
  obtain ⟨hup,hdown⟩ := h
  have hup' : growth before.up reading.up=reading.up-before.up := if_pos (by omega)
  have hdown' : growth before.down reading.down=reading.down-before.down := if_pos (by omega)
  unfold growthOf
  rw [hup',hdown']
  rfl

/-- `TrafficHistory.record`: a clock that went back does not take the series with it. -/
def stamp (clock : ℚ) (newest : Option ℤ) : ℤ :=
  let now := if 0 ≤ clock then ⌊clock * 1000⌋ else ⌈clock * 1000⌉
  match newest with
  | none => now
  | some newest => max newest now

end Memory

section Tasks

/-- A call that may raise. -/
def call : Work Answer := do
  let reply ← Prog.ask
  if reply.said then pure reply else Prog.raise ()

/-- The recorder alone is changed. -/
def remember (f : Recorder → Recorder) : Work Unit :=
  Prog.update fun panel => { panel with recorder := f panel.recorder }

/-- `_last_flush = clock()`. -/
def noteFlush : Work Unit := do
  let reply ← Prog.ask
  remember fun recorder => { recorder with lastFlush := reply.clock }

/-- `on_baseline` inside the transaction. -/
def onBaseline (prevAbs : Option Bytes) (records : Records) : Work Records := do
  match prevAbs with
  | none => pure records
  | some reading =>
    let _ ← call
    pure (saveProxyBaseline reading records)

/-- `on_total` inside the transaction. -/
def onTotal (pending : Bytes) (records : Records) : Work Records := do
  if pending = 0 then pure records
  else
    let _ ← call
    match addDataUsed pending records with
    | none => Prog.raise ()
    | some after => pure after

/-- The end of the transaction: all of it is kept, or none. -/
def commit (records : Records) : Work Unit := do
  let _ ← call
  Prog.update fun panel => { panel with records := records }

/-- The transaction of `flush_total` and the clearing of what it covers. -/
def writeTotal (recorder : Recorder) (records : Records) : Work Unit := do
  let records ← onBaseline recorder.prevAbs records
  let records ← onTotal recorder.pending records
  commit records
  remember fun recorder => { recorder with pending := 0 }
  noteFlush

/-- `flush_total`. -/
def flushTotal : Work Unit := do
  let panel ← Prog.read
  if panel.recorder.prevAbs = none ∧ panel.recorder.pending = 0 then noteFlush
  else writeTotal panel.recorder panel.records

/-- The loop of `flush_minute`. -/
def deliver : List Bucket → Work Unit
  | [] => pure ()
  | bucket :: rest => do
    let _ ← call
    Prog.update fun panel =>
      { panel with
        recorder := { panel.recorder with pendingMinutes := rest }
        delivered := panel.delivered ++ [bucket] }
    deliver rest

/-- `flush_minute`. -/
def flushMinute (includeCurrent : Bool) : Work Unit := do
  remember fun recorder => if includeCurrent then recorder.closeMinute else recorder
  let panel ← Prog.read
  deliver panel.recorder.pendingMinutes

/-- The failure is logged and what it left is retried. -/
def quietly (task : Work Unit) : Work Unit := do
  let _ ← Prog.attempt task
  pure ()

/-- The flush of a tick, when there is something to write and it is time. -/
def flushWhenDue (now : ℚ) : Work Unit := do
  let panel ← Prog.read
  if panel.recorder.pending ≠ 0 ∧ flushInterval ≤ now - panel.recorder.lastFlush then
    quietly flushTotal
  else pure ()

/-- A reading is taken, and the notes on it. -/
def Panel.read (reading : Bytes) (now : ℤ) (panel : Panel) : Panel :=
  { panel with
    recorder := panel.recorder.take reading now
    last := some reading
    began := if panel.recorder.prevAbs = none then some reading else panel.began
    taken := true }

/-- `_accumulate_total`, at a time in milliseconds. -/
def accumulateTotal (totals : Option Bytes) (now : ℤ) : Work Unit := do
  match totals with
  | none => pure ()
  | some reading =>
    Prog.update (Panel.read reading now)
    flushWhenDue (now / 1000)
    quietly (flushMinute false)

/-- `record_sample`. -/
def recordSample (totals : Option Bytes) : Work Unit := do
  let reply ← Prog.ask
  let panel ← Prog.read
  let now := stamp reply.clock panel.recorder.newest
  remember fun recorder => { recorder with newest := some now }
  accumulateTotal totals now

/-- The sampling of a tick, once xray is known to run. -/
def sampleRunning (totals : Option Bytes) : Work Unit := do
  let reply ← call
  if reply.yes then
    let _ ← call
    recordSample totals
  else pure ()

/-- The sampling of a tick: the interval, the switch, the process, the counters. -/
def sampleOnce (totals : Option Bytes) : Work Unit := do
  let _ ← call
  let reply ← call
  if reply.yes then sampleRunning totals else pure ()

/-- `_tick`, where the sampler would find the given totals of the proxy. -/
def tick (totals : Option Bytes) : Work Unit := quietly (sampleOnce totals)

/-- `_flush_on_stop`. -/
def flushOnStop : Work Unit := quietly do
  flushTotal
  flushMinute true

end Tasks

section Runs

/-- The panel and whether its process is up. -/
structure Box where
  panel : Panel
  up : Bool

/-- What happens to the recorder. -/
inductive Event where
  | tick (totals : Option Bytes) (answers : List Answer)
  | stop (answers : List Answer)
  /-- The process ends between two ticks. -/
  | crash
  /-- The panel is started. -/
  | start

/-- A task of the running process; it may die in it. -/
def Box.perform (task : Work Unit) (answers : List Answer) (box : Box) : Box :=
  if box.up then
    let exit := task answers box.panel
    ⟨exit.state, exit.outcome ≠ .killed⟩
  else box

/-- A new process takes up the counters on record. -/
def Box.boot (box : Box) : Box :=
  if box.up then box
  else
    ⟨{ box.panel with
        recorder := Recorder.start (loadProxyBaseline box.panel.records), taken := false }, true⟩

/-- The box after an event. -/
def step (box : Box) : Event → Box
  | .tick totals answers => box.perform (tick totals) answers
  | .stop answers => box.perform flushOnStop answers
  | .crash => { box with up := false }
  | .start => box.boot

/-- A box whose panel was never started. -/
def newBox : Box where
  panel :=
    { recorder := Recorder.start none
      records := Records.empty
      delivered := []
      last := none
      began := none
      taken := false }
  up := false

end Runs

end PiGwPanel.TrafficRecorder
