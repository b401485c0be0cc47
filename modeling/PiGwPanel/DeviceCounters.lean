import Mathlib
import PiGwPanel.AnsweredProgram
import PiGwPanel.SegmentRuleset

/-!
# Bytes of the pinned devices

`devices.py` reads the counters of every pinned device once a minute and adds what
they moved to the rows of that minute. The readings become the new baseline before
the rows are written, and the rows are written one device after the other. The
table is kept as the list of the amounts added; a row of it is the sum of those of
its device and minute.
-/

namespace PiGwPanel.DeviceCounters

open AnsweredProgram List
open SegmentRuleset (counterNames)

/-- A dictionary from the names of counters to bytes. -/
structure Counters where
  names : List String
  bytes : String → ℕ

/-- `dict.get`. -/
def Counters.get? (counters : Counters) (name : String) : Option ℕ :=
  if name ∈ counters.names then some (counters.bytes name) else none

/-- What a counter moved between two readings; one that is new or went back counts whole. -/
def grown : Option ℕ → Option ℕ → ℕ
  | _, none => 0
  | none, some total => total
  | some before, some total => if total < before then total else total - before

/-- `deltas`: the counters that moved. -/
def deltas (previous current : Counters) : Counters where
  names := current.names.filter fun name => 0 < grown (previous.get? name) (current.get? name)
  bytes name := grown (previous.get? name) (current.get? name)

/-- What the two counters of a device have, as bytes up and down; nothing for a missing one. -/
def Counters.ofDevice (counters : Counters) (ip : String) : ℕ × ℕ :=
  ((counters.get? (counterNames ip).1).getD 0, (counters.get? (counterNames ip).2).getD 0)

/-- An amount added for a device and a minute. -/
structure Row where
  ip : String
  tsMin : ℤ
  bytes : ℕ × ℕ
  deriving DecidableEq, Repr

/-- `_DEVICE_RETENTION_MIN`. -/
def retention : ℤ := 90 * 24 * 60

/-- `add_device_minute`: what is older than the retention is dropped, counted from the older of the
new minute and the newest stored one. -/
def addDeviceMinute (row : Row) (rows : List Row) : List Row :=
  let anchor := ((rows.map Row.tsMin).max?).elim row.tsMin (min row.tsMin)
  (rows ++ [row]).filter fun r => anchor - retention ≤ r.tsMin

/-- The sampler, the table and the readings taken, newest first. -/
structure Sampler where
  previous : Counters
  rows : List Row
  /-- Ghost: the readings the sampler got. -/
  readings : List Counters

/-- One call of `sample_once`. -/
structure Sample where
  /-- Nothing where the read failed. -/
  read : Option Counters
  tsMin : ℤ
  /-- The pinned devices; nothing where the store cannot list them. -/
  reservations : Option (List String)
  /-- The devices whose row cannot be written. -/
  refused : List String

/-- The loop over the pinned devices; a write that fails ends it. -/
def writeAll (moved : Counters) (tsMin : ℤ) (refused : List String) : List String → List Row → List Row
  | [], rows => rows
  | ip :: rest, rows =>
    if moved.ofDevice ip = 0 then writeAll moved tsMin refused rest rows
    else if ip ∈ refused then rows
    else writeAll moved tsMin refused rest (addDeviceMinute ⟨ip, tsMin, moved.ofDevice ip⟩ rows)

/-- `sample_once`. -/
def sampleOnce (s : Sampler) (sample : Sample) : Sampler :=
  match sample.read with
  | none => s
  | some current =>
    let moved := deltas s.previous current
    { previous := current
      readings := current :: s.readings
      rows :=
        if moved.names = [] then s.rows
        else (sample.reservations.elim s.rows fun ips =>
          writeAll moved sample.tsMin sample.refused ips s.rows) }

/-- A sampler that has not read yet, on an empty table. -/
def fresh : Sampler := ⟨⟨[], fun _ => 0⟩, [], []⟩

/-- What a counter has counted up to the newest of some readings: the first one and any smaller one
count from zero. -/
def counted (name : String) : List Counters → ℕ
  | [] => 0
  | current :: earlier =>
    counted name earlier + grown (earlier.head?.bind (·.get? name)) (current.get? name)

/-- What is stored of a device. -/
def stored (rows : List Row) (ip : String) : ℕ × ℕ := ((rows.filter (·.ip = ip)).map Row.bytes).sum

section Rows

variable {ip : String} {tsMin : ℤ} {rows : List Row} {moved : Counters} {refused : List String}

/-- No row of the device is older than the retention. -/
def Recent (ip : String) (tsMin : ℤ) (rows : List Row) : Prop :=
  ∀ row ∈ rows, row.ip = ip → tsMin - retention ≤ row.tsMin

theorem Recent.addDeviceMinute (h : Recent ip tsMin rows) (other : String) (bytes : ℕ × ℕ) :
    Recent ip tsMin (addDeviceMinute ⟨other,tsMin,bytes⟩ rows) := by
  intro row hrow hip
  rcases mem_append.mp (mem_of_mem_filter hrow) with hrow | hrow
  · exact h row hrow hip
  · obtain rfl := mem_singleton.mp hrow
    exact Int.sub_le_self _ (by decide)

end Rows

section Samples

variable {ip : String} {s : Sampler}

/-- A reading of the two counters of a device. -/
def reading (up down : ℕ) : Counters where
  names := ["dev_up_10_0_0_5", "dev_down_10_0_0_5"]
  bytes name := if name = "dev_up_10_0_0_5" then up else down

end Samples

end PiGwPanel.DeviceCounters
