import PiGwPanel.AnsweredProgram
import PiGwPanel.PyText

/-!
# Durable records of the provisioning code

`net_control/provision.py` keeps everything it remembers between passes in the
settings table, whose writes may raise or quietly keep nothing and whose reads
may fail. A record is written and then read back; a ledger of several lines is
journalled first, so that the replacement cannot be the step that loses a line.
The text of a ledger is represented by its lines.
-/

namespace PiGwPanel.DurableRecords

open AnsweredProgram PyText Prog

/-- One answer of the store or of the host to one call. -/
structure Answer where
  /-- Whether the call changed what it was meant to change. -/
  took : Bool
  /-- Whether it came back without an exception; for a question, whether it was answered. -/
  said : Bool
  /-- Whether a command could be started at all. -/
  ran : Bool
  /-- Text that came with the answer. -/
  text : String
  deriving DecidableEq, Repr

/-- The call did what it was meant to do and said so. -/
def Answer.good : Answer := ⟨true, true, true, ""⟩

/-- The exceptions that the provisioning code tells apart. -/
inductive Raised where
  | calledProcessError
  | osError
  | recordUnknown
  | runtimeError
  deriving DecidableEq, Repr

/-- What became of `ip link show`. -/
inductive LinkState where
  | present
  | absent
  | unknown
  deriving DecidableEq, Repr

/-- Why a part of a pass was not settled, with the record, link or address it is about. -/
inductive Why where
  | notWritten (key : String)
  | notReadBack (key : String)
  | notHeld (key : String)
  | notReadable (key : String)
  | notOneEntry (key iface addr : String)
  | invalidScalar (key : String)
  | linkRemains (link : String) (probe : LinkState)
  | ledgerKeepsLink (link : String)
  | notInstalled (iface addr : String)
  | addressRemains (iface addr : String) (probe : LinkState)
  | enforcementRefused
  | candidateUnreadable
  | candidateLinkKept (iface : String) (prior now : LinkState)
  | candidateLinkNotDeleted (iface : String)
  | survivorsNotRecorded
  /-- `_backlog_warning`: this many removals have piled up. -/
  | backlog (count : ℕ)
  deriving DecidableEq, Repr

/-- One key of the settings table inside a state; a value that is not text reads as `none`. -/
structure Slot (σ V : Type) where
  key : String
  get : σ → Option V
  put : V → σ → σ

section Records

variable {σ V : Type} [DecidableEq V]

/-- `_store_get`: the value at a key, or nothing when the store will not answer. -/
def storeGet (slot : Slot σ V) : Prog Answer σ Raised (Option (Option V)) := do
  let reply ← Prog.ask
  let s ← Prog.read
  pure (if reply.said then some (slot.get s) else none)

/-- `read_record`: the content, or unknown. -/
def readRecord (slot : Slot σ V) : Prog Answer σ Raised (Option V) := do
  let value ← storeGet slot
  pure value.join

/-- The read-back half of `_verified_write`. -/
def provenWrite (slot : Slot σ V) (value : V) : Prog Answer σ Raised (Option Why) := do
  match ← readRecord slot with
  | none => pure (some (.notReadBack slot.key))
  | some held => pure (if held = value then none else some (.notHeld slot.key))

/-- `set_setting`: the write lands or not, and raises or not; the answer is whether it raised. -/
def setSetting (slot : Slot σ V) (value : V) : Prog Answer σ Raised Bool := do
  let reply ← Prog.ask
  Prog.update fun s => if reply.took then slot.put value s else s
  pure reply.said

/-- `_verified_write`, `write_record`: write, then prove it by reading it back. -/
def writeRecord (slot : Slot σ V) (value : V) : Prog Answer σ Raised (Option Why) := do
  match ← setSetting slot value with
  | false => pure (some (.notWritten slot.key))
  | true => provenWrite slot value

/-- `_blank`: a best-effort write of a record whose meaning is settled. -/
def blank (slot : Slot σ V) (empty : V) : Prog Answer σ Raised Unit := do
  let _ ← setSetting slot empty
  pure ()

/-- `clear_record` with a terminal form: the form is proven, the blanking is best effort. -/
def clearRecord (slot : Slot σ V) (terminal empty : V) : Prog Answer σ Raised (Option Why) := do
  match ← writeRecord slot terminal with
  | some why => pure (some why)
  | none =>
    blank slot empty
    pure none

end Records

/-- A set record: its lines and those of its write-ahead journal; `none` is not text. -/
structure Ledger where
  (held journal : Option (List String))
  deriving DecidableEq, Repr

/-- A ledger that was never written. -/
def Ledger.empty : Ledger := ⟨some [], some []⟩

/-- The record itself, under its key. -/
def heldSlot (key : String) : Slot Ledger (List String) where
  key := key
  get := Ledger.held
  put := fun lines ledger => { ledger with held := some lines }

/-- `_journal_key`: where the complete content goes before the record is replaced. -/
def journalSlot (key : String) : Slot Ledger (List String) where
  key := key ++ "_journal"
  get := Ledger.journal
  put := fun lines ledger => { ledger with journal := some lines }

/-- `read_set`: the record and its journal as one, or unknown when either half is. -/
def readSet (key : String) : Prog Answer Ledger Raised (Option (List String)) := do
  match ← readRecord (heldSlot key) with
  | none => pure none
  | some held =>
    match ← readRecord (journalSlot key) with
    | none => pure none
    | some journalled => pure (some (held ++ journalled).eraseDups)

/-- What `write_set` expects to read back: the stripped entries, without blanks or repeats. -/
def expected (entries : List String) : List String :=
  ((entries.map stripText).filter fun entry => entry ≠ "").eraseDups

variable {entries : List String}

theorem mem_expected_iff {line : String} :
    line∈expected entries ↔ line ≠ "" ∧ ∃ entry∈entries, stripText entry=line := by
  rw [expected,List.mem_eraseDups,List.mem_filter,List.mem_map,decide_eq_true_eq,and_comm]

/-- Entries that are stripped and not blank are expected back as they are. -/
theorem mem_expected
    (hclean : ∀ entry∈entries, stripText entry=entry ∧ entry ≠ "") (line : String) :
    line∈expected entries ↔ line∈entries := by
  rw [mem_expected_iff]
  constructor
  · rintro ⟨_,entry,hentry,rfl⟩
    rw [(hclean entry hentry).1]
    exact hentry
  · intro hline
    exact ⟨(hclean line hline).2,line,hline,(hclean line hline).1⟩

/-- The replacing half of `write_set`, run once the journal is proven. -/
def replaceHeld (key : String) (expect : List String) : Prog Answer Ledger Raised (Option Why) := do
  match ← writeRecord (heldSlot key) expect with
  | some why => pure (some why)
  | none =>
    blank (journalSlot key) []
    pure none

/-- `write_set`: journal the complete content, replace the record, then blank the journal. -/
def writeSet (key : String) (entries : List String) : Prog Answer Ledger Raised (Option Why) := do
  let expect := expected entries
  match ← writeRecord (journalSlot key) expect with
  | some why => pure (some why)
  | none => replaceHeld key expect

section RecordSpecs

variable {σ V : Type} {A : Answer → Prop} {slot : Slot σ V} {value : V} {s : σ} {E : σ → Prop}

/-- A write either landed or it did not. -/
def Written (slot : Slot σ V) (value : V) (s t : σ) : Prop := t = s ∨ t = slot.put value s

theorem storeGet_meets : Meets A (storeGet slot) s (fun t => t=s) E
    fun got t => t=s ∧ (got=none ∨ got=some (slot.get s)) := by
  refine .ask_bind rfl fun reply _ => .read_bind (.pure ⟨rfl,?_⟩)
  by_cases h : reply.said=true
  · rw [if_pos h]
    exact .inr rfl
  · rw [if_neg h]
    exact .inl rfl

theorem readRecord_meets : Meets A (readRecord slot) s (fun t => t=s) E
    fun got t => t=s ∧ (got=none ∨ got=slot.get s) := by
  refine storeGet_meets.bind fun got t ht => .pure ⟨ht.1,?_⟩
  obtain ⟨_,h | h⟩ := ht
  · exact .inl (by rw [h]; rfl)
  · exact .inr (by rw [h]; rfl)

theorem setSetting_meets : Meets A (setSetting slot value) s (Written slot value s) E
    fun _ t => Written slot value s t := by
  refine .ask_bind (.inl rfl) fun reply _ => .update_bind (.pure ?_)
  by_cases h : reply.took=true
  · rw [if_pos h]
    exact .inr rfl
  · rw [if_neg h]
    exact .inl rfl

theorem blank_meets {empty : V} : Meets A (blank slot empty) s (Written slot empty s) E
    fun _ t => Written slot empty s t :=
  setSetting_meets.bind fun _ _ ht => .pure ht

variable [DecidableEq V]

theorem provenWrite_meets : Meets A (provenWrite slot value) s (fun t => t=s) E
    fun why t => t=s ∧ (why=none → slot.get s=some value) := by
  refine readRecord_meets.bind fun got t ht => ?_
  obtain ⟨rfl,hgot⟩ := ht
  cases got with
  | none => exact .pure ⟨rfl,nofun⟩
  | some held =>
    refine .pure ⟨rfl,fun h => ?_⟩
    have hsame : held=value := by
      by_contra hne
      rw [if_neg hne] at h
      cases h
    have hheld : some held=slot.get t := hgot.resolve_left (by simp)
    rw [← hheld,hsame]

theorem writeRecord_meets : Meets A (writeRecord slot value) s (Written slot value s) E
    fun why t => Written slot value s t ∧ (why=none → slot.get t=some value) := by
  refine setSetting_meets.bind fun said t ht => ?_
  cases said with
  | false => exact .pure ⟨ht,nofun⟩
  | true =>
    refine provenWrite_meets.mono (fun u hu => ?_) (fun _ h => h) fun why u hu => ?_
    · rw [hu]
      exact ht
    · rw [hu.1]
      exact ⟨ht,hu.2⟩

end RecordSpecs

section LedgerSpecs

variable {A : Answer → Prop} {key : String} {entries expect : List String} {ledger : Ledger}
variable {E : Ledger → Prop}

/-- A line that reading the record and its journal as one would find. -/
def Ledger.Holds (ledger : Ledger) (line : String) : Prop :=
  line ∈ ledger.held.getD [] ∨ line ∈ ledger.journal.getD []

/-- What may have become of a ledger while it is replaced: it is as it was or it holds all the
wanted lines, and no other line appears. -/
structure Rewritten (expect : List String) (ledger after : Ledger) : Prop where
  whole : after = ledger ∨ ∀ line ∈ expect, after.Holds line
  only : ∀ line, after.Holds line → ledger.Holds line ∨ line ∈ expect

theorem Rewritten.refl : Rewritten expect ledger ledger :=
  ⟨.inl rfl,fun _ h => .inl h⟩

theorem Rewritten.of_journal : Rewritten expect ledger ((journalSlot key).put expect ledger) where
  whole := .inr fun _ hw => .inr hw
  only := fun _ h => h.elim (fun hh => .inl (.inl hh)) .inr

theorem Rewritten.of_held : Rewritten expect ledger ((heldSlot key).put expect ledger) where
  whole := .inr fun _ hw => .inl hw
  only := fun _ h => h.elim .inr fun hj => .inl (.inr hj)

theorem Rewritten.trans {middle after : Ledger} (h : Rewritten expect ledger middle)
    (h' : Rewritten expect middle after) : Rewritten expect ledger after where
  whole := by
    rcases h'.whole with rfl | hall
    · exact h.whole
    · exact .inr hall
  only := fun line ha => (h'.only line ha).elim (h.only line) .inr

/-- A set that is read names exactly the lines of the record and its journal. -/
theorem readSet_meets : Meets A (readSet key) ledger (fun t => t=ledger) E fun got t => t=ledger ∧
      (got=none ∨ ∃ lines, got=some lines ∧ ∀ line, line∈lines ↔ ledger.Holds line) := by
  refine readRecord_meets.bind fun got t ht => ?_
  obtain ⟨rfl,hgot⟩ := ht
  cases got with
  | none => exact .pure ⟨rfl,.inl rfl⟩
  | some held =>
    have hheld : some held=t.held := hgot.resolve_left (by simp)
    refine readRecord_meets.bind fun got u hu => ?_
    obtain ⟨rfl,hgot⟩ := hu
    cases got with
    | none => exact .pure ⟨rfl,.inl rfl⟩
    | some journalled =>
      have hjour : some journalled=u.journal := hgot.resolve_left (by simp)
      refine .pure ⟨rfl,.inr ⟨_,rfl,fun line => ?_⟩⟩
      rw [List.mem_eraseDups,List.mem_append,Ledger.Holds,← hheld,← hjour]
      rfl

theorem replaceHeld_meets (hjour : ledger.journal=some expect) :
    Meets A (replaceHeld key expect) ledger (Rewritten expect ledger) E
      fun why t => Rewritten expect ledger t ∧
        (why=none → ∀ line, t.Holds line ↔ line∈expect) := by
  have hstops (t : Ledger) (ht : Written (heldSlot key) expect ledger t) :
      Rewritten expect ledger t := by
    obtain rfl | rfl := ht
    · exact .refl
    · exact .of_held
  refine (writeRecord_meets.weaken hstops fun _ h => h).bind fun why t ht => ?_
  cases why with
  | some why => exact .pure ⟨hstops t ht.1,nofun⟩
  | none =>
    have hheld : t.held=some expect := ht.2 rfl
    have htj : t.journal=some expect := by
      obtain rfl | rfl := ht.1
      · exact hjour
      · exact hjour
    have hexact (u : Ledger) (hu : Written (journalSlot key) [] t u) (line : String) :
        u.Holds line ↔ line∈expect := by
      obtain rfl | rfl := hu
      · simp [Ledger.Holds,hheld,htj]
      · simp [Ledger.Holds,journalSlot,hheld]
    have hlast (u : Ledger) (hu : Written (journalSlot key) [] t u) : Rewritten expect ledger u :=
      ⟨.inr fun line hw => (hexact u hu line).mpr hw,
        fun line hl => .inr ((hexact u hu line).mp hl)⟩
    refine (blank_meets.weaken hlast fun _ h => h).bind fun _ u hu => ?_
    exact .pure ⟨hlast u hu,fun _ => hexact u hu⟩

/-- Whatever becomes of a replacement, no line that stays wanted is lost; a replacement that
reports no reason leaves exactly the wanted lines. -/
theorem writeSet_meets : Meets A (writeSet key entries) ledger
    (Rewritten (expected entries) ledger) E fun why t => Rewritten (expected entries) ledger t ∧
        (why=none → ∀ line, t.Holds line ↔ line∈expected entries) := by
  have hstops (t : Ledger) (ht : Written (journalSlot key) (expected entries) ledger t) :
      Rewritten (expected entries) ledger t := by
    obtain rfl | rfl := ht
    · exact .refl
    · exact .of_journal
  refine (writeRecord_meets.weaken hstops fun _ h => h).bind fun why t ht => ?_
  cases why with
  | some why => exact .pure ⟨hstops t ht.1,nofun⟩
  | none =>
    have hfst := hstops t ht.1
    exact (replaceHeld_meets (ht.2 rfl)).mono (fun _ h => hfst.trans h) (fun _ h => h)
      fun _ _ h => ⟨hfst.trans h.1,h.2⟩

end LedgerSpecs

end PiGwPanel.DurableRecords
