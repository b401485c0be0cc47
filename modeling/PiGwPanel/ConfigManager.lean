import PiGwPanel.AnsweredProgram

/-!
# The on-disk live config, its last-good snapshot and the rollback marker

`xray_config/validate.py` keeps three files: the live config, the config it
replaced, and a provenance marker that pairs the two by content digest. Every
write is a temp file followed by a rename, so a write happens whole or not at
all. A ghost history of the live file records which call put each config there
and what it replaced; no modelled function reads it.
-/

namespace PiGwPanel.ConfigManager

open AnsweredProgram

/-- What a config file holds when it is opened and parsed. -/
inductive FileText (Cfg : Type) where
  | absent
  | damaged
  | holds (cfg : Cfg)
  deriving DecidableEq, Repr

/-- Contents of the provenance sidecar. -/
inductive Marker (Dig : Type) where
  /-- The snapshot with the first digest was replaced by the config with the second. -/
  | pairing (lastgood live : Dig)
  /-- The marker was deliberately neutralised. -/
  | invalidated
  deriving DecidableEq, Repr

/-- Which call wrote the live config. -/
inductive WriteKind where
  | apply
  | irreversible
  | rollback
  deriving DecidableEq, Repr

/-- One completed write of the live config. -/
structure LiveWrite (Cfg : Type) where
  /-- The call that wrote. -/
  kind : WriteKind
  /-- What the file held immediately before. -/
  before : FileText Cfg
  /-- What it holds since. -/
  after : Cfg
  deriving DecidableEq, Repr

/-- The three files and the history of the live one, newest write first. -/
structure Disk (Cfg Dig : Type) where
  /-- The config xray is started on. -/
  live : FileText Cfg
  /-- The snapshot a rollback would promote. -/
  lastgood : FileText Cfg
  /-- The provenance sidecar; a missing or unreadable one is `none`. -/
  marker : Option (Marker Dig)
  /-- Ghost: every completed write of the live file. -/
  history : List (LiveWrite Cfg)
  deriving DecidableEq, Repr

variable {Cfg Dig : Type}

/-- A program over the config files; exceptions carry the text of the failure. -/
abbrev DiskProg (Cfg Dig α : Type) := Prog Reply (Disk Cfg Dig) String α

/-- `validate_config`: the verdict and output of `xray -test`, or a temp file that could
not be written. -/
def validateConfig : DiskProg Cfg Dig (Bool × String) := do
  let reply ← Prog.ask
  if reply.took then pure (reply.said, reply.text) else Prog.raise reply.text

/-- `_write_atomic`: the file is replaced whole and the durability of the rename is
returned, or nothing changed and the failure is raised. -/
def writeAtomic (replace : Disk Cfg Dig → Disk Cfg Dig) : DiskProg Cfg Dig Bool := do
  let reply ← Prog.ask
  if reply.took then do
    Prog.update replace
    pure reply.said
  else Prog.raise reply.text

/-- A write keeps what holds before it and after it, and only returns after it. -/
theorem writeAtomic_safeTo {I : Disk Cfg Dig → Prop} {Q : Bool → Disk Cfg Dig → Prop}
    {A : Reply → Prop} {replace : Disk Cfg Dig → Disk Cfg Dig} {d : Disk Cfg Dig} (hd : I d)
    (hreplace : I (replace d)) (hQ : ∀ durable, Q durable (replace d)) :
    Prog.SafeTo I (writeAtomic replace) d Q A := by
  refine .ask_bind hd fun reply => ?_
  split
  · exact .update_bind (.pure hreplace (hQ _))
  · exact .raise hd

/-- Replace the live config, noting the write in the ghost history. -/
def Disk.withLive (kind : WriteKind) (cfg : Cfg) (d : Disk Cfg Dig) : Disk Cfg Dig :=
  { d with live := .holds cfg, history := ⟨kind, d.live, cfg⟩ :: d.history }

/-- Replace the last-good snapshot. -/
def Disk.withLastgood (cfg : Cfg) (d : Disk Cfg Dig) : Disk Cfg Dig :=
  { d with lastgood := .holds cfg }

/-- Replace or remove the provenance sidecar. -/
def Disk.withMarker (marker : Option (Marker Dig)) (d : Disk Cfg Dig) : Disk Cfg Dig :=
  { d with marker := marker }

/-- `_invalidate_provenance`: unlink the sidecar; a failed unlink is only logged. -/
def invalidateProvenance : DiskProg Cfg Dig Unit := do
  let reply ← Prog.ask
  if reply.gone then Prog.update (Disk.withMarker none) else pure ()

/-- `_invalidate_provenance_durably`: overwrite the sidecar; true only when the rename is
provably durable. -/
def invalidateProvenanceDurably : DiskProg Cfg Dig Bool := do
  match ← Prog.attempt (writeAtomic (Disk.withMarker (some .invalidated))) with
  | .ok durable => pure durable
  | .error _ => pure false

/-- First half of `ConfigManager.apply`: file the config about to be replaced as the
rollback target and pair it with `cfg`, or drop the pairing when it cannot be read. -/
def snapshotLive (digest : Cfg → Dig) (cfg : Cfg) : DiskProg Cfg Dig Unit := do
  match (← Prog.read).live with
  | .holds previous => do
    -- Opening or reading an intact file may raise `OSError` too.
    let reply ← Prog.ask
    if reply.took then do
      let _ ← writeAtomic (Disk.withLastgood previous)
      let _ ← writeAtomic (Disk.withMarker (some (.pairing (digest previous) (digest cfg))))
      pure ()
    else invalidateProvenance
  | .absent => invalidateProvenance
  | .damaged => invalidateProvenance

/-- `ConfigManager.apply`. -/
def apply (digest : Cfg → Dig) (cfg : Cfg) : DiskProg Cfg Dig (Bool × String) := do
  let (ok, out) ← validateConfig
  if !ok then pure (false, out)
  else do
    snapshotLive digest cfg
    let _ ← writeAtomic (Disk.withLive .apply cfg)
    pure (true, out)

/-- Refusal of `apply_irreversible` when the marker may survive. -/
def irreversibleRefusal : String :=
  "refusing to apply: the rollback provenance marker could not be " ++
  "durably invalidated, and this config must not be reversible"

/-- `ConfigManager.apply_irreversible`. -/
def applyIrreversible (cfg : Cfg) : DiskProg Cfg Dig (Bool × String) := do
  let (ok, out) ← validateConfig
  if !ok then pure (false, out)
  else do
    if !(← invalidateProvenanceDurably) then pure (false, irreversibleRefusal)
    else do
      let _ ← writeAtomic (Disk.withLive .irreversible cfg)
      pure (true, out)

/-- `ConfigManager.rollback_target`: the snapshot, when the marker proves that the live
config replaced it. -/
def rollbackTarget [DecidableEq Dig] (digest : Cfg → Dig) (d : Disk Cfg Dig) : Option Cfg :=
  match d.lastgood, d.marker, d.live with
  | .holds lastgood, some (.pairing x y), .holds live =>
    if x = digest lastgood ∧ y = digest live then some lastgood else none
  | _, _, _ => none

/-- `ConfigManager.rollback`. -/
def rollback [DecidableEq Dig] (digest : Cfg → Dig) : DiskProg Cfg Dig Bool := do
  match rollbackTarget digest (← Prog.read) with
  | none => pure false
  | some lastgood => do
    let _ ← writeAtomic (Disk.withLive .rollback lastgood)
    let _ ← writeAtomic (Disk.withMarker (some (.pairing (digest lastgood) (digest lastgood))))
    pure true

/-- `ConfigManager.invalidate_rollback`. -/
def invalidateRollback : DiskProg Cfg Dig Bool := invalidateProvenanceDurably

/-- The calls other code makes on the manager. -/
inductive Call (Cfg : Type) where
  | apply (cfg : Cfg)
  | applyIrreversible (cfg : Cfg)
  | rollback
  | invalidateRollback
  deriving DecidableEq, Repr

/-- The program behind a call, its result forgotten. -/
def Call.program [DecidableEq Dig] (digest : Cfg → Dig) : Call Cfg → DiskProg Cfg Dig Unit
  | .apply cfg => do let _ ← ConfigManager.apply digest cfg
  | .applyIrreversible cfg => do let _ ← ConfigManager.applyIrreversible cfg
  | .rollback => do let _ ← ConfigManager.rollback digest
  | .invalidateRollback => do let _ ← ConfigManager.invalidateRollback

/-- One call with the replies it gets; it may finish, raise or die on the way. -/
def callStep [DecidableEq Dig] (digest : Cfg → Dig) (d : Disk Cfg Dig)
    (event : Call Cfg × List Reply) : Disk Cfg Dig :=
  (event.1.program digest event.2 d).state

end PiGwPanel.ConfigManager
