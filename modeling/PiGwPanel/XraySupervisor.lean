import Mathlib.Data.Int.Notation
import PiGwPanel.AnsweredProgram

/-!
# The supervisor of the xray process

`xray_supervisor/supervisor.py`. The supervisor owns at most one child and keeps
a handle on it, the wish that it runs, and the fingerprint of the config it
loaded. Children die when they like and may outlive every signal, so each
question to the operating system first says who has died by then; the state
keeps every child ever spawned, which is what "one live child" is said about.
-/

namespace PiGwPanel.XraySupervisor

open AnsweredProgram Prog

/-- A process the supervisor has spawned. -/
structure Child (Dig : Type) where
  pid : ℕ
  alive : Bool
  exitCode : Option ℤ
  /-- Ghost: the digest of the config read by the start that spawned it. -/
  read : Option Dig
  deriving DecidableEq, Repr

/-- The supervisor and the processes it has spawned. -/
structure Supervisor (C Dig : Type) where
  /-- Every child so far, in the order they were spawned. -/
  children : List (Child Dig)
  /-- The place of the child the supervisor has its handle on. -/
  proc : Option ℕ
  wantRunning : Bool
  lastExitCode : Option ℤ
  stderrTail : String
  redactionConfig : Option C
  loadedDigest : Option Dig
  /-- Ghost: how often the start guard has answered no. -/
  refusals : ℕ
  deriving DecidableEq, Repr

/-- What reading the config file gives. -/
inductive ConfigRead (C : Type) where
  | object (config : C)
  | notObject
  | unreadable
  | raises (text : String)
  deriving DecidableEq, Repr

/-- What the operating system and the callbacks answer. -/
structure OsReply (C : Type) where
  /-- The children that have died by now, with their exit codes. -/
  deaths : List (ℕ × ℤ)
  /-- What xray has written to its standard error since. -/
  output : String
  /-- The question did not raise. -/
  (said answer : Bool)
  text : String
  config : ConfigRead C
  pid : ℕ
  deriving DecidableEq, Repr

/-- An operation of the supervisor, under its lock. -/
abbrev SupProg (C Dig α : Type) := Prog (OsReply C) (Supervisor C Dig) String α

variable {C Dig : Type}

section Processes

/-- Served instead of output that cannot be redacted. -/
def stderrWithheld : String :=
  "xray's output is withheld: the panel could not read its config, so it cannot redact the " ++
  "secrets that output may quote"

/-- The last characters of a text. -/
def lastChars (limit : ℕ) (text : String) : String :=
  String.ofList (text.toList.drop (text.length - limit))

/-- `_capture_stderr`. -/
def captured (redaction : Option C) (tail chunk : String) : String :=
  if chunk = "" then tail
  else if redaction.isNone then stderrWithheld
  else lastChars 8192 (tail ++ chunk)

/-- A child by the time some have died. -/
def Child.after (deaths : List (ℕ × ℤ)) (place : ℕ) (child : Child Dig) : Child Dig :=
  match deaths.find? fun death => death.1 = place with
  | some death => if child.alive then { child with alive := false, exitCode := some death.2 }
      else child
  | none => child

/-- What has happened by the time of an answer. -/
def observe (reply : OsReply C) (s : Supervisor C Dig) : Supervisor C Dig :=
  { s with
    children := s.children.mapIdx (Child.after reply.deaths)
    stderrTail := captured s.redactionConfig s.stderrTail reply.output }

/-- Ask, and see what has happened by then. -/
def look : SupProg C Dig (OsReply C) := do
  let reply ← Prog.ask
  Prog.update (observe reply)
  pure reply

/-- The child of the handle. -/
def Supervisor.child (s : Supervisor C Dig) : Option (Child Dig) :=
  s.proc.bind fun place => s.children[place]?

/-- The child of the handle is alive. -/
def Supervisor.running (s : Supervisor C Dig) : Bool := (s.child.map Child.alive).getD false

/-- `returncode` of the handle. -/
def Supervisor.exitCode (s : Supervisor C Dig) : Option ℤ := s.child.bind Child.exitCode

/-- `_proc is not None and _proc.poll() is None`; a `wait` with a timeout asks the same. -/
def procAlive : SupProg C Dig Bool := do
  match (← Prog.read).proc with
  | none => pure false
  | some _ => do
    let _ ← look
    pure (← Prog.read).running

/-- `terminate` and `kill`. -/
def signal : SupProg C Dig Unit := do
  let reply ← look
  if reply.said then pure () else Prog.raise reply.text

end Processes

section Start

variable (digest : C → Dig)

/-- Nothing is left of the previous child. -/
def Supervisor.forget (s : Supervisor C Dig) : Supervisor C Dig :=
  { s with proc := none, lastExitCode := none, loadedDigest := none, stderrTail := "" }

/-- The guard answered no. -/
def Supervisor.refuse (s : Supervisor C Dig) : Supervisor C Dig :=
  { s with
    stderrTail := "refusing to start xray: the config on disk still grants access that has been " ++
      "revoked"
    refusals := s.refusals + 1 }

/-- The config about to be loaded: for redaction and for the fingerprint. -/
def readConfig : SupProg C Dig (Option Dig) := do
  let reply ← look
  match reply.config with
  | .object config => do
    Prog.update fun s =>
      { s with redactionConfig := some config, loadedDigest := some (digest config) }
    pure (some (digest config))
  | .notObject => pure none
  | .unreadable => pure none
  | .raises text => Prog.raise text

/-- A new child takes the handle. -/
def Supervisor.adopt (pid : ℕ) (read : Option Dig) (s : Supervisor C Dig) : Supervisor C Dig :=
  { s with
    children := s.children ++ [⟨pid, true, none, read⟩]
    proc := some s.children.length }

/-- No child came of the spawn. -/
def Supervisor.unspawned (text : String) (s : Supervisor C Dig) : Supervisor C Dig :=
  { s with proc := none, loadedDigest := none, stderrTail := text }

/-- `Popen` and the thread that reads the child's output. -/
def spawn (read : Option Dig) : SupProg C Dig Unit := do
  let reply ← look
  if !reply.said then Prog.raise reply.text
  else if !reply.answer then Prog.update (Supervisor.unspawned reply.text)
  else do
    Prog.update (Supervisor.adopt reply.pid read)
    let thread ← look
    if thread.said then pure () else Prog.raise thread.text

/-- The part of `start` for a child that is not there. -/
def launch : SupProg C Dig Unit := do
  let guard ← look
  if !guard.said then Prog.raise guard.text
  else if !guard.answer then Prog.update Supervisor.refuse
  else do
    let read ← readConfig digest
    spawn read

/-- `start`. -/
def start : SupProg C Dig Unit := do
  Prog.update fun s => { s with wantRunning := true }
  let alive ← procAlive
  if alive then pure ()
  else do
    Prog.update Supervisor.forget
    launch digest

end Start

section Stop

/-- Signals and waits; whether the child outlived them. -/
def survivesSignals : SupProg C Dig Bool := do
  let alive ← procAlive
  if !alive then pure false
  else do
    signal
    let afterTerm ← procAlive
    if !afterTerm then pure false
    else do
      signal
      procAlive

/-- A confirmed stop. -/
def Supervisor.reaped (s : Supervisor C Dig) : Supervisor C Dig :=
  { s with
    lastExitCode := if s.proc.isSome then s.exitCode else s.lastExitCode
    proc := none
    loadedDigest := none }

/-- `_stop_child`. -/
def stopChild : SupProg C Dig Bool := do
  let survived ← survivesSignals
  if survived then pure false
  else do
    Prog.update Supervisor.reaped
    pure true

/-- `stop`. -/
def stop : SupProg C Dig Bool := do
  Prog.update fun s => { s with wantRunning := false }
  stopChild

end Stop

section Reload

variable (digest : C → Dig) (readyCheck : Bool)

/-- The child that did not become ready is stopped. -/
def giveUp : SupProg C Dig Bool := do
  let _ ← stopChild
  pure false

/-- The exit code of a dead child is kept. -/
def Supervisor.noteExit (s : Supervisor C Dig) : Supervisor C Dig :=
  { s with lastExitCode := s.exitCode }

/-- The polls of `_wait_ready`, each of which sleeps. -/
def waitRounds : ℕ → SupProg C Dig Bool
  | 0 => giveUp
  | rounds + 1 => do
    let clock ← look
    if clock.answer then giveUp
    else do
      let alive ← procAlive
      if !alive then do
        Prog.update Supervisor.noteExit
        pure false
      else do
        let ready ← look
        if ready.said && ready.answer then pure true else waitRounds rounds

/-- Polls that fit in `READY_TIMEOUT`. -/
def readyRounds : ℕ := 40

/-- `_wait_ready`. -/
def waitReady : SupProg C Dig Bool := do
  match (← Prog.read).proc with
  | none => pure false
  | some _ => if readyCheck then waitRounds readyRounds else procAlive

/-- `reload`. -/
def reload : SupProg C Dig Bool := do
  let stopped ← stop
  if !stopped then pure false
  else do
    start digest
    waitReady readyCheck

/-- `reload_if_running`. -/
def reloadIfRunning : SupProg C Dig (Option Bool) := do
  let alive ← procAlive
  if !alive then pure none
  else do
    let up ← reload digest readyCheck
    pure (some up)

/-- `SupervisorStatus`. -/
structure SupervisorStatus (Dig : Type) where
  running : Bool
  pid : Option ℕ
  lastExitCode : Option ℤ
  (lastError stderrTail : String)
  loadedConfigDigest : Option Dig
  deriving DecidableEq, Repr

/-- `status`; `scrub` takes the secrets of a config out of a text. -/
def status (scrub : String → Option C → String) : SupProg C Dig (SupervisorStatus Dig) := do
  let running ← procAlive
  Prog.update fun s => if s.proc.isSome && !running then s.noteExit else s
  let s ← Prog.read
  pure { running := running
         pid := if running then s.child.map Child.pid else none
         lastExitCode := s.lastExitCode
         lastError := scrub s.stderrTail s.redactionConfig
         stderrTail := scrub s.stderrTail s.redactionConfig
         loadedConfigDigest := s.loadedDigest }

end Reload

section Invariant

/-! ### What every step keeps -/

/-- The live child is the one of the handle, and what is said to be loaded is what it read. -/
structure Sound (s : Supervisor C Dig) : Prop where
  sole : ∀ (place : ℕ) (child : Child Dig), s.children[place]? = some child → child.alive = true →
    s.proc = some place
  loaded : ∀ (place : ℕ) (child : Child Dig), s.children[place]? = some child → child.alive = true →
    s.loadedDigest = none ∨ s.loadedDigest = child.read

/-- No child is alive. -/
def Idle (s : Supervisor C Dig) : Prop :=
  ∀ (place : ℕ) (child : Child Dig), s.children[place]? = some child → child.alive = false

/-- A step that spawned nothing and was refused nothing. -/
structure Kept (s t : Supervisor C Dig) : Prop where
  sound : Sound t
  refusals : t.refusals = s.refusals
  count : t.children.length = s.children.length

/-- A step that spawned nothing or was refused nothing. -/
structure Launched (s t : Supervisor C Dig) : Prop where
  sound : Sound t
  once : t.refusals = s.refusals ∨ t.children.length = s.children.length

variable {s t u : Supervisor C Dig}

theorem Kept.refl (h : Sound s) : Kept s s := ⟨h,rfl,rfl⟩

theorem Kept.launched (h : Kept s t) : Launched s t := ⟨h.sound,.inl h.refusals⟩

theorem Launched.kept (h : Launched s t) (hkept : Kept t u) : Launched s u := by
  refine ⟨hkept.sound,?_⟩
  rw [hkept.refusals,hkept.count]
  exact h.once

theorem Idle.sound (h : Idle s) : Sound s := by
  constructor
  · intro place child hchild halive
    rw [h place child hchild] at halive
    cases halive
  · intro place child hchild halive
    rw [h place child hchild] at halive
    cases halive

/-- A dead handle leaves no child alive. -/
theorem Sound.idle (h : Sound s) (hdead : s.running=false) : Idle s := by
  intro place child hchild
  cases halive : child.alive with
  | false => rfl
  | true =>
    have hproc := h.sole place child hchild halive
    simp [Supervisor.running,Supervisor.child,hproc,hchild,halive] at hdead

theorem after_of_alive {deaths : List (ℕ × ℤ)} {place : ℕ} {child : Child Dig}
    (h : (child.after deaths place).alive=true) : child.after deaths place=child := by
  unfold Child.after at h ⊢
  split at h
  · split at h
    · cases h
    next hdead =>
      exact absurd h hdead
  · rfl

/-- Deaths only ever take children away. -/
theorem alive_before_observe {reply : OsReply C} {place : ℕ} {child : Child Dig}
    (hchild : (observe reply s).children[place]? = some child) (halive : child.alive=true) :
    s.children[place]? = some child := by
  have hmapped : (s.children[place]?).map (Child.after reply.deaths place)=some child := by
    rw [← hchild]
    exact List.getElem?_mapIdx.symm
  obtain ⟨before,hpre,rfl⟩ := Option.map_eq_some_iff.mp hmapped
  rw [after_of_alive halive,hpre]

theorem Sound.observe (h : Sound s) (reply : OsReply C) : Sound (observe reply s) := by
  constructor
  · intro place child hchild halive
    exact h.sole place child (alive_before_observe hchild halive) halive
  · intro place child hchild halive
    exact h.loaded place child (alive_before_observe hchild halive) halive

theorem Idle.observe (h : Idle s) (reply : OsReply C) : Idle (observe reply s) := by
  intro place child hchild
  cases halive : child.alive with
  | false => rfl
  | true =>
    have hpre := h place child (alive_before_observe hchild halive)
    rw [halive] at hpre
    cases hpre

theorem Kept.observe (h : Kept s t) (reply : OsReply C) : Kept s (observe reply t) := by
  refine ⟨h.sound.observe reply,h.refusals,?_⟩
  rw [← h.count]
  exact List.length_mapIdx

end Invariant

section Steps

/-! ### The operations step by step -/

variable {digest : C → Dig} {entry s : Supervisor C Dig}

section Order

variable {α : Type} {m : SupProg C Dig α} {P : α → Supervisor C Dig → Prop}

/-- What spawns nothing may come before a launch, -/
theorem safe_before (hm : SafeTo (Kept entry) m s P) :
    SafeTo (Launched entry) m s fun value t => Kept entry t ∧ P value t :=
  Prog.Meets.mono hm (fun _ => Kept.launched) (fun _ => Kept.launched)
    fun _ _ hv => ⟨hv.1.launched,hv⟩

/-- and after one. -/
theorem safe_after (h : Launched entry s) (hm : SafeTo (Kept s) m s P) :
    SafeTo (Launched entry) m s P :=
  Prog.Meets.mono hm (fun _ => h.kept) (fun _ => h.kept) fun _ _ hv => ⟨h.kept hv.1,hv.2⟩

end Order

section

variable (h : Kept entry s)

include h

theorem look_safe : SafeTo (Kept entry) look s fun reply t => t=observe reply s :=
  .ask_bind h fun reply =>
    .update_bind (.pure (h.observe reply) rfl)

/-- The answer is the truth at that moment. -/
theorem procAlive_safe : SafeTo (Kept entry) procAlive s fun alive t => t.running=alive := by
  refine .read_bind ?_
  cases hproc : s.proc with
  | none =>
    refine .pure h ?_
    simp [Supervisor.running,Supervisor.child,hproc]
  | some place =>
    exact (look_safe h).bind fun reply t ht _ => .read_bind (.pure ht rfl)

theorem signal_safe : SafeTo (Kept entry) signal s fun _ _ => True := by
  refine (look_safe h).bind fun reply t ht _ => ?_
  split
  · exact .pure ht trivial
  · exact .raise ht

/-- A stop that counts as done has seen the child dead. -/
theorem survivesSignals_safe : SafeTo (Kept entry) survivesSignals s fun survived t =>
      survived=false → t.running=false := by
  refine (procAlive_safe h).bind fun alive t ht halive => ?_
  cases alive with
  | false => exact .pure ht fun _ => halive
  | true =>
    refine (signal_safe ht).bind fun _ u hu _ => ?_
    refine (procAlive_safe hu).bind fun afterTerm v hv hafter => ?_
    cases afterTerm with
    | false => exact .pure hv fun _ => hafter
    | true =>
      refine (signal_safe hv).bind fun _ w hw _ => ?_
      exact (procAlive_safe hw).mono fun survived x _ hx hfalse => hfalse ▸ hx

theorem stopChild_safe : SafeTo (Kept entry) stopChild s fun _ _ => True := by
  refine (survivesSignals_safe h).bind fun survived t ht hdead => ?_
  cases survived with
  | true => exact .pure ht trivial
  | false =>
    have hidle : Idle t.reaped := ht.sound.idle (hdead rfl)
    exact .update_bind (.pure ⟨hidle.sound,ht.refusals,ht.count⟩ trivial)

theorem stop_safe : SafeTo (Kept entry) stop s fun _ _ => True :=
  .update_bind (stopChild_safe ⟨⟨h.sound.sole,h.sound.loaded⟩,h.refusals,h.count⟩)

/-- After reading its config a start knows what the child will load. -/
theorem readConfig_safe (hidle : Idle s) (hnone : s.loadedDigest=none) :
    SafeTo (Kept entry) (readConfig digest) s fun read t =>
      Idle t ∧ t.loadedDigest=read := by
  refine (look_safe h).bind fun reply t ht hseen => ?_
  have hidle' : Idle t := hseen ▸ hidle.observe reply
  have hnone' : t.loadedDigest=none := by
    rw [hseen]
    exact hnone
  cases reply.config with
  | object config =>
    have hread : Idle { t with redactionConfig := some config
                               loadedDigest := some (digest config) } := hidle'
    exact .update_bind (.pure ⟨hread.sound,ht.refusals,ht.count⟩ ⟨hread,rfl⟩)
  | notObject => exact .pure ht ⟨hidle',hnone'⟩
  | unreadable => exact .pure ht ⟨hidle',hnone'⟩
  | raises text => exact .raise ht

end

/-- A spawn with no child alive leaves exactly one. -/
theorem Idle.adopt (h : Idle s) {read : Option Dig} (hread : s.loadedDigest=read) (pid : ℕ) :
    Sound (s.adopt pid read) := by
  have hnew {place : ℕ} {child : Child Dig}
      (hchild : (s.adopt pid read).children[place]? = some child) (halive : child.alive=true) :
      place=s.children.length ∧ child.read=read := by
    change (s.children++[(⟨pid,true,none,read⟩ : Child Dig)])[place]? = some child at hchild
    rcases Nat.lt_or_ge place s.children.length with hold | hplace
    · rw [List.getElem?_append_left hold] at hchild
      rw [h place child hchild] at halive
      cases halive
    · rw [List.getElem?_append_right hplace,List.getElem?_singleton] at hchild
      split at hchild
      next hzero =>
        refine ⟨by omega,?_⟩
        rw [← Option.some.inj hchild]
      · cases hchild
  constructor
  · intro place child hchild halive
    rw [(hnew hchild halive).1]
    rfl
  · intro place child hchild halive
    right
    rw [(hnew hchild halive).2]
    exact hread

section

variable (h : Kept entry s)

include h

/-- A spawn with no child alive leaves at most the new one, also when it raises. -/
theorem spawn_safe {read : Option Dig} (hidle : Idle s) (hread : s.loadedDigest=read) :
    SafeTo (Launched entry) (spawn read) s fun _ _ => True := by
  refine (safe_before (look_safe h)).bind fun reply t _ hlooked => ?_
  obtain ⟨ht,hseen⟩ := hlooked
  have hidle' : Idle t := hseen ▸ hidle.observe reply
  cases reply.said with
  | false => exact .raise ht.launched
  | true =>
    cases reply.answer with
    | false =>
      have hgone : Idle (t.unspawned reply.text) := hidle'
      exact .update ⟨hgone.sound,.inl ht.refusals⟩ trivial
    | true =>
      have hloaded : t.loadedDigest=read := by
        rw [hseen]
        exact hread
      have hadopted : Launched entry (t.adopt reply.pid read) :=
        ⟨hidle'.adopt hloaded reply.pid,.inl ht.refusals⟩
      refine .update_bind ?_
      refine (safe_after hadopted (look_safe (Kept.refl hadopted.sound))).bind
        fun thread u hlater _ => ?_
      split
      · exact .pure hlater trivial
      · exact .raise hlater

theorem launch_safe (hidle : Idle s) (hnone : s.loadedDigest=none) :
    SafeTo (Launched entry) (launch digest) s fun _ _ => True := by
  refine (safe_before (look_safe h)).bind fun guard t _ hlooked => ?_
  obtain ⟨ht,hseen⟩ := hlooked
  have hidle' : Idle t := hseen ▸ hidle.observe guard
  have hnone' : t.loadedDigest=none := by
    rw [hseen]
    exact hnone
  cases guard.said with
  | false => exact .raise ht.launched
  | true =>
    cases guard.answer with
    | false =>
      have hrefused : Idle t.refuse := hidle'
      exact .update ⟨hrefused.sound,.inr ht.count⟩ trivial
    | true =>
      refine (safe_before (readConfig_safe ht hidle' hnone')).bind fun read u _ hready => ?_
      obtain ⟨hu,hdead,hread⟩ := hready
      exact spawn_safe hu hdead hread

/-- A start spawns once at most, and nothing after a refusal. -/
theorem start_safe : SafeTo (Launched entry) (start digest) s fun _ _ => True := by
  refine .update_bind ?_
  have hwanted : Kept entry { s with wantRunning := true } :=
    ⟨⟨h.sound.sole,h.sound.loaded⟩,h.refusals,h.count⟩
  refine (safe_before (procAlive_safe hwanted)).bind fun alive t _ hpolled => ?_
  obtain ⟨ht,hrunning⟩ := hpolled
  cases alive with
  | true => exact .pure ht.launched trivial
  | false =>
    have hidle : Idle t.forget := ht.sound.idle hrunning
    exact .update_bind (launch_safe ⟨hidle.sound,ht.refusals,ht.count⟩ hidle rfl)

theorem giveUp_safe : SafeTo (Kept entry) giveUp s fun _ _ => True :=
  (stopChild_safe h).bind fun _ _ ht _ => .pure ht trivial

end

theorem Kept.noteExit {t : Supervisor C Dig} (h : Kept entry t) : Kept entry t.noteExit :=
  ⟨⟨h.sound.sole,h.sound.loaded⟩,h.refusals,h.count⟩

theorem waitRounds_safe (rounds : ℕ) (h : Kept entry s) :
    SafeTo (Kept entry) (waitRounds rounds) s fun _ _ => True := by
  induction rounds generalizing s with
  | zero => exact giveUp_safe h
  | succ rounds ih =>
    refine (look_safe h).bind fun clock t ht _ => ?_
    split
    · exact giveUp_safe ht
    · refine (procAlive_safe ht).bind fun alive u hu _ => ?_
      cases alive with
      | false => exact .update_bind (.pure hu.noteExit trivial)
      | true =>
        refine (look_safe hu).bind fun ready v hv _ => ?_
        split
        · exact .pure hv trivial
        · exact ih hv

theorem waitReady_safe (readyCheck : Bool) (h : Kept entry s) :
    SafeTo (Kept entry) (waitReady readyCheck) s fun _ _ => True := by
  refine .read_bind ?_
  cases s.proc with
  | none => exact .pure h trivial
  | some place =>
    dsimp only
    split
    · exact waitRounds_safe readyRounds h
    · exact (procAlive_safe h).mono fun _ _ _ _ => trivial

theorem reload_safe (readyCheck : Bool) (h : Kept entry s) :
    SafeTo (Launched entry) (reload digest readyCheck) s fun _ _ => True := by
  refine (safe_before (stop_safe h)).bind fun stopped t _ hstopped => ?_
  cases stopped with
  | false => exact .pure hstopped.1.launched trivial
  | true =>
    refine (start_safe hstopped.1).bind fun _ u hu _ => ?_
    exact safe_after hu (waitReady_safe readyCheck (Kept.refl hu.sound))

theorem reloadIfRunning_safe (readyCheck : Bool) (h : Kept entry s) :
    SafeTo (Launched entry) (reloadIfRunning digest readyCheck) s fun _ _ => True := by
  refine (safe_before (procAlive_safe h)).bind fun alive t _ hpolled => ?_
  cases alive with
  | false => exact .pure hpolled.1.launched trivial
  | true =>
    exact (reload_safe readyCheck hpolled.1).bind fun _ _ hu _ => .pure hu trivial

/-- What a status reports is the digest it holds at its end. -/
theorem status_safe (scrub : String → Option C → String) (h : Kept entry s) :
    SafeTo (Kept entry) (status scrub) s fun report t =>
      report.loadedConfigDigest=t.loadedDigest := by
  refine (procAlive_safe h).bind fun running t ht _ => ?_
  refine .update_bind (.read_bind (.pure ?_ rfl))
  split
  · exact ht.noteExit
  · exact ht

end Steps

section Lifecycle

/-! ### Every sequence of calls -/

/-- The calls of the supervisor's interface. -/
inductive Call where
  | start
  | stop
  | reload
  | reloadIfRunning
  | status
  deriving DecidableEq, Repr

variable (digest : C → Dig) (readyCheck : Bool) (scrub : String → Option C → String)

/-- A call, without its result. -/
def perform : Call → SupProg C Dig Unit
  | .start => start digest
  | .stop => do
    let _ ← stop
    pure ()
  | .reload => do
    let _ ← reload digest readyCheck
    pure ()
  | .reloadIfRunning => do
    let _ ← reloadIfRunning digest readyCheck
    pure ()
  | .status => do
    let _ ← status scrub
    pure ()

/-- The state after a call, or at the point its answers end. -/
def afterCall (s : Supervisor C Dig) (call : Call × List (OsReply C)) : Supervisor C Dig :=
  (perform digest readyCheck scrub call.1 call.2 s).state

/-- A new supervisor. -/
def initial : Supervisor C Dig := ⟨[], none, false, none, "", none, none, 0⟩

variable {digest readyCheck scrub} {s : Supervisor C Dig}

theorem perform_safe (h : Sound s) (call : Call) :
    SafeTo (Launched s) (perform digest readyCheck scrub call) s fun _ _ => True := by
  have hs := Kept.refl h
  cases call with
  | start => exact start_safe hs
  | stop => exact (safe_before (stop_safe hs)).bind fun _ _ ht _ => .pure ht trivial
  | reload => exact (reload_safe readyCheck hs).bind fun _ _ ht _ => .pure ht trivial
  | reloadIfRunning =>
    exact (reloadIfRunning_safe readyCheck hs).bind fun _ _ ht _ => .pure ht trivial
  | status => exact (safe_before (status_safe scrub hs)).bind fun _ _ ht _ => .pure ht trivial

/-- `reload_if_running` asks first whether the child lives, and spawns nothing otherwise. -/
theorem running_of_reload_spawns {replies : List (OsReply C)}
    (hspawned : (afterCall digest readyCheck scrub s (.reloadIfRunning, replies)).children.length ≠
      s.children.length) :
    ∃ reply rest, replies=reply::rest ∧ (observe reply s).running=true := by
  cases hproc : s.proc with
  | none =>
    refine absurd ?_ hspawned
    simp [afterCall,perform,reloadIfRunning,procAlive,hproc,Bind.bind,andThen,Prog.read,
      Pure.pure,ret]
  | some place =>
    cases replies with
    | nil =>
      refine absurd ?_ hspawned
      simp [afterCall,perform,reloadIfRunning,procAlive,look,hproc,Bind.bind,andThen, Prog.read,ask]
    | cons reply rest =>
      refine ⟨reply,rest,rfl,by_contra fun hdead => hspawned ?_⟩
      have hlen : (observe reply s).children.length=s.children.length := List.length_mapIdx
      simp [afterCall,perform,reloadIfRunning,procAlive,look,hproc,Bind.bind,andThen,
        Prog.read,ask,update,Pure.pure,ret,hdead,hlen]

/-- Over every run of calls, wherever each was cut short. -/
theorem sound_run (calls : List (Call × List (OsReply C))) :
    Sound (run (afterCall digest readyCheck scrub) (initial : Supervisor C Dig) calls) := by
  have hstep : ∀ s call, Sound s → Sound (afterCall digest readyCheck scrub s call) := by
    intro s call hs
    exact ((perform_safe hs call.1).state call.2).sound
  have hinitial : Idle (initial : Supervisor C Dig) := by
    intro place child hchild
    simp [initial] at hchild
  exact run_keeps hstep hinitial.sound

theorem exists_alive_of_running (h : s.running=true) :
    ∃ (place : ℕ) (child : Child Dig), s.children[place]? = some child ∧ child.alive=true := by
  unfold Supervisor.running Supervisor.child at h
  cases hproc : s.proc with
  | none => simp [hproc] at h
  | some place =>
    cases hchild : s.children[place]? with
    | none => simp [hproc,hchild] at h
    | some child =>
      refine ⟨place,child,hchild,?_⟩
      simpa [hproc,hchild] using h

variable (digest readyCheck scrub)

/-- After every run the child the supervisor holds is alive exactly when any child is: none that it
spawned is left running without a handle. -/
theorem running_iff_alive (calls : List (Call × List (OsReply C))) :
    let s : Supervisor C Dig := run (afterCall digest readyCheck scrub) initial calls
    s.running = true ↔
      ∃ (place : ℕ) (child : Child Dig), s.children[place]? = some child ∧ child.alive = true := by
  intro s
  refine ⟨exists_alive_of_running,fun ⟨place,child,hchild,halive⟩ => ?_⟩
  have hproc := (sound_run calls).sole place child hchild halive
  simp [Supervisor.running,Supervisor.child,s,hproc,hchild,halive]

/-- Whatever is called and answered: at most one child is alive; a call the guard said no to
spawns nothing; `reload_if_running` spawns nothing unless a child is alive when it looks first,
after whatever deaths there were since the last call; and the fingerprint a status reports is
unknown or that of the config the live child's start read. -/
theorem supervisor_lifecycle (calls : List (Call × List (OsReply C))) :
    let s : Supervisor C Dig := run (afterCall digest readyCheck scrub) initial calls
    (∀ (place other : ℕ) (child sibling : Child Dig), s.children[place]? = some child →
      s.children[other]? = some sibling → child.alive = true → sibling.alive = true →
      place = other) ∧
    (∀ call replies, let t := afterCall digest readyCheck scrub s (call, replies)
      (t.refusals ≠ s.refusals → t.children.length = s.children.length) ∧
      (call = .reloadIfRunning → t.children.length ≠ s.children.length →
        ∃ reply rest, replies = reply :: rest ∧ ∃ (place : ℕ) (child : Child Dig),
          (observe reply s).children[place]? = some child ∧ child.alive = true)) ∧
    ∀ replies report, (status scrub replies s).outcome = .done report →
      ∀ (place : ℕ) (child : Child Dig),
        (status scrub replies s).state.children[place]? = some child → child.alive = true →
        report.loadedConfigDigest = none ∨ report.loadedConfigDigest = child.read := by
  intro s
  have hs : Sound s := sound_run calls
  refine ⟨?_,?_,?_⟩
  · intro place other child sibling hchild hsibling halive hsiblingAlive
    have hproc := hs.sole place child hchild halive
    rw [hs.sole other sibling hsibling hsiblingAlive] at hproc
    exact (Option.some.inj hproc).symm
  · intro call replies t
    have hlaunched : Launched s t := (perform_safe hs call).state replies
    constructor
    · intro hrefused
      exact hlaunched.once.resolve_left hrefused
    · rintro rfl hspawned
      obtain ⟨reply,rest,hreps,hrunning⟩ := running_of_reload_spawns hspawned
      exact ⟨reply,rest,hreps,exists_alive_of_running hrunning⟩
  · intro replies report hreport place child hchild halive
    have hstatus := status_safe scrub (Kept.refl hs)
    rw [hstatus.value hreport]
    exact (hstatus.state replies).sound.loaded place child hchild halive

end Lifecycle

end PiGwPanel.XraySupervisor
