import PiGwPanel.GuardedRestart

/-!
# What a failed apply leaves behind

`apply_node` with notes of the calls it makes on xray and on the network. The
notes are written and never read, so without them the program is `applyNode`;
with them one can say what came after the last start. A failed apply either
brings the previous tunnel back or stops xray and closes the network.
-/

namespace PiGwPanel.GatewayPanel

open AnsweredProgram Models ConfigBuilder ConfigManager RemoteAccessReconcile Prog

variable {W Dig α : Type}

/-- What an apply does to the runtime. -/
inductive RuntimeCall where
  /-- `supervisor.reload` is called, which starts xray. -/
  | start
  /-- The reload reported xray up. -/
  | ready
  /-- `apply_net` reported success. -/
  | netApplied
  /-- `supervisor.stop` is called. -/
  | stop
  /-- `stop_net` is called, the guard that heeds the kill switch. -/
  | guard
  deriving DecidableEq, Repr

/-- The panel with the notes, newest first. -/
structure Noted (W Dig : Type) where
  panel : Panel W Dig
  calls : List RuntimeCall

/-- A panel operation that takes notes. -/
abbrev NotedProg (W Dig α : Type) := Prog Reply (Noted W Dig) String α

section Notes

/-- A program that takes none. -/
def plain (m : PanelProg W Dig α) : NotedProg W Dig α :=
  Prog.on Noted.panel (fun panel s => { s with panel := panel }) m

def note (call : RuntimeCall) : NotedProg W Dig Unit :=
  Prog.update fun s => { s with calls := call :: s.calls }

def noteWhen (happened : Bool) (call : RuntimeCall) : NotedProg W Dig Unit :=
  if happened then note call else pure ()

variable [DecidableEq Dig] (host : Host W Dig)

def notedReload : NotedProg W Dig Bool := do
  note .start
  let up ← plain (supervisorReload host)
  noteWhen up .ready
  pure up

def notedApplyNet : NotedProg W Dig (Option String) := do
  let failure ← plain netCall
  noteWhen failure.isNone .netApplied
  pure failure

def notedStop : NotedProg W Dig Bool := do
  note .stop
  plain supervisorStop

def notedStopNet : NotedProg W Dig (Option String) := do
  note .guard
  plain netCall

def notedRuntime : NotedProg W Dig Unit := do
  if !(← notedReload host) then Prog.raise "xray did not come up on the new config"
  else
    match ← notedApplyNet with
    | none => pure ()
    | some e => Prog.raise ("network apply failed: " ++ e)

def notedRestore : NotedProg W Dig (Bool × List String) := do
  let restore : NotedProg W Dig (Bool × List String) := do
    if !(← notedReload host) then pure (false, ["previous xray did not become ready"])
    else
      match ← notedApplyNet with
      | none => pure (true, [])
      | some e => pure (false, ["previous network restore failed: " ++ e])
  match ← Prog.attempt restore with
  | .ok result => pure result
  | .error e => pure (false, ["previous runtime restore raised: " ++ e])

def notedRestoreAfterRollback (previousNode : Option Node) (rolledBack : Bool) :
    NotedProg W Dig (Bool × List String) :=
  if previousNode.isSome && rolledBack then notedRestore host else pure (false, [])

def notedFailClosed : NotedProg W Dig (List String) := do
  let stopNote ← Prog.attempt notedStop
  let stopNote := match stopNote with
    | .ok true => []
    | .ok false => ["xray could not be stopped (it survived SIGKILL)"]
    | .error e => ["xray stop raised: " ++ e]
  match ← notedStopNet with
  | none => pure stopNote
  | some e => pure (stopNote ++ ["fail-closed recovery failed: " ++ e])

def notedRecover (previousNode : Option Node) (irreversible : Bool) :
    NotedProg W Dig (List String) := do
  let (rolledBack, notes) ← plain (recoverConfig host irreversible)
  let (restored, more) ← notedRestoreAfterRollback host previousNode rolledBack
  if restored then pure (notes ++ more)
  else do
    let closing ← notedFailClosed
    pure (notes ++ more ++ closing)

/-- The bookkeeping of an apply that went through. -/
def notedSuccess (previousId : Option ℕ) (node : Node) : NotedProg W Dig ApplyResult := do
  plain (transaction (recordSwitch previousId node))
  plain rwCompletePending
  pure (.ok ())

/-- `apply_node` with notes. -/
def notedApply (node : Node) (irreversible : Bool) : NotedProg W Dig ApplyResult := do
  let store ← plain readStore
  let previousId := store.activeNodeId
  match ← Prog.attempt (plain (applyConfig host store node irreversible)) with
  | .error e => pure (.error ("config apply failed: " ++ e))
  | .ok (false, out) => pure (.error out)
  | .ok (true, _) => do
    plain (writeStore (PanelStore.withPendingNode (some node.id)))
    match ← Prog.attempt (notedRuntime host) with
    | .ok () => notedSuccess previousId node
    | .error e => do
      let notes ← notedRecover host (previousId.bind store.getNode) irreversible
      plain (writeStore (PanelStore.withPendingNode none))
      let suffix := if notes = [] then "" else "; recovery: " ++ "; ".intercalate notes
      pure (.error ("apply failed after validation: " ++ e ++ suffix))

end Notes

section Erasure

/-! ### Without the notes -/

theorem erases_plain (m : PanelProg W Dig α) : Erases Noted.panel (plain m) m :=
  .on fun _ _ => rfl

theorem erases_note (call : RuntimeCall) :
    Erases Noted.panel (note call) (pure () : PanelProg W Dig Unit) :=
  .note fun _ => rfl

theorem erases_noteWhen (happened : Bool) (call : RuntimeCall) :
    Erases Noted.panel (noteWhen happened call) (pure () : PanelProg W Dig Unit) := by
  cases happened with
  | true => exact erases_note call
  | false => exact .pure ()

variable {m : PanelProg W Dig α}

/-- A value returned after a note is the value. -/
theorem erases_after_note (happened : α → Bool) (call : RuntimeCall) : Erases Noted.panel (do
      let value ← plain m
      noteWhen (happened value) call
      pure value) m := by
  have hsame : (m >>= fun value => (pure () : PanelProg W Dig Unit) >>= fun _ => pure value) =
      m := by
    funext replies s
    change andThen m _ replies s=m replies s
    unfold andThen
    rcases m replies s with ⟨outcome,rest,t⟩
    cases outcome <;> rfl
  have herased := (erases_plain m).bind fun value =>
    (erases_noteWhen (happened value) call).bind fun _ => .pure value
  rwa [hsame] at herased

/-- A note before a program is nothing. -/
theorem erases_noted {noted : NotedProg W Dig α} (call : RuntimeCall)
    (h : Erases Noted.panel noted m) : Erases Noted.panel (do
      note call
      noted) m := by
  have herased : Erases Noted.panel (do
      note call
      noted) ((pure () : PanelProg W Dig Unit) >>= fun _ => m) :=
    (erases_note call).bind fun _ => h
  exact herased

theorem erases_applyNet :
    Erases Noted.panel (notedApplyNet : NotedProg W Dig (Option String)) netCall :=
  erases_after_note Option.isNone .netApplied

theorem erases_stop : Erases Noted.panel (notedStop : NotedProg W Dig Bool) supervisorStop :=
  erases_noted .stop (erases_plain supervisorStop)

theorem erases_stopNet :
    Erases Noted.panel (notedStopNet : NotedProg W Dig (Option String)) netCall :=
  erases_noted .guard (erases_plain netCall)

theorem erases_failClosed :
    Erases Noted.panel (notedFailClosed : NotedProg W Dig (List String)) failClosed := by
  refine erases_stop.attempt.bind fun stopped => ?_
  refine erases_stopNet.bind fun failure => ?_
  cases failure with
  | none => exact .pure _
  | some e => exact .pure _

variable [DecidableEq Dig] (host : Host W Dig)

theorem erases_reload : Erases Noted.panel (notedReload host) (supervisorReload host) :=
  erases_noted .start (erases_after_note id .ready)

theorem erases_runtime : Erases Noted.panel (notedRuntime host) (applyRuntime host) := by
  refine (erases_reload host).bind fun up => ?_
  cases up with
  | false => exact .raise _
  | true =>
    refine erases_applyNet.bind fun failure => ?_
    cases failure with
    | none => exact .pure ()
    | some e => exact .raise _

theorem erases_restore : Erases Noted.panel (notedRestore host) (restorePrevious host) := by
  refine .bind (.attempt ?_) fun result => ?_
  · refine (erases_reload host).bind fun up => ?_
    cases up with
    | false => exact .pure _
    | true =>
      refine erases_applyNet.bind fun failure => ?_
      cases failure with
      | none => exact .pure _
      | some e => exact .pure _
  · cases result with
    | ok value => exact .pure value
    | error e => exact .pure _

theorem erases_restoreAfterRollback (previousNode : Option Node) (rolledBack : Bool) :
    Erases Noted.panel (notedRestoreAfterRollback host previousNode rolledBack)
      (restoreAfterRollback host previousNode rolledBack) := by
  unfold notedRestoreAfterRollback restoreAfterRollback
  split
  · exact erases_restore host
  · exact .pure _

theorem erases_recover (previousNode : Option Node) (irreversible : Bool) :
    Erases Noted.panel (notedRecover host previousNode irreversible)
      (recoverApply host previousNode irreversible) := by
  refine (erases_plain _).bind fun rolledBack => ?_
  refine (erases_restoreAfterRollback host previousNode rolledBack.1).bind fun restored => ?_
  dsimp only
  split
  · exact .pure _
  · exact erases_failClosed.bind fun closing => .pure _

theorem erases_apply (node : Node) (irreversible : Bool) :
    Erases Noted.panel (notedApply host node irreversible) (applyNode host node irreversible) := by
  refine (erases_plain _).bind fun store => ?_
  refine (erases_plain _).attempt.bind fun written => ?_
  cases written with
  | error e => exact .pure _
  | ok verdict =>
    obtain ⟨ok,out⟩ := verdict
    cases ok with
    | false => exact .pure _
    | true =>
      refine (erases_plain _).bind fun _ => ?_
      refine (erases_runtime host).attempt.bind fun served => ?_
      cases served with
      | ok _ =>
        refine (erases_plain _).bind fun _ => ?_
        exact (erases_plain _).bind fun _ => .pure _
      | error e =>
        refine (erases_recover host _ irreversible).bind fun notes => ?_
        exact (erases_plain _).bind fun _ => .pure _

end Erasure

section Files

/-! ### What the config half leaves on disk -/

variable {d : Disk Config Dig}

/-- What is to be removed is; everything else answers arbitrarily. -/
def Unlinks (reply : Reply) : Prop := reply.gone = true

theorem not_stuck_unlinks : ¬Stuck Unlinks := by
  rintro ⟨reply,hgone,hfalse⟩
  cases hgone.symm.trans hfalse

/-- Of a program that is allowed to stop anywhere: what the values it returns meet. -/
def Returns {σ : Type} (m : Prog Reply σ String α) (s : σ) (Q : α → σ → Prop) : Prop :=
  Prog.Meets Unlinks m s (fun _ => True) (fun _ => True) Q

/-- An irreversible apply writes the live config once or not at all, and takes no snapshot. -/
theorem applyIrreversible_files (cfg : Config) :
    Meets Unlinks (applyIrreversible cfg) d (fun _ => True)
      (fun t => t.history=d.history ∧ t.lastgood=d.lastgood) fun result t =>
        (result.1=false → t.history=d.history ∧ t.lastgood=d.lastgood) ∧
        (result.1=true → t=(neutralised d).withLive .irreversible cfg) := by
  refine .bind (validateConfig_meets trivial fun _ => ⟨rfl,rfl⟩) ?_
  rintro ⟨ok,out⟩ t ⟨ht,-⟩
  obtain rfl : d=t := ht.symm
  dsimp only
  split
  · exact .pure ⟨fun _ => ⟨rfl,rfl⟩, nofun⟩
  · have hmarker : Meets Unlinks invalidateProvenanceDurably d
        (fun t => t.history=d.history ∧ t.lastgood=d.lastgood)
        (fun t => t.history=d.history ∧ t.lastgood=d.lastgood) _ :=
      invalidateProvenanceDurably_meets ⟨rfl,rfl⟩ ⟨rfl,rfl⟩
    refine .bind (hmarker.weaken (fun _ _ => trivial) fun _ h => h) ?_
    rintro durable t ⟨hstate,hsame,-⟩
    cases durable with
    | false => exact .pure ⟨fun _ => hsame,nofun⟩
    | true =>
      rw [hstate rfl]
      refine .bind (P := fun _ t => t=(neutralised d).withLive .irreversible cfg)
        (writeAtomic_meets trivial (fun _ => ⟨rfl,rfl⟩) fun _ _ => rfl) ?_
      rintro _ t rfl
      exact .pure ⟨nofun,fun _ => rfl⟩

end Files

section Runtime

/-! ### What the calls on the runtime leave -/

variable {A : Reply → Prop} {K E : Panel W Dig → Prop} {Q : α → Panel W Dig → Prop}
variable {I S : Panel W Dig → Prop} {bad : Prop} {w : Noted W Dig}

theorem plain_meets {m : PanelProg W Dig α} (hm : Meets A m w.panel K E Q) :
    Meets A (plain m) w (fun v => K v.panel ∧ v.calls=w.calls)
      (fun v => E v.panel ∧ v.calls=w.calls) fun value v => Q value v.panel ∧ v.calls=w.calls :=
  .on (hm.mono (fun _ h => ⟨h,rfl⟩) (fun _ h => ⟨h,rfl⟩) fun _ _ h => ⟨h,rfl⟩)

/-- The last calls of the apply were a stop of xray and the guard. -/
def Closed (v : Noted W Dig) : Prop := ∃ rest, v.calls = .guard :: .stop :: rest

theorem notedFailClosed_returns :
    Returns (notedFailClosed : NotedProg W Dig (List String)) w fun _ v =>
      Closed v ∧ OnlyProcess w.panel v.panel := by
  have hstop : Meets Unlinks notedStop w (fun _ => True)
      (fun v => v.calls = .stop::w.calls ∧ OnlyProcess w.panel v.panel)
      fun _ v => v.calls = .stop::w.calls ∧ OnlyProcess w.panel v.panel := by
    have hcall : Meets Unlinks supervisorStop w.panel (OnlyProcess w.panel) _ _ :=
      supervisorStop_meets (onlyProcess_settles w.panel) (OnlyProcess.refl w.panel)
    refine .update_bind ?_
    exact (plain_meets (w := { w with calls := .stop::w.calls }) hcall).mono
      (fun _ _ => trivial) (fun _ h => ⟨h.2,h.1.1⟩) fun _ _ h => ⟨h.2,h.1.1⟩
  refine .bind (P := fun _ v => v.calls = .stop::w.calls ∧ OnlyProcess w.panel v.panel)
    (hstop.attempt (fun _ _ h => h) fun _ _ h => h) ?_
  rintro stopped v ⟨hcalls,hpanel⟩
  have hguard : Meets Unlinks notedStopNet v (fun _ => True) (fun _ => True)
      fun _ u => u.calls = .guard::v.calls ∧ u.panel=v.panel := by
    have hcall : Meets Unlinks netCall v.panel (fun _ => True) (fun _ => True) _ :=
      netCall_meets trivial fun _ => trivial
    refine .update_bind ?_
    exact (plain_meets (w := { v with calls := .guard::v.calls }) hcall).mono
      (fun _ _ => trivial) (fun _ _ => trivial) fun _ _ h => ⟨h.2,h.1.1⟩
  refine .bind hguard ?_
  rintro failure u ⟨hlast,hsame⟩
  have hend : Closed u ∧ OnlyProcess w.panel u.panel := by
    refine ⟨⟨w.calls,?_⟩,hsame ▸ hpanel⟩
    rw [hlast,hcalls]
  cases failure with
  | none => exact .pure hend
  | some e => exact .pure hend

theorem notedApplyNet_meets {E : Noted W Dig → Prop} (hE : E w) :
    Meets Unlinks notedApplyNet w (fun _ => True) E fun failure v => v.panel=w.panel ∧
        (failure=none → v.calls = .netApplied::w.calls) := by
  have hcall : Meets Unlinks netCall w.panel (fun _ => True)
      (fun t => t=w.panel) _ := netCall_meets trivial fun _ => rfl
  refine .bind ((plain_meets hcall).mono (fun _ _ => trivial) ?_ fun _ _ hv => hv) ?_
  · rintro ⟨panel,calls⟩ ⟨rfl,rfl⟩
    exact hE
  · rintro failure v ⟨⟨hpanel,-⟩,hcalls⟩
    cases failure with
    | none => exact .update_bind (.pure ⟨hpanel,fun _ => by rw [hcalls]⟩)
    | some e => exact .pure ⟨hpanel,nofun⟩

variable [DecidableEq Dig] {host : Host W Dig}

variable (h : Startable host Unlinks I S bad)

include h

/-- The notes of a reload say that xray came up, and then it serves what `S` says. -/
theorem notedReload_meets (hw : I w.panel) :
    Meets Unlinks (notedReload host) w (fun _ => True) (fun v => I v.panel)
      fun up v => I v.panel ∧ (up=true → v.calls = .ready::.start::w.calls ∧
        S v.panel ∧ v.panel.child≠none) := by
  refine .update_bind ?_
  have hreload : Meets Unlinks (plain (supervisorReload host))
      { w with calls := .start::w.calls } _ _ _ := plain_meets (supervisorReload_meets h hw)
  refine .bind (hreload.mono (fun _ _ => trivial) (fun _ hv => hv.1.1) fun _ _ hv => hv) ?_
  rintro up v ⟨⟨hv,hserved,-⟩,hcalls⟩
  cases up with
  | false => exact .pure ⟨hv,nofun⟩
  | true =>
    refine .update_bind (.pure ⟨hv,fun _ => ⟨?_,hserved rfl⟩⟩)
    rw [hcalls]

theorem notedRuntime_meets (hw : I w.panel) :
    Meets Unlinks (notedRuntime host) w (fun _ => True) (fun v => I v.panel) fun _ _ => True := by
  refine .bind (notedReload_meets h hw) ?_
  rintro up v ⟨hv,-⟩
  cases up with
  | false => exact .raise hv
  | true =>
    refine .bind (notedApplyNet_meets hv) ?_
    rintro failure u ⟨hpanel,-⟩
    cases failure with
    | none => exact .pure trivial
    | some e => exact .raise (hpanel ▸ hv)

/-- A restore that reports success started xray and applied the network, in this order and last. -/
theorem notedRestore_returns (hw : I w.panel) :
    Returns (notedRestore host) w fun result v => I v.panel ∧ (result.1=true →
      v.calls = .netApplied::.ready::.start::w.calls ∧ S v.panel ∧ v.panel.child≠none) := by
  refine .seq (.attempt (X := fun v => I v.panel) (P := fun value v => I v.panel ∧
    (value.1=true → v.calls = .netApplied::.ready::.start::w.calls ∧ S v.panel ∧
      v.panel.child≠none)) ?_ (fun _ _ hv => .pure hv)
    fun _ _ hv => .pure ⟨hv,nofun⟩)
  refine .bind (notedReload_meets h hw) ?_
  rintro up v ⟨hv,hserved⟩
  cases up with
  | false => exact .pure ⟨hv,nofun⟩
  | true =>
    obtain ⟨hcalls,hS,hchild⟩ := hserved rfl
    refine .bind (notedApplyNet_meets hv) ?_
    rintro failure u ⟨hpanel,happlied⟩
    cases failure with
    | some e => exact .pure ⟨hpanel ▸ hv,nofun⟩
    | none =>
      refine .pure ⟨hpanel ▸ hv,fun _ => ⟨?_,hpanel ▸ hS,hpanel ▸ hchild⟩⟩
      rw [happlied rfl,hcalls]

end Runtime

section Recovery

/-! ### What the recovery leaves -/

variable [DecidableEq Dig] {host : Host W Dig} {s : Panel W Dig} {w : Noted W Dig}

/-- What the start guard may make of a config. -/
inductive GuardedForm (host : Host W Dig) (store : PanelStore W) (previous : Config) : Config → Prop
  | kept : GuardedForm host store previous previous
  | reconciled {old : Config} (h : GuardedForm host store previous old) :
      GuardedForm host store previous (rwReconciled host.settings (resolve host store) old)
  | rebuilt {node : Node} {cfg : Config} (hnode : rwRebuildNode store = some node)
      (hbuilt : buildNodeConfig host store node = .ok cfg) : GuardedForm host store previous cfg

omit [DecidableEq Dig] in
theorem guardWrites_guardedForm (store : PanelStore W) (previous : Config) :
    GuardWrites host store fun d => ∃ cfg, d.live = .holds cfg ∧
      GuardedForm host store previous cfg where
  neutralise _ h := h
  sanitize := by
    rintro d old ⟨cfg,hcfg,hform⟩ hold
    obtain rfl : cfg=old := FileText.holds.inj (hcfg.symm.trans hold)
    exact ⟨_,rfl,hform.reconciled⟩
  rebuild _ _ _ _ hnode hbuilt := ⟨_,rfl,.rebuilt hnode hbuilt⟩

variable {previous cfg : Config} {pending : Option ℕ} {store : PanelStore W}

omit [DecidableEq Dig] in
theorem GuardedForm.of_pending (h : GuardedForm host (store.withPendingNode pending) previous cfg) :
    GuardedForm host store previous cfg := by
  induction h with
  | kept => exact .kept
  | reconciled _ ih => exact ih.reconciled
  | rebuilt hnode hbuilt => exact .rebuilt hnode hbuilt

/-- The previous tunnel is back: the config that was live is so again, or what the start guard
made of it where it grants more than the store; xray came up on it, and then the network was
applied. -/
def Restored (host : Host W Dig) (s : Panel W Dig) (v : Noted W Dig) : Prop :=
  ∃ previous cfg rest, s.disk.live = .holds previous ∧ v.panel.disk.live = .holds cfg ∧
    v.panel.child = some cfg ∧ v.calls = .netApplied :: .ready :: .start :: rest ∧ (cfg = previous ∨
      rwExcess (resolve host s.store) previous = true ∧ GuardedForm host s.store previous cfg)

omit [DecidableEq Dig] in
theorem Serving.child {t : Panel W Dig} (h : Serving t) (hup : t.child≠none)
    (hlive : t.disk.live = .holds cfg) : t.child=some cfg := by
  rcases h with hnone | hserved
  · exact absurd hnone hup
  · rw [hserved,hlive]
    rfl

/-- The restore of a failed apply, on the config that was live before. -/
theorem notedRestore_restored (hpre : s.disk.live = .holds previous)
    (hstore : w.panel.store=s.store.withPendingNode pending)
    (hlive : w.panel.disk.live = .holds previous) :
    Returns (notedRestore host) w fun result v => v.panel.store=w.panel.store ∧
      (result.1=true → Restored host s v) := by
  have hresolve : resolve host w.panel.store=resolve host s.store := by
    rw [hstore]
    rfl
  cases hexcess : rwExcess (resolve host s.store) previous with
  | false =>
    have hclean : NoExcess host w.panel := by
      intro cfg hcfg
      obtain rfl : previous=cfg := FileText.holds.inj (hlive.symm.trans hcfg)
      rw [hresolve]
      exact hexcess
    refine (notedRestore_returns (startable_of_noExcess hclean) (OnlyProcess.refl w.panel)).value ?_
    rintro result v ⟨⟨child,want,hv⟩,hrestored⟩
    have hsame : v.panel.disk.live = .holds previous := by
      rw [hv]
      exact hlive
    refine ⟨by rw [hv],fun hup => ?_⟩
    obtain ⟨hcalls,hserving,hchild⟩ := hrestored hup
    exact ⟨previous,previous,w.calls,hpre,hsame,hserving.child hchild hsame,hcalls, .inl rfl⟩
  | true =>
    have hstart : OnlyRuntime (fun d => ∃ cfg, d.live = .holds cfg ∧
        GuardedForm host w.panel.store previous cfg) w.panel w.panel :=
      ⟨w.panel.disk,w.panel.child,w.panel.wantRunning,⟨previous,hlive,.kept⟩,rfl⟩
    refine (notedRestore_returns
      (startable_of_guardWrites (guardWrites_guardedForm w.panel.store previous)) hstart).value ?_
    rintro result v ⟨⟨d,child,want,⟨cfg,hcfg,hform⟩,hv⟩,hrestored⟩
    have hsame : v.panel.disk.live = .holds cfg := by
      rw [hv]
      exact hcfg
    refine ⟨by rw [hv],fun hup => ?_⟩
    obtain ⟨hcalls,hserving,hchild⟩ := hrestored hup
    rw [hstore] at hform
    exact ⟨previous,cfg,w.calls,hpre,hsame,hserving.child hchild hsame,hcalls,
      .inr ⟨hexcess,hform.of_pending⟩⟩

/-- A rollback that reports success put the replaced config back. -/
theorem recoverConfig_returns
    (htgt : ∀ target, rollbackTarget host.digest w.panel.disk=some target →
      s.disk.live = .holds target) :
    Returns (plain (recoverConfig host false)) w fun result v =>
      v.panel.store=w.panel.store ∧ (result.1=true → ∃ previous,
        s.disk.live = .holds previous ∧ v.panel.disk.live = .holds previous) := by
  have hrollback : Meets Unlinks (rollback host.digest) w.panel.disk
      _ _ _ := rollback_meets
  have hdisk : Meets Unlinks (onDisk (rollback host.digest)) w.panel
      (fun _ => True) (fun t => t.store=w.panel.store) fun ok t =>
        t.store=w.panel.store ∧ (ok=true → ∃ previous,
          s.disk.live = .holds previous ∧ t.disk.live = .holds previous) := by
    refine .on (hrollback.mono (fun _ _ => trivial) (fun _ _ => rfl) ?_)
    rintro ok d ⟨-,hdone⟩
    refine ⟨rfl,fun hok => ?_⟩
    obtain ⟨cfg,hcfg,hlive⟩ := hdone hok
    exact ⟨cfg,htgt cfg hcfg,hlive⟩
  have hrecover : Returns (recoverConfig host false) w.panel fun result t =>
      t.store=w.panel.store ∧ (result.1=true → ∃ previous,
        s.disk.live = .holds previous ∧ t.disk.live = .holds previous) := by
    unfold recoverConfig
    refine .seq (hdisk.attempt ?_ fun _ _ ht => .pure ⟨ht,nofun⟩)
    rintro ok t ⟨ht,hdone⟩
    cases ok with
    | false => exact .pure ⟨ht,nofun⟩
    | true => exact .pure ⟨ht,fun _ => hdone rfl⟩
  exact (plain_meets hrecover).mono (fun _ _ => trivial) (fun _ _ => trivial) fun _ _ hv => hv.1

omit [DecidableEq Dig] in
theorem notedFailClosed_after {notes : List String} (hstore : w.panel.store=store) : Returns (do
      let closing ← notedFailClosed
      pure (notes++closing)) w fun _ v => Closed v ∧ v.panel.store=store := by
  refine .bind notedFailClosed_returns ?_
  rintro closing v ⟨hclosed,child,want,hv⟩
  refine .pure ⟨hclosed,?_⟩
  rw [hv]
  exact hstore

/-- The recovery of a reversible apply restores the previous tunnel or closes. -/
theorem notedRecover_reversible (previousNode : Option Node)
    (hstore : w.panel.store=s.store.withPendingNode pending)
    (htgt : ∀ target, rollbackTarget host.digest w.panel.disk=some target →
      s.disk.live = .holds target) :
    Returns (notedRecover host previousNode false) w fun _ v =>
      v.panel.store=w.panel.store ∧ (Restored host s v ∨ Closed v) := by
  refine .bind (recoverConfig_returns htgt) ?_
  rintro ⟨rolledBack,notes⟩ v ⟨hv,hdone⟩
  have hrestore : Returns (notedRestoreAfterRollback host previousNode rolledBack) v
      fun result u => u.panel.store=w.panel.store ∧ (result.1=true → Restored host s u) := by
    unfold notedRestoreAfterRollback
    split
    · next hboth =>
      obtain ⟨previous,hpre,hlive⟩ := hdone (Bool.and_eq_true_iff.mp hboth).2
      refine (notedRestore_restored hpre (hv.trans hstore) hlive).value ?_
      rintro result u ⟨hu,hrestored⟩
      exact ⟨hu.trans hv,hrestored⟩
    · exact .pure ⟨hv,nofun⟩
  refine .bind hrestore ?_
  rintro ⟨restored,more⟩ u ⟨hu,hrestored⟩
  cases restored with
  | true => exact .pure ⟨hu,.inl (hrestored rfl)⟩
  | false => exact (notedFailClosed_after hu).value fun _ _ h => ⟨h.2,.inr h.1⟩

/-- The recovery of an irreversible apply touches no file and closes. -/
theorem notedRecover_irreversible (previousNode : Option Node) :
    Returns (notedRecover host previousNode true) w fun _ v =>
      OnlyProcess w.panel v.panel ∧ Closed v := by
  have hwithheld : Returns (recoverConfig host true) w.panel fun result t =>
      result.1=false ∧ t=w.panel := Prog.Meets.pure ⟨rfl,rfl⟩
  refine .bind (plain_meets hwithheld |>.mono (fun _ _ => trivial) (fun _ _ => trivial)
    fun _ _ hv => hv.1) ?_
  rintro ⟨rolledBack,notes⟩ v ⟨hnot,hv⟩
  have hskipped : Returns (notedRestoreAfterRollback host previousNode rolledBack) v
      fun result u => result.1=false ∧ u=v := by
    unfold notedRestoreAfterRollback
    rw [show rolledBack=false from hnot,Bool.and_false,if_neg Bool.false_ne_true]
    exact .pure ⟨rfl,rfl⟩
  refine .bind hskipped ?_
  rintro ⟨restored,more⟩ u ⟨hnone,rfl⟩
  obtain rfl : restored=false := hnone
  refine .bind notedFailClosed_returns ?_
  rintro closing v ⟨hclosed,hprocess⟩
  exact .pure ⟨hv ▸ hprocess,hclosed⟩

end Recovery

section Failure

/-! ### What a failed apply leaves -/

variable [DecidableEq Dig] {host : Host W Dig} {s : Panel W Dig} {node : Node}

/-- What holds of the panel `s` was and the noted panel `v` a failed apply of a node left. -/
structure FailsClosed (host : Host W Dig) (s : Panel W Dig) (node : Node) (irreversible : Bool)
    (v : Noted W Dig) : Prop where
  active : v.panel.store.activeNodeId = s.store.activeNodeId
  previous : v.panel.store.prevActiveNodeId = s.store.prevActiveNodeId
  /-- When the candidate was written, the marker of the switch is gone, and the previous tunnel is
  back or xray and the network were closed. -/
  recovered : v.panel.disk.history ≠ s.disk.history →
    v.panel.store.pendingActiveNodeId = none ∧ (Restored host s v ∨ Closed v)
  /-- An irreversible apply wrote the candidate once and nothing after it, and filed nothing. -/
  kept : irreversible = true → v.panel.disk.lastgood = s.disk.lastgood ∧
    (v.panel.disk.history = s.disk.history ∨ ∃ cfg, buildNodeConfig host s.store node = .ok cfg ∧
      v.panel.disk.live = .holds cfg ∧
      v.panel.disk.history = ⟨.irreversible, s.disk.live, cfg⟩ :: s.disk.history)

variable {irreversible : Bool} {cfg : Config} {v : Noted W Dig}

omit [DecidableEq Dig] in
/-- An apply that wrote no config changed nothing that matters. -/
theorem failsClosed_of_unwritten (hstore : v.panel.store=s.store)
    (hhistory : v.panel.disk.history=s.disk.history)
    (hlastgood : irreversible=true → v.panel.disk.lastgood=s.disk.lastgood) :
    FailsClosed host s node irreversible v where
  active := by rw [hstore]
  previous := by rw [hstore]
  recovered := fun hwritten => absurd hhistory hwritten
  kept := fun hirreversible => ⟨hlastgood hirreversible,.inl hhistory⟩

/-- What the config half left when it did not write the candidate. -/
def NotWritten (s : Panel W Dig) (irreversible : Bool) (d : Disk Config Dig) : Prop :=
  d.history = s.disk.history ∧ (irreversible = true → d.lastgood = s.disk.lastgood)

/-- What it left when it did. -/
structure Written (host : Host W Dig) (s : Panel W Dig) (node : Node) (irreversible : Bool)
    (d : Disk Config Dig) (cfg : Config) : Prop where
  built : buildNodeConfig host s.store node = .ok cfg
  live : d.live = .holds cfg
  target : irreversible = false → ∀ target, rollbackTarget host.digest d = some target →
    s.disk.live = .holds target
  once : irreversible = true → d = (neutralised s.disk).withLive .irreversible cfg

/-- The config half of an apply writes the candidate or leaves the live config alone. -/
theorem applyConfig_writes (irreversible : Bool) :
    Meets Unlinks (applyConfig host s.store node irreversible) s (fun _ => True)
      (OnlyDisk (NotWritten s irreversible) s) fun result t =>
        (result.1=false → OnlyDisk (NotWritten s irreversible) s t) ∧
        (result.1=true → ∃ d cfg, Written host s node irreversible d cfg ∧
          t = { s with disk := d }) := by
  cases irreversible with
  | false =>
    refine .mono applyConfig_meets (fun _ _ => trivial) ?_ ?_
    · rintro t ⟨d,⟨-,hhistory⟩,rfl⟩
      exact ⟨d,⟨hhistory,nofun⟩,rfl⟩
    · rintro result t ⟨hrefused,hdone⟩
      refine ⟨fun h => ?_,fun h => ?_⟩
      · rw [hrefused h]
        exact ⟨s.disk,⟨rfl,fun _ => rfl⟩,rfl⟩
      · obtain ⟨cfg,hbuild,d,⟨hlive,hfiled⟩,rfl⟩ := hdone h
        exact ⟨d,cfg,⟨hbuild,hlive,fun _ target htgt =>
          (hfiled.target target htgt).resolve_right not_stuck_unlinks,
          nofun⟩,rfl⟩
  | true =>
    unfold applyConfig
    cases hbuild : buildNodeConfig host s.store node with
    | error e => exact .raise ⟨s.disk,⟨rfl,fun _ => rfl⟩,rfl⟩
    | ok cfg =>
      have happly := applyIrreversible_files (d := s.disk) cfg
      dsimp only
      rw [if_pos rfl]
      refine .on (happly.mono (fun _ _ => trivial) ?_ ?_)
      · exact fun d hd => ⟨d,⟨hd.1,fun _ => hd.2⟩,rfl⟩
      · rintro result d ⟨hrefused,hdone⟩
        refine ⟨fun h => ⟨d,⟨(hrefused h).1,fun _ => (hrefused h).2⟩,rfl⟩, fun h => ?_⟩
        refine ⟨d,cfg,⟨hbuild,?_,nofun,fun _ => hdone h⟩, rfl⟩
        rw [hdone h]
        rfl

variable {d : Disk Config Dig}

theorem notedRecover_after {pending : Option ℕ} {w : Noted W Dig}
    (previousNode : Option Node) (hwritten : Written host s node irreversible d cfg)
    (hw : OnlyProcess { s with store := s.store.withPendingNode pending, disk := d } w.panel) :
    Returns (notedRecover host previousNode irreversible) w fun _ v =>
      v.panel.store=s.store.withPendingNode pending ∧ (Restored host s v ∨ Closed v) ∧
        (irreversible=true → v.panel.disk=d) := by
  obtain ⟨child,want,hpanel⟩ := hw
  have hstore : w.panel.store=s.store.withPendingNode pending := by rw [hpanel]
  have hdisk : w.panel.disk=d := by rw [hpanel]
  cases irreversible with
  | true =>
    refine (notedRecover_irreversible previousNode).value ?_
    rintro notes v ⟨⟨child',want',hv⟩,hclosed⟩
    have hsame : v.panel.store=w.panel.store ∧ v.panel.disk=w.panel.disk := by
      rw [hv]
      exact ⟨rfl,rfl⟩
    exact ⟨hsame.1.trans hstore,.inr hclosed,fun _ => hsame.2.trans hdisk⟩
  | false =>
    have htgt : ∀ target, rollbackTarget host.digest w.panel.disk=some target →
        s.disk.live = .holds target := by
      rw [hdisk]
      exact hwritten.target rfl
    refine (notedRecover_reversible previousNode hstore htgt).value ?_
    rintro notes v ⟨hv,hend⟩
    exact ⟨hv.trans hstore,hend,nofun⟩

/-- The end of an apply whose candidate was written. -/
theorem FailsClosed.of_recovered (hwritten : Written host s node irreversible d cfg)
    (hstore : v.panel.store=s.store.withPendingNode none) (hend : Restored host s v ∨ Closed v)
    (hdisk : irreversible=true → v.panel.disk=d) : FailsClosed host s node irreversible v where
  active := by
    rw [hstore]
    rfl
  previous := by
    rw [hstore]
    rfl
  recovered := by
    intro _
    rw [hstore]
    exact ⟨rfl,hend⟩
  kept := by
    intro hirreversible
    rw [hdisk hirreversible,hwritten.once hirreversible]
    exact ⟨rfl,.inr ⟨cfg,hwritten.built,rfl,rfl⟩⟩

omit [DecidableEq Dig] in
/-- The bookkeeping of an apply that went through reports success, when it returns. -/
theorem notedSuccess_returns (previousId : Option ℕ) {w : Noted W Dig} :
    Returns (notedSuccess previousId node) w fun result _ => result = .ok () := by
  have hwrite (change : PanelStore W → PanelStore W) (t : Panel W Dig) :
      Returns (writeStore change) t fun _ _ => True :=
    writeStore_meets trivial (fun _ => trivial) trivial
  have hbody (t : Panel W Dig) : Returns (recordSwitch previousId node) t fun _ _ => True := by
    refine .bind (P := fun _ _ => True) ?_ fun _ u _ => .bind (hwrite _ u) fun _ v _ =>
      .bind (hwrite _ v) fun _ x _ => hwrite _ x
    unfold recordPrevious
    split
    · exact hwrite _ t
    · exact .pure trivial
  have hrecord : Returns (transaction (recordSwitch previousId node)) w.panel fun _ _ => True := by
    cases hsaved : w.panel.committed with
    | none =>
      exact transaction_meets hsaved (hbody _) (fun _ _ => trivial) (fun _ _ _ _ => trivial)
        (fun _ _ _ => trivial) (fun _ _ _ _ => trivial) fun _ _ _ _ => trivial
    | some saved => exact transaction_nested_meets hsaved (hbody _) fun _ _ => trivial
  refine .bind ((plain_meets hrecord).mono (fun _ _ => trivial) (fun _ _ => trivial)
    fun _ _ hv => hv) fun _ v _ => ?_
  have hcompl : Returns rwCompletePending v.panel fun _ _ => True :=
    rwCompletePending_meets trivial trivial
  exact .bind ((plain_meets hcompl).mono (fun _ _ => trivial) (fun _ _ => trivial)
    fun _ _ hv => hv) fun _ _ _ => .pure rfl

/-- A failed apply fails closed. -/
theorem notedApply_returns (irreversible : Bool) :
    Returns (notedApply host node irreversible) ⟨s,[]⟩ fun result v =>
      ∀ e, result = .error e → FailsClosed host s node irreversible v := by
  have hread : Returns (readStore : PanelProg W Dig (PanelStore W)) s fun store t =>
      store=s.store ∧ t=s := readStore_meets trivial (fun _ => trivial) ⟨rfl,rfl⟩
  refine .bind ((plain_meets (w := ⟨s,[]⟩) hread).mono (fun _ _ => trivial)
    (fun _ _ => trivial) fun _ _ hv => hv.1) ?_
  rintro store ⟨panel,calls⟩ ⟨rfl,hpanel⟩
  obtain rfl : s=panel := hpanel.symm
  have hwrites : Meets Unlinks (applyConfig host s.store node irreversible) s _ _ _ :=
    applyConfig_writes irreversible
  have hconfig := plain_meets (w := ⟨s,calls⟩) hwrites
  have hunwritten {v : Noted W Dig} (h : OnlyDisk (NotWritten s irreversible) s v.panel) :
      FailsClosed host s node irreversible v := by
    obtain ⟨d,⟨hhistory,hlastgood⟩,hd⟩ := h
    refine failsClosed_of_unwritten (by rw [hd]) (by rw [hd]; exact hhistory) fun h => ?_
    rw [hd]
    exact hlastgood h
  refine .seq ((hconfig.weaken (fun _ _ => trivial) fun _ hv => hv.1).attempt ?_
    fun _ _ hv => .pure fun _ _ => hunwritten hv)
  rintro ⟨ok,out⟩ v ⟨hv,-⟩
  cases ok with
  | false => exact .pure fun _ _ => hunwritten (hv.1 rfl)
  | true =>
    obtain ⟨d,cfg,hwritten,hd⟩ := hv.2 rfl
    have hmark : Returns (writeStore (PanelStore.withPendingNode (some node.id))) v.panel
        fun _ t => t = { s with store := s.store.withPendingNode (some node.id), disk := d } :=
      writeStore_meets trivial (fun _ => trivial) (by rw [hd])
    refine .bind ((plain_meets hmark).mono (fun _ _ => trivial) (fun _ _ => trivial)
      fun _ _ hu => hu.1) ?_
    intro _ u hu
    have hclean : NoExcess host u.panel := by
      intro other hother
      rw [hu] at hother ⊢
      obtain rfl : cfg=other := FileText.holds.inj (hwritten.live.symm.trans hother)
      exact rwExcess_buildNodeConfig hwritten.built
    have hruntime := notedRuntime_meets (startable_of_noExcess hclean) (OnlyProcess.refl u.panel)
    refine .seq (hruntime.attempt ?_ ?_)
    · refine fun _ _ _ => (notedSuccess_returns _).value ?_
      rintro _ _ rfl e h
      cases h
    · intro e t ht
      have hprocess := hu ▸ ht
      refine .bind (notedRecover_after _ hwritten hprocess) ?_
      rintro notes x ⟨hstore,hend,hdisk⟩
      have hclear : Returns (writeStore (PanelStore.withPendingNode none)) x.panel
          fun _ y => y = { x.panel with store := s.store.withPendingNode none } :=
        writeStore_meets trivial (fun _ => trivial) (by rw [hstore]; rfl)
      refine .bind ((plain_meets hclear).mono (fun _ _ => trivial)
        (fun _ _ => trivial) fun _ _ hy => hy) ?_
      rintro - y ⟨hy,hcalls⟩
      refine .pure fun _ _ => ?_
      refine FailsClosed.of_recovered hwritten (by rw [hy]) ?_ fun h => by rw [hy]; exact hdisk h
      refine hend.imp ?_ ?_
      · rintro ⟨previous,other,rest,hpre,hlive,hchild,hlast,hform⟩
        refine ⟨previous,other,rest,hpre,?_,?_,hcalls.trans hlast,hform⟩
        · rw [hy]
          exact hlive
        · rw [hy]
          exact hchild
      · rintro ⟨rest,hlast⟩
        exact ⟨rest,hcalls.trans hlast⟩

/-- Whatever fails on the way: when `apply_node` reports a failure, the panel it leaves fails
closed. The one thing asked is that a marker which is to be removed can be. -/
theorem failed_apply_fails_closed {irreversible : Bool} {replies : List Reply} {e : String}
    (hgone : ∀ reply ∈ replies, reply.gone = true)
    (hfailed : (applyNode host node irreversible replies s).outcome = .done (.error e)) :
    ∃ v, (notedApply host node irreversible replies ⟨s, []⟩).state = v ∧
      (applyNode host node irreversible replies s).state = v.panel ∧
      FailsClosed host s node irreversible v := by
  have herased := erases_apply host node irreversible replies ⟨s,[]⟩
  have houtcome : (notedApply host node irreversible replies ⟨s,[]⟩).outcome =
      .done (.error e) := by
    rw [herased] at hfailed
    exact hfailed
  have hret : Returns (notedApply host node irreversible) ⟨s,[]⟩ _ :=
    notedApply_returns irreversible
  obtain ⟨-,hend⟩ := hret replies hgone
  rw [houtcome] at hend
  refine ⟨_,rfl,?_,hend e rfl⟩
  rw [herased]

end Failure

section Samples

open RoutingPriority

/-- A store with that node and one client, enabled or not. -/
def accessStore (enabled : Bool) : PanelStore Unit :=
  ⟨[sampleNode], some 1, none, none, false,
    [⟨"11111111-1111-4111-8111-111111111111", "phone", enabled⟩], (), []⟩

/-- A panel whose live config still lets in a client its store has disabled. -/
def withdrawnPanel : Panel Unit Config where
  store := accessStore false
  committed := none
  rollbackOnly := false
  disk := ⟨match buildNodeConfig accessHost (accessStore true) sampleNode with
    | .ok cfg => .holds cfg
    | .error _ => .absent, .absent, none, []⟩
  child := (buildNodeConfig accessHost (accessStore true) sampleNode).toOption
  wantRunning := true

/-- The answers to an apply whose xray does not come up; everything after that succeeds. -/
def firstStartFails : List Reply :=
  List.replicate 10 Reply.good ++ [Reply.bad] ++ List.replicate 16 Reply.good

/-- The noted apply of the sample node. -/
def withdrawnApply : Exit Reply (Noted Unit Config) String ApplyResult :=
  notedApply accessHost sampleNode false firstStartFails ⟨withdrawnPanel, []⟩

theorem failed_of_isFailed {α : Type} {outcome : Outcome String (Except String α)}
    (h : (match outcome with | .done (.error _) => true | _ => false)=true) :
    ∃ e, outcome = .done (.error e) := by
  rcases outcome with (e | value) | error | _
  · exact ⟨e,rfl⟩
  all_goals cases h

/-- The apply fails, the previous tunnel counts as restored, nothing is stopped, and yet the live
config is not the one that was live before: the start guard took the disabled client out. -/
theorem restored_config_differs :
    (∃ e, (applyNode accessHost sampleNode false firstStartFails withdrawnPanel).outcome =
      .done (.error e)) ∧
    (applyNode accessHost sampleNode false firstStartFails withdrawnPanel).state =
      withdrawnApply.state.panel ∧
    withdrawnApply.state.calls = [.netApplied, .ready, .start, .start] ∧
    withdrawnApply.state.panel.disk.history ≠ withdrawnPanel.disk.history ∧
    withdrawnApply.state.panel.disk.live ≠ withdrawnPanel.disk.live := by
  have herased := erases_apply accessHost sampleNode false firstStartFails ⟨withdrawnPanel,[]⟩
  refine ⟨failed_of_isFailed (by decide +kernel),by rw [herased]; rfl,?_,?_,?_⟩
  all_goals decide +kernel

/-- The failed apply of the sample panel fails closed. -/
theorem failed_apply_fails_closed_sample :
    ∃ e v, (applyNode accessHost sampleNode false firstStartFails withdrawnPanel).outcome =
        .done (.error e) ∧
      (applyNode accessHost sampleNode false firstStartFails withdrawnPanel).state = v.panel ∧
      FailsClosed accessHost withdrawnPanel sampleNode false v := by
  obtain ⟨e,hfailed⟩ : ∃ e, (applyNode accessHost sampleNode false firstStartFails
      withdrawnPanel).outcome = .done (.error e) := failed_of_isFailed (by decide +kernel)
  obtain ⟨v,-,hpanel,hclosed⟩ := failed_apply_fails_closed (by decide) hfailed
  exact ⟨e,v,hfailed,hpanel,hclosed⟩

end Samples

end PiGwPanel.GatewayPanel
