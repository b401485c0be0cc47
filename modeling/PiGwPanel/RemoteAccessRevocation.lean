import PiGwPanel.GatewayPanel

/-!
# Taking remote access away

A suspension, a deletion and a save that narrows the credentials commit first,
with a durable marker, and only then try to reach the running xray: by a full
re-apply, by rewriting the config file and reloading, or by stopping it. The
marker is dropped once one of these is known to have worked, by the request
itself, by a later apply or by the background reconcile.
-/

namespace PiGwPanel.RemoteAccessRevocation

open AnsweredProgram ConfigBuilder ConfigManager GatewayPanel PyText

variable {W Dig : Type}

section Roster

/-- `set_client_enabled` and `delete_client` know the client. -/
def hasClient (store : PanelStore W) (id : String) : Bool := store.rwClients.any fun c => c.id = id

/-- `set_client_enabled`. -/
def setClientEnabled (id : String) (enabled : Bool) (store : PanelStore W) : PanelStore W :=
  { store with
    rwClients := store.rwClients.map fun c => if c.id = id then { c with enabled := enabled } else c
    revoked := if enabled then store.revoked.filter fun other => other ≠ id
      else id :: store.revoked }

/-- `delete_client`. -/
def deleteClient (id : String) (store : PanelStore W) : PanelStore W :=
  { store with
    rwClients := store.rwClients.filter fun c => c.id ≠ id
    revoked := id :: store.revoked }

/-- Append an enabled client. -/
def appendClient (id email : String) (store : PanelStore W) : PanelStore W :=
  { store with
    rwClients := store.rwClients ++ [⟨id, email, true⟩]
    revoked := store.revoked.filter fun other => other ≠ id }

/-- Most clients a roster takes. -/
def maxClients : ℕ := 16

/-- `_EMAIL`. -/
def isClientName (email : String) : Bool :=
  email.toList ≠ [] && email.toList.length ≤ 40 &&
    email.toList.all fun c => c.isAlphanum || c ∈ ['.', '_', '-']

/-- Why `add_client` refuses a client. -/
def clientIssue (store : PanelStore W) (email : String) : Option String :=
  if !isClientName email then
    some "client name must be 1-40 chars of letters, digits, dot, dash or underscore"
  else if store.rwClients.any fun c => c.email = email then
    some ("a client named " ++ pyRepr email ++ " already exists")
  else if maxClients ≤ store.rwClients.length then
    some ("at most " ++ toString maxClients ++ " clients (remove one first)")
  else none

/-- `add_client`, for the id `uuid4` came up with. -/
def addClient (id email : String) : PanelProg W Dig Unit := do
  let store ← readStore
  match clientIssue store (stripText email) with
  | some issue => Prog.raise issue
  | none => writeStore (appendClient id (stripText email))

/-- `_rw_mark_reconcile_pending`. -/
def rwMarkReconcilePending : PanelProg W Dig Unit := writeStore (PanelStore.withPending true)

end Roster

section Runtime

/-- How a revocation reached the running xray. -/
inductive RwOutcome where
  | reapplied
  | rebuilt
  | cleaned
  | notLive
  | stopped
  | stopFailed
  deriving DecidableEq, Repr

/-- `_RW_RECONCILED`. -/
def RwOutcome.reconciled (how : RwOutcome) : Bool := how ≠ .stopFailed

/-- `_rw_live_inbound`: a file that cannot be read counts as carrying the inbound. -/
def rwLiveInbound (live : FileText Config) : Bool :=
  match live with
  | .holds cfg => cfg.inbounds.any fun i => i.tag = rwTag
  | .absent => true
  | .damaged => true

/-- Construction of a `ConfigManager`. -/
def openManager : PanelProg W Dig Unit := do
  let setup ← Prog.ask
  if setup.said then pure () else Prog.raise setup.text

/-- `_rw_fail_safe_stop`. -/
def rwFailSafeStop : PanelProg W Dig RwOutcome := do
  let stopped ← Prog.attempt supervisorStop
  let _ ← Prog.attempt netCall
  match stopped with
  | .ok true => pure .stopped
  | .ok false => pure .stopFailed
  | .error _ => pure .stopFailed

variable [DecidableEq Dig] (host : Host W Dig)

/-- `_rw_reload_if_running`. -/
def rwReloadIfRunning : PanelProg W Dig (Option Bool) := do
  match ← Prog.attempt (reloadIfRunning host) with
  | .ok reloaded => pure reloaded
  | .error _ => pure (some false)

/-- Reload a running xray, or stop it; one that turns out not to run needs nothing more. -/
def rwReloadOrStop (gone : RwOutcome) : PanelProg W Dig RwOutcome := do
  match ← rwReloadIfRunning host with
  | some true => pure .rebuilt
  | none => pure gone
  | some false => rwFailSafeStop

/-- `_rw_push_to_runtime`. -/
def rwPushToRuntime (running : Option Bool) : PanelProg W Dig RwOutcome := do
  if !(rwLiveInbound (← Prog.read).disk.live) then
    match running with
    | some false => pure .notLive
    | some true => rwReloadOrStop host .notLive
    | none => rwFailSafeStop
  else
    match running, ← rwWriteConfig host with
    | some true, true => rwReloadOrStop host .cleaned
    | some false, true => pure .cleaned
    | _, _ => rwFailSafeStop

/-- `_rw_revoke_apply`. -/
def rwRevokeApply : PanelProg W Dig RwOutcome := do
  match ← rwSupervisorRunning with
  | some true =>
    match ← Prog.attempt (reapplyActiveNode host true) with
    | .ok (some (.ok ())) => pure .reapplied
    | .ok none => rwPushToRuntime host (some true)
    | _ => do
      let running ← rwSupervisorRunning
      rwPushToRuntime host running
  | running => rwPushToRuntime host running

/-- `_rw_revoke`: whatever the runtime half did, the rollback target goes. -/
def rwRevoke : PanelProg W Dig RwOutcome := do
  let result ← Prog.attempt (rwRevokeApply host)
  openManager
  let _ ← onDisk invalidateRollback
  match result with
  | .error e => Prog.raise e
  | .ok how =>
    if how.reconciled then do
      let _ ← rwClearReconcilePending
      pure how
    else pure how

/-- `_rw_drop_unsafe_rollback`. -/
def rwDropUnsafeRollback : PanelProg W Dig Unit := do
  match ← Prog.attempt openManager with
  | .error _ => pure ()
  | .ok () =>
    match rollbackTarget host.digest (← Prog.read).disk with
    | none => do let _ ← onDisk invalidateRollback
    | some candidate =>
      match ← Prog.attempt (rwExcessNow host candidate) with
      | .ok false => pure ()
      | _ => do let _ ← onDisk invalidateRollback

/-- `_rw_reconcile_runtime`: whether the marker is provably gone. -/
def rwReconcileRuntime : PanelProg W Dig Bool := do
  let running ← rwSupervisorRunning
  let how ← rwPushToRuntime host running
  rwDropUnsafeRollback host
  if how.reconciled then rwClearReconcilePending else pure false

/-- `rw_reconcile_pending`. -/
def rwReconcilePending : PanelProg W Dig Bool := do
  if ← rwReconcileIsPending then
    orFalse (do
      if ← rwReconcileIsPending then rwReconcileRuntime host else pure true)
  else pure true

end Runtime

section Routes

variable [DecidableEq Dig] (host : Host W Dig)

/-- Take a client off the live roster: the roster and the marker commit together, then the
runtime follows. -/
def revokeClient (id : String) (change : PanelStore W → PanelStore W) : PanelProg W Dig Unit := do
  transaction (do
    let store ← readStore
    if hasClient store id then do
      writeStore change
      rwMarkReconcilePending
    else Prog.raise "client not found")
  let _ ← rwRevoke host

/-- `PATCH /rw/clients/{id}` with `enabled` false. -/
def suspendClient (id : String) : PanelProg W Dig Unit :=
  revokeClient host id (setClientEnabled id false)

/-- `DELETE /rw/clients/{id}`. -/
def deleteRwClient (id : String) : PanelProg W Dig Unit := revokeClient host id (deleteClient id)

/-- `PATCH /rw/clients/{id}` with `enabled` true. -/
def resumeClient (id : String) : PanelProg W Dig Unit :=
  transaction (do
    let store ← readStore
    if hasClient store id then do
      writeStore (setClientEnabled id true)
      reapplyOr502 host
    else Prog.raise "client not found")

/-- `POST /rw/clients`. -/
def addRwClient (id email : String) : PanelProg W Dig Unit :=
  transaction (do
    addClient id email
    reapplyOr502 host)

/-- The store half of `PUT /rw`: whether the save narrows. -/
def saveRw (rest : W) : PanelProg W Dig Bool := do
  let store ← readStore
  writeStore fun s => { s with rest := rest }
  if host.rwNarrows store.rest rest then do
    rwMarkReconcilePending
    pure true
  else do
    reapplyOr502 host
    pure false

/-- `PUT /rw`. -/
def putRw (rest : W) : PanelProg W Dig Unit := do
  let narrows ← transaction (saveRw host rest)
  if narrows then do let _ ← rwRevoke host else pure ()

/-- `POST /xray/start`. -/
def xrayStart : PanelProg W Dig Unit := do
  match ← reapplyActiveNode host false with
  | none => do
    rwGuardStart host
    supervisorStart host
  | some result => refuse result

/-- `POST /xray/stop`. -/
def xrayStop : PanelProg W Dig Unit := do
  let stopped ← supervisorStop
  match ← netCall with
  | some e => Prog.raise e
  | none => if stopped then pure () else Prog.raise "xray did not stop (it survived SIGKILL)"

/-- `_watchdog`: an xray that should run and does not is started again. -/
def watchdog : PanelProg W Dig Unit := do
  if ← poll then pure ()
  else if (← Prog.read).wantRunning then supervisorStart host
  else pure ()

/-- The part of boot that touches xray: a pending revocation first, then the saved node. -/
def boot : PanelProg W Dig Unit := do
  Prog.update Panel.crash
  let _ ← rwReconcilePending host
  let _ ← reapplyActiveNode host false

end Routes

end PiGwPanel.RemoteAccessRevocation
