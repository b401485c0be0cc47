import PiGwPanel.ConfigManager
import PiGwPanel.RemoteAccessReconcile

/-!
# The panel: store, config files and the xray process

The state the panel's operations share: the settings that select a node and
grant remote access, the three config files, and the xray child with the config
it loaded. Every operation runs under one lock, so an operation is a program
that is answered by its environment and either returns, raises or dies.

A reply's `took` says whether a write of the store or of a file happened; the
answers of xray and of the network backend are in `said` and `text`.
-/

namespace PiGwPanel.GatewayPanel

open AnsweredProgram Models ConfigBuilder ConfigManager RemoteAccessReconcile

/-- A remote-access client on the roster. -/
structure Client where
  (id email : String)
  enabled : Bool
  deriving DecidableEq, Repr

/-- What `rw_inbound.resolve` reads apart from the roster, once validated. -/
structure RwShape where
  port : ℕ
  dest : String
  serverNames : List String
  privateKey : String
  shortIds : List String
  hosts : List (String × String)
  deriving DecidableEq, Repr

/-- The part of the store the panel's operations act on. -/
structure PanelStore (W : Type) where
  nodes : List Node
  (activeNodeId prevActiveNodeId : Option ℕ)
  /-- The node of a switch that has not been recorded yet. -/
  pendingActiveNodeId : Option ℕ
  /-- A committed narrowing of remote access has not reached the running xray. -/
  rwReconcilePending : Bool
  rwClients : List Client
  /-- Everything else a config is built from, the profile a node is assigned included. -/
  rest : W
  /-- Ghost: the client ids a suspension or deletion removed and nothing granted again. -/
  revoked : List String

/-- What stays fixed while the panel runs. -/
structure Host (W Dig : Type) where
  settings : Settings
  /-- Profile, routing, stats and the other options read from the store for a node. -/
  buildOptions : W → Node → Except String BuildOptions
  /-- The road-warrior settings; nothing when they are switched off or do not validate. -/
  rwShape : W → Option RwShape
  /-- `_rw_narrows`: the new credentials take access away. -/
  rwNarrows : W → W → Bool
  digest : Config → Dig

/-- The panel with its files and its xray child. -/
structure Panel (W Dig : Type) where
  /-- The store as the panel's connection sees it. -/
  store : PanelStore W
  /-- What the database holds while a transaction is open. -/
  committed : Option (PanelStore W)
  /-- A nested block of the open transaction failed. -/
  rollbackOnly : Bool
  disk : Disk Config Dig
  /-- The config the running xray loaded, while one runs. -/
  child : Option Config
  wantRunning : Bool

/-- A panel operation; an exception carries the text of the failure. -/
abbrev PanelProg (W Dig α : Type) := Prog Reply (Panel W Dig) String α

variable {W Dig α : Type}

section Store

/-- `get_node`. -/
def PanelStore.getNode (store : PanelStore W) (id : ℕ) : Option Node :=
  (store.nodes.find? fun node => node.id = id).map Node.normalize

/-- `rw_inbound.resolve`; settings that do not validate count as switched off, as in every
caller. -/
def resolve (host : Host W Dig) (store : PanelStore W) : Option RwInbound :=
  match host.rwShape store.rest, store.rwClients.filter fun c => c.enabled with
  | some shape, first :: others =>
    some { port := shape.port
           dest := shape.dest
           serverNames := shape.serverNames
           privateKey := shape.privateKey
           shortIds := shape.shortIds
           clients := (first :: others).map fun c => ⟨c.id, c.email⟩
           hosts := shape.hosts }
  | _, _ => none

/-- `build_node_config`. -/
def buildNodeConfig (host : Host W Dig) (store : PanelStore W) (node : Node) :
    Except String Config := do
  let options ← host.buildOptions store.rest node
  buildConfig node host.settings options (resolve host store)

/-- A read of the store, which may raise. -/
def readStore : PanelProg W Dig (PanelStore W) := do
  let reply ← Prog.ask
  if reply.said then pure (← Prog.read).store else Prog.raise reply.text

/-- A write of the store: it happens or raises. -/
def writeStore (change : PanelStore W → PanelStore W) : PanelProg W Dig Unit := do
  let reply ← Prog.ask
  if reply.took then Prog.update fun s => { s with store := change s.store }
  else Prog.raise reply.text

/-- A program over the config files. -/
def onDisk (m : DiskProg Config Dig α) : PanelProg W Dig α :=
  Prog.on Panel.disk (fun d s => { s with disk := d }) m

/-- Open a transaction. -/
def Panel.begin (s : Panel W Dig) : Panel W Dig :=
  { s with committed := some s.store, rollbackOnly := false }

/-- The open transaction takes effect. -/
def Panel.commit (s : Panel W Dig) : Panel W Dig := { s with committed := none }

/-- The open transaction is undone. -/
def Panel.abandon (s : Panel W Dig) : Panel W Dig :=
  { s with store := s.committed.getD s.store, committed := none, rollbackOnly := false }

/-- The open transaction can only be undone any more. -/
def Panel.poison (s : Panel W Dig) : Panel W Dig := { s with rollbackOnly := true }

/-- Why a transaction whose nested block failed is not committed. -/
def rolledBackText : String :=
  "transaction rolled back: a nested block failed and its exception was handled inside the " ++
  "transaction"

/-- `store.transaction()`: the outermost block commits or undoes everything in it, a nested
block that raises only condemns the outer one. -/
def transaction (body : PanelProg W Dig α) : PanelProg W Dig α := do
  match (← Prog.read).committed with
  | some _ =>
    match ← Prog.attempt body with
    | .ok value => pure value
    | .error e => do
      Prog.update Panel.poison
      Prog.raise e
  | none => do
    Prog.update Panel.begin
    match ← Prog.attempt body with
    | .error e => do
      Prog.update Panel.abandon
      Prog.raise e
    | .ok value =>
      if (← Prog.read).rollbackOnly then do
        Prog.update Panel.abandon
        Prog.raise rolledBackText
      else do
        let reply ← Prog.ask
        if reply.took then do
          Prog.update Panel.commit
          pure value
        else do
          Prog.update Panel.abandon
          Prog.raise reply.text

/-- `rw_reconcile_is_pending`. -/
def rwReconcileIsPending : PanelProg W Dig Bool := do
  match ← Prog.attempt readStore with
  | .ok store => pure store.rwReconcilePending
  | .error _ => pure false

/-- Set or drop the pending-revocation marker. -/
def PanelStore.withPending (pending : Bool) (store : PanelStore W) : PanelStore W :=
  { store with rwReconcilePending := pending }

/-- `rw_clear_reconcile_pending`: true only when the marker was read back absent. -/
def rwClearReconcilePending : PanelProg W Dig Bool := do
  match ← Prog.attempt (writeStore (PanelStore.withPending false)) with
  | .error _ => pure false
  | .ok () =>
    match ← Prog.attempt readStore with
    | .ok store => pure !store.rwReconcilePending
    | .error _ => pure false

/-- `_rw_complete_pending`. -/
def rwCompletePending : PanelProg W Dig Unit := do
  if ← rwReconcileIsPending then
    let _ ← rwClearReconcilePending
  else pure ()

end Store

section Guard

/-- The config a file holds, when it can be read back. -/
def readBack (text : FileText Config) : Option Config :=
  match text with
  | .holds cfg => some cfg
  | .absent => none
  | .damaged => none

/-- `_rw_rebuild_node`: the node a config can still be rebuilt from. -/
def rwRebuildNode (store : PanelStore W) : Option Node :=
  store.activeNodeId.bind store.getNode <|> store.prevActiveNodeId.bind store.getNode

variable [DecidableEq Dig] (host : Host W Dig)

/-- One producer of `_rw_write_config`: leave a file alone that would not change, else write
the config so that nothing can bring the old one back. -/
def installClean (old : Option Config) (produced : Option Config) : PanelProg W Dig Bool := do
  match produced with
  | none => pure false
  | some cfg =>
    if old.map host.digest = some (host.digest cfg) then pure true
    else do
      let (ok, _) ← onDisk (applyIrreversible cfg)
      pure ok

/-- The config on disk brought in line with what the store grants. -/
def sanitizeLive (old : Option Config) : PanelProg W Dig Bool := do
  let store ← readStore
  installClean host old (old.map (rwReconciled host.settings (resolve host store)))

/-- The config of a node rebuilt from the store. -/
def rebuildLive (old : Option Config) (node : Option Node) : PanelProg W Dig Bool := do
  match node with
  | none => pure false
  | some node => do
    let store ← readStore
    match buildNodeConfig host store node with
    | .error e => Prog.raise e
    | .ok cfg => installClean host old (some cfg)

/-- The value of a program whose exceptions count as a refusal. -/
def orFalse (m : PanelProg W Dig Bool) : PanelProg W Dig Bool := do
  match ← Prog.attempt m with
  | .ok value => pure value
  | .error _ => pure false

/-- `_rw_write_config`: true when the file provably grants no more than the store. -/
def rwWriteConfig : PanelProg W Dig Bool := do
  let setup ← Prog.ask
  if !setup.said then pure false
  else do
    let node ← Prog.attempt readStore
    let node := match node with
      | .ok store => rwRebuildNode store
      | .error _ => none
    let old := readBack (← Prog.read).disk.live
    if ← orFalse (sanitizeLive host old) then pure true
    else orFalse (rebuildLive host old node)

/-- `_rw_excess`. -/
def rwExcessNow (cfg : Config) : PanelProg W Dig Bool := do
  if liveGrants cfg = [] then pure false
  else do
    let store ← readStore
    pure (rwExcess (resolve host store) cfg)

/-- `_rw_live_excess`: a file that cannot be read grants nothing. -/
def rwLiveExcess : PanelProg W Dig Bool := do
  match readBack (← Prog.read).disk.live with
  | none => pure false
  | some cfg => rwExcessNow host cfg

/-- `_rw_reconcile_before_serving`. -/
def rwReconcileBeforeServing : PanelProg W Dig Bool := do
  if ← rwLiveExcess host then rwWriteConfig host else pure true

/-- `rw_start_guard`. -/
def rwStartGuard : PanelProg W Dig Bool := orFalse (rwReconcileBeforeServing host)

/-- Refusal of a start on a config that cannot be cleaned. -/
def startRefusal : String :=
  "refusing to serve this config: it still grants remote access that has been revoked, and it " ++
  "could not be rewritten. Reconnect a node to rebuild it."

/-- `_rw_guard_start`. -/
def rwGuardStart : PanelProg W Dig Unit := do
  if ← rwReconcileBeforeServing host then pure () else Prog.raise startRefusal

/-- Refusal of a rollback to a config that cannot be cleaned. -/
def promotionRefusal : String :=
  "refusing to roll back: the last-good config still grants remote access that has been " ++
  "revoked, and it could not be rewritten. Nothing was promoted."

/-- A rollback candidate that was cleaned is installed so that nothing brings it back. -/
def promoteClean (clean : Config) : PanelProg W Dig Bool := do
  if ← rwExcessNow host clean then pure false
  else orFalse (do
    let (ok, _) ← onDisk (applyIrreversible clean)
    pure ok)

/-- `_rw_guard_promotion`: install the rollback candidate in a form the store grants. -/
def rwGuardPromotion (candidate : Config) : PanelProg W Dig Unit := do
  if !(← rwExcessNow host candidate) then do
    if ← onDisk (ConfigManager.rollback host.digest) then pure ()
    else Prog.raise "no promotable rollback target"
  else do
    let store ← readStore
    if ← promoteClean host (rwReconciled host.settings (resolve host store) candidate) then pure ()
    else Prog.raise promotionRefusal

end Guard

section Process

/-- `proc.poll()`: whether the child still runs; one that died is gone. -/
def poll : PanelProg W Dig Bool := do
  match (← Prog.read).child with
  | none => pure false
  | some _ => do
    let reply ← Prog.ask
    if reply.said then pure true
    else do
      Prog.update fun s => { s with child := none }
      pure false

/-- `_stop_child`: false when the child outlived SIGKILL. -/
def stopChild : PanelProg W Dig Bool := do
  if ← poll then do
    let reply ← Prog.ask
    if reply.said then do
      Prog.update fun s => { s with child := none }
      pure true
    else if reply.text = "" then pure false
    else Prog.raise reply.text
  else pure true

/-- `XraySupervisor.stop`. -/
def supervisorStop : PanelProg W Dig Bool := do
  Prog.update fun s => { s with wantRunning := false }
  stopChild

/-- `Popen`: xray serves exactly the config file it reads now, or does not come up. -/
def spawn : PanelProg W Dig Unit := do
  let reply ← Prog.ask
  if reply.said then Prog.update fun s => { s with child := readBack s.disk.live }
  else pure ()

variable [DecidableEq Dig] (host : Host W Dig)

/-- `XraySupervisor.start`: nothing is spawned over a running child or past the guard. -/
def supervisorStart : PanelProg W Dig Unit := do
  Prog.update fun s => { s with wantRunning := true }
  if ← poll then pure ()
  else if ← rwStartGuard host then spawn
  else pure ()

/-- `_wait_ready`: a child that does not answer in time is stopped. -/
def waitReady : PanelProg W Dig Bool := do
  match (← Prog.read).child with
  | none => pure false
  | some _ => do
    let reply ← Prog.ask
    if reply.said then pure true
    else do
      let _ ← stopChild
      pure false

/-- `XraySupervisor.reload`. -/
def supervisorReload : PanelProg W Dig Bool := do
  if ← supervisorStop then do
    supervisorStart host
    waitReady
  else pure false

/-- `reload_if_running`. -/
def reloadIfRunning : PanelProg W Dig (Option Bool) := do
  if ← poll then do
    let ready ← supervisorReload host
    pure (some ready)
  else pure none

/-- `_rw_supervisor_running`: unknown when the supervisor cannot be asked. -/
def rwSupervisorRunning : PanelProg W Dig (Option Bool) := do
  let reply ← Prog.ask
  if reply.said then do
    let running ← poll
    pure (some running)
  else pure none

/-- `apply_net` and `stop_net`: the error of a failed call, or an exception. -/
def netCall : PanelProg W Dig (Option String) := do
  let reply ← Prog.ask
  if reply.said then pure none
  else if reply.text = "" then Prog.raise "network backend raised"
  else pure (some reply.text)

/-- `_bounded_stop`: what to tell the operator about a child that may still run. -/
def boundedStop : PanelProg W Dig (Option String) := do
  match ← Prog.attempt supervisorStop with
  | .ok true => pure none
  | .ok false => pure (some
      "xray survived SIGKILL and is still running on the config it had loaded")
  | .error e => pure (some ("xray could not be stopped (" ++ e ++
      ") and may still be running on the config it had loaded"))

end Process

section Apply

/-- `ApplyResult`. -/
abbrev ApplyResult := Except String Unit

/-- The switch to a node as the store records it before the runtime is touched. -/
def PanelStore.withPendingNode (node : Option ℕ) (store : PanelStore W) : PanelStore W :=
  { store with pendingActiveNodeId := node }

def PanelStore.withActive (node : Option ℕ) (store : PanelStore W) : PanelStore W :=
  { store with activeNodeId := node }

def PanelStore.withPrev (node : Option ℕ) (store : PanelStore W) : PanelStore W :=
  { store with prevActiveNodeId := node }

variable [DecidableEq Dig] (host : Host W Dig)

/-- The config half of `apply_node`: build, validate and write. -/
def applyConfig (store : PanelStore W) (node : Node) (irreversible : Bool) :
    PanelProg W Dig (Bool × String) := do
  match buildNodeConfig host store node with
  | .error e => Prog.raise e
  | .ok cfg =>
    if irreversible then onDisk (applyIrreversible cfg)
    else onDisk (ConfigManager.apply host.digest cfg)

/-- The runtime half of `apply_node`. -/
def applyRuntime : PanelProg W Dig Unit := do
  if !(← supervisorReload host) then Prog.raise "xray did not come up on the new config"
  else
    match ← netCall with
    | none => pure ()
    | some e => Prog.raise ("network apply failed: " ++ e)

/-- The config rollback of a failed apply: whether it happened, and the notes it leaves. -/
def recoverConfig (irreversible : Bool) : PanelProg W Dig (Bool × List String) := do
  if irreversible then
    pure (false, ["config rollback withheld: this apply may not be undone"])
  else
    match ← Prog.attempt (onDisk (ConfigManager.rollback host.digest)) with
    | .ok true => pure (true, [])
    | .ok false => pure (false, ["config rollback unavailable"])
    | .error e => pure (false, ["config rollback raised: " ++ e, "config rollback unavailable"])

/-- The attempt of a failed apply to bring the previous tunnel back up. -/
def restorePrevious : PanelProg W Dig (Bool × List String) := do
  let restore : PanelProg W Dig (Bool × List String) := do
    if !(← supervisorReload host) then pure (false, ["previous xray did not become ready"])
    else
      match ← netCall with
      | none => pure (true, [])
      | some e => pure (false, ["previous network restore failed: " ++ e])
  match ← Prog.attempt restore with
  | .ok result => pure result
  | .error e => pure (false, ["previous runtime restore raised: " ++ e])

/-- The previous tunnel is only brought back on the config that was rolled back to. -/
def restoreAfterRollback (previousNode : Option Node) (rolledBack : Bool) :
    PanelProg W Dig (Bool × List String) :=
  if previousNode.isSome && rolledBack then restorePrevious host else pure (false, [])

/-- The end of a failed apply that restored nothing: stop xray, then close the network. -/
def failClosed : PanelProg W Dig (List String) := do
  let stopNote ← Prog.attempt supervisorStop
  let stopNote := match stopNote with
    | .ok true => []
    | .ok false => ["xray could not be stopped (it survived SIGKILL)"]
    | .error e => ["xray stop raised: " ++ e]
  match ← netCall with
  | none => pure stopNote
  | some e => pure (stopNote ++ ["fail-closed recovery failed: " ++ e])

/-- The recovery of `apply_node` after a failure behind the written config. -/
def recoverApply (previousNode : Option Node) (irreversible : Bool) :
    PanelProg W Dig (List String) := do
  let (rolledBack, notes) ← recoverConfig host irreversible
  let (restored, more) ← restoreAfterRollback host previousNode rolledBack
  if restored then pure (notes ++ more)
  else do
    let closing ← failClosed
    pure (notes ++ more ++ closing)

/-- The node a rollback returns to; a re-apply of the active node keeps the one it had. -/
def recordPrevious (previousId : Option ℕ) (node : Node) : PanelProg W Dig Unit :=
  if previousId ≠ some node.id then writeStore (PanelStore.withPrev previousId) else pure ()

/-- The bookkeeping of a completed switch. -/
def recordSwitch (previousId : Option ℕ) (node : Node) : PanelProg W Dig Unit := do
  recordPrevious previousId node
  writeStore (PanelStore.withActive (some node.id))
  writeStore (PanelStore.withPendingNode none)
  -- Uptime anchor and session baseline: columns of their own.
  writeStore id

/-- `apply_node`. -/
def applyNode (node : Node) (irreversible : Bool) : PanelProg W Dig ApplyResult := do
  let store ← readStore
  let previousId := store.activeNodeId
  match ← Prog.attempt (applyConfig host store node irreversible) with
  | .error e => pure (.error ("config apply failed: " ++ e))
  | .ok (false, out) => pure (.error out)
  | .ok (true, _) => do
    writeStore (PanelStore.withPendingNode (some node.id))
    match ← Prog.attempt (applyRuntime host) with
    | .ok () => do
      transaction (recordSwitch previousId node)
      rwCompletePending
      pure (.ok ())
    | .error e => do
      let notes ← recoverApply host (previousId.bind store.getNode) irreversible
      writeStore (PanelStore.withPendingNode none)
      let suffix := if notes = [] then "" else "; recovery: " ++ "; ".intercalate notes
      pure (.error ("apply failed after validation: " ++ e ++ suffix))

/-- `_pending_or_active`: an interrupted switch is carried forward. -/
def pendingOrActive : PanelProg W Dig (Option ℕ) := do
  let store ← readStore
  match store.pendingActiveNodeId with
  | none => pure store.activeNodeId
  | some pending =>
    if store.activeNodeId = some pending then pure store.activeNodeId
    else if (store.getNode pending).isSome then pure (some pending)
    else do
      writeStore (PanelStore.withPendingNode none)
      pure store.activeNodeId

/-- The cleanup of a saved selection whose node is gone. -/
def clearStaleActive : PanelProg W Dig (Option ApplyResult) := do
  transaction (do
    writeStore (PanelStore.withActive none)
    writeStore (PanelStore.withPendingNode none)
    writeStore id)
  match ← netCall with
  | none => pure none
  | some e => pure (some (.error ("stale active cleanup failed: " ++ e)))

/-- `reapply_active_node`. -/
def reapplyActiveNode (irreversible : Bool) : PanelProg W Dig (Option ApplyResult) := do
  match ← pendingOrActive with
  | none => pure none
  | some id => do
    let store ← readStore
    match store.getNode id with
    | none => clearStaleActive
    | some node =>
      match ← Prog.attempt (applyNode host node irreversible) with
      | .ok result => pure (some result)
      | .error e => pure (some (.error ("boot reapply failed: " ++ e)))

end Apply

section Routes

variable [DecidableEq Dig] (host : Host W Dig)

/-- An HTTP answer other than success. -/
def refuse (result : ApplyResult) : PanelProg W Dig Unit :=
  match result with
  | .ok () => pure ()
  | .error e => Prog.raise e

/-- `POST /nodes/{id}/apply`. -/
def connect (id : ℕ) : PanelProg W Dig Unit := do
  let store ← readStore
  match store.getNode id with
  | none => Prog.raise "node not found"
  | some node => do
    let result ← applyNode host node false
    refuse result

/-- `_reapply_or_502`. -/
def reapplyOr502 : PanelProg W Dig Unit := do
  match ← reapplyActiveNode host false with
  | none => pure ()
  | some result => refuse result

/-- A settings, routing or profile route that takes effect at once: the rows and the live
config are one transaction. -/
def saveAndReapply (rest : W) : PanelProg W Dig Unit :=
  transaction (do
    writeStore fun s => { s with rest := rest }
    reapplyOr502 host)

/-- `POST /nodes/{id}/disconnect`. -/
def disconnect (id : ℕ) : PanelProg W Dig Unit := do
  let store ← readStore
  match store.activeNodeId with
  | none => Prog.raise "no node is connected"
  | some active =>
    if active ≠ id then
      Prog.raise ("node " ++ toString id ++ " is not connected (active is " ++ toString active ++
        ")")
    else
      match ← netCall with
      | some e => Prog.raise e
      | none => transaction (do
          writeStore (PanelStore.withPrev store.activeNodeId)
          writeStore (PanelStore.withActive none)
          writeStore fun s => s)

/-- `DELETE /nodes/{id}`. -/
def deleteNode (id : ℕ) : PanelProg W Dig Unit := do
  let store ← readStore
  if (store.getNode id).isNone then Prog.raise "node not found"
  else if store.activeNodeId = some id then
    Prog.raise "disconnect the active node before deleting it"
  else writeStore fun s => { s with nodes := s.nodes.filter fun node => node.id ≠ id }

/-- Details of a failed recovery, appended to the refusal. -/
def withDetails (detail : String) (guard stop : Option String) : String :=
  detail ++ (match guard with
    | some e => "; fail-closed recovery failed: " ++ e
    | none => "") ++ (match stop with
    | some e => "; " ++ e
    | none => "")

/-- The runtime half of a rollback onto a previous node. -/
def rollbackOntoPrevious : PanelProg W Dig Unit := do
  if ← supervisorReload host then
    match ← netCall with
    | none => pure ()
    | some e => do
      let stop ← boundedStop
      let guard ← netCall
      Prog.raise (withDetails e guard stop)
  else do
    let stop ← boundedStop
    let guard ← netCall
    Prog.raise (withDetails "rolled-back Xray did not become ready" guard stop)

/-- The runtime half of a rollback onto no node. -/
def rollbackOntoNothing : PanelProg W Dig Unit := do
  let stop ← boundedStop
  match ← netCall with
  | some e => do
    let guard ← netCall
    Prog.raise (withDetails e guard stop)
  | none =>
    match stop with
    | some detail => Prog.raise ("rolled back, but " ++ detail)
    | none => pure ()

/-- The runtime half of a rollback. -/
def rollbackRuntime (previous : Option ℕ) : PanelProg W Dig Unit :=
  if previous.isSome then rollbackOntoPrevious host else rollbackOntoNothing

/-- `POST /rollback`: whether there was anything to roll back to. -/
def rollbackRoute : PanelProg W Dig Bool := do
  match rollbackTarget host.digest (← Prog.read).disk with
  | none => pure false
  | some candidate => do
    rwGuardPromotion host candidate
    let store ← readStore
    rollbackRuntime host store.prevActiveNodeId
    transaction (do
      writeStore (PanelStore.withActive store.prevActiveNodeId)
      writeStore id)
    pure true

end Routes

section Operations

/-- The panel process dies: its open transaction is undone, and xray dies with the container. -/
def Panel.crash (s : Panel W Dig) : Panel W Dig :=
  { s.abandon with child := none, wantRunning := false }

/-- The panel after an operation that was answered by `replies`. -/
def perform (m : PanelProg W Dig α) (replies : List Reply) (s : Panel W Dig) : Panel W Dig :=
  match (m replies s).outcome with
  | .killed => (m replies s).state.crash
  | .done _ => (m replies s).state
  | .raised _ => (m replies s).state

end Operations

section Samples

open RoutingPriority

/-- A host that builds every node with the same options and remote access in the given shape. -/
def sampleHost (shape : Option RwShape) : Host Unit Config where
  settings := sampleSettings
  buildOptions _ _ := .ok sampleOptions
  rwShape _ := shape
  rwNarrows _ _ := false
  digest := id

/-- A host whose remote access is switched on. -/
def accessHost : Host Unit Config :=
  sampleHost (some ⟨443, "www.example.org:443", ["www.example.org"], "key", ["ab12"], []⟩)

/-- A panel that has just been set up with the given store. -/
def freshPanel (store : PanelStore Unit) : Panel Unit Config :=
  ⟨store, none, false, ⟨.absent, .absent, none, []⟩, none, false⟩

end Samples

end PiGwPanel.GatewayPanel
