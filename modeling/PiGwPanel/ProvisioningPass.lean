import PiGwPanel.SegmentCover

/-!
# Provisioning passes and the changes that run them

One pass renders the plan from the settings, creates the link, stages the
enforcement over every interface that may be carrying the segment, moves the
addresses, raises the link, retires what it superseded and narrows the
enforcement again. A network change and a restore record what they are about to
put on the host, run a pass inside a database transaction, and undo the record
when the transaction is rolled back. A boot resumes an undo that was cut short.
-/

namespace PiGwPanel.ProvisioningPass

open AnsweredProgram DurableRecords SegmentHost SegmentRuleset SegmentLinks SegmentOwnership
open SegmentCover PyText

/-- What does not change while the panel runs: how addresses are read, and the configured values a
blank network row falls back to. -/
structure Setup where
  ip : InterfaceText
  /-- `host_addr6`. -/
  hostAddr6 : String → Option String
  /-- Its address is spelled as one of the panel's own. -/
  hostAddr6_checked : ∀ {text addr}, hostAddr6 text = some addr →
    checkedFamilyAddr ip 6 addr = some addr
  (segmentIface segmentIp segmentIp6 : String)

section Plan

variable (setup : Setup)

/-- A row, or what a blank one falls back to. -/
def rowOr (row fallback : String) : String := if row = "" then fallback else row

/-- The configured interface. -/
def Setup.iface (rows : NetKey → String) : String := rowOr (rows .segmentIface) setup.segmentIface

/-- The configured IPv4 address. -/
def Setup.ip4 (rows : NetKey → String) : String := rowOr (rows .segmentIp) setup.segmentIp

/-- The configured IPv6 prefix, `auto`, or blank. -/
def Setup.intent6 (rows : NetKey → String) : String :=
  stripText (rowOr (rows .segmentIp6) setup.segmentIp6)

/-- Whether IPv6 is on. -/
def ipv6On (rows : NetKey → String) : Bool := rowOr (rows .ipv6Enabled) "0" = "1"

/-- Whether the panel manages the segment. -/
def managesSegment (rows : NetKey → String) : Bool := rowOr (rows .manageSegment) "1" = "1"

/-- `_kill_switch_on`. -/
def killSwitchOn (rows : NetKey → String) : Bool := rowOr (rows .killSwitchEnabled) "1" = "1"

/-- The plan of a pass that resolved an IPv6 prefix. -/
def Setup.planOf (rows : NetKey → String) (prefix6 : String) : SegmentPlan where
  iface := setup.iface rows
  addr4 := canonicalAddr setup.ip (setup.ip4 rows ++ "/24")
  addr6 := if ipv6On rows then
    ((setup.hostAddr6 prefix6).map (canonicalAddr setup.ip)).getD "" else ""

/-- A generated prefix is used only once it is recorded; the prefix comes with the answer. -/
def generatePrefix6 : SiteProg String := do
  let reply ← Prog.ask
  match ← writeRecord (rowSlot .segmentIp6) reply.text with
  | some _ => Prog.raise .runtimeError
  | none => pure reply.text

/-- `ensure_segment_prefix6`. -/
def ensureSegmentPrefix6 : SiteProg String := do
  let s ← Prog.read
  if setup.intent6 s.records.rows ≠ "" ∨ ipv6On s.records.rows = false then
    pure (setup.intent6 s.records.rows)
  else generatePrefix6

/-- The delegated prefix or the fallback for it, whose records are kept elsewhere. -/
def delegatedPrefix6 : SiteProg String := do
  let reply ← Prog.ask
  if reply.said then pure reply.text else Prog.raise .recordUnknown

/-- `effective_segment_prefix6`. -/
def effectiveSegmentPrefix6 : SiteProg String := do
  let s ← Prog.read
  if ipv6On s.records.rows = false then pure ""
  else if (setup.intent6 s.records.rows).toLower ≠ "auto" then ensureSegmentPrefix6 setup
  else delegatedPrefix6

/-- The first lines of `_provision_segment`: sysctls, prefix and `NetPlan.from_store`. -/
def renderPlan : SiteProg SegmentPlan := do
  outside
  let _ ← ensureSegmentPrefix6 setup
  outside
  let prefix6 ← effectiveSegmentPrefix6 setup
  let s ← Prog.read
  pure (setup.planOf s.records.rows prefix6)

end Plan

section Enforcement

variable (setup : Setup)

/-- A ruleset is put on the host. -/
def Site.install (names : List String) (cover : Cover) (s : Site) : Site :=
  { s with
    host := { s.host with ruleset := names }
    installs := ⟨s.host.ruleset, names, cover, s.records⟩ :: s.installs }

/-- The call of the network backend. The render refuses a name that is none; a call that fails may
have installed the ruleset before it failed. -/
def installRuleset (names : List String) (cover : Cover) : SiteProg Bool := do
  let reply ← Prog.ask
  Prog.update fun s => if names.all legalIface && reply.took then Site.install names cover s else s
  pure (names.all legalIface && reply.took && reply.said)

/-- `_enforcement_mode`: whether it is the teardown. -/
def tearsDown : SiteProg Bool := do
  let status ← Prog.ask
  let s ← Prog.read
  if status.said then
    pure (!(status.took && s.records.rows .activeNodeId ≠ "") && !killSwitchOn s.records.rows)
  else Prog.raise .runtimeError

/-- `sync_net_plan` on a plan for these interfaces. -/
def syncNetPlan (names : List String) (cover : Cover) : SiteProg Bool := do
  match ← tearsDown with
  | true => installRuleset [] cover
  | false => installRuleset names cover

/-- `apply_enforcement`. -/
def applyEnforcement (names : List String) (cover : Cover) : SiteProg Bool := do
  match ← Prog.attempt (syncNetPlan names cover) with
  | .ok installed => pure installed
  | .error _ => pure false

/-- `_enforcement_plan`: the interfaces to name, unless a record would not answer. -/
def enforcementPlan : SiteProg (List String × Cover) := do
  outside
  let s ← Prog.read
  let cover ← enforcementCover setup.ip (setup.iface s.records.rows)
  match cover.unknown with
  | [] => pure (setup.iface s.records.rows :: cover.names, cover)
  | _ :: _ => Prog.raise .recordUnknown

/-- That plan, installed. -/
def installCovered : SiteProg Bool := do
  let (names, cover) ← enforcementPlan setup
  installRuleset names cover

/-- The two branches of `sync_net`. -/
def syncMode : SiteProg Bool := do
  match ← tearsDown with
  | true => installRuleset [] ⟨[], []⟩
  | false => installCovered setup

/-- `sync_net`, also as `stop_net` once xray is stopped. -/
def syncNet : SiteProg Bool := do
  match ← Prog.attempt (syncMode setup) with
  | .ok done => pure done
  | .error _ => pure false

/-- The guard of `boot_guard`, with the kill switch on. -/
def guardNet : SiteProg Bool := do
  match ← Prog.attempt (installCovered setup) with
  | .ok done => pure done
  | .error _ => pure false

/-- `boot_guard`. -/
def bootGuard : SiteProg Bool := do
  let s ← Prog.read
  if killSwitchOn s.records.rows then guardNet setup else pure true

/-- `_disconnected_guard_plan`. -/
def disconnectedGuardPlan : SiteProg (Option (List String × Cover)) := do
  let s ← Prog.read
  if killSwitchOn s.records.rows then
    let plan ← enforcementPlan setup
    pure (some plan)
  else pure none

end Enforcement

section Pass

variable (setup : Setup)

/-- What a pass reports. -/
structure PassResult where
  applied : Bool
  reasons : List Why

/-- `NetResult.ok` of `_provision_result`. -/
def PassResult.ok (result : PassResult) : Bool := result.applied && result.reasons.isEmpty

/-- `_clear_pd_prefix`, whose record is kept elsewhere. -/
def clearPdPrefix : SiteProg (List Why) := do
  let reply ← Prog.ask
  pure (if reply.said then [] else [.notWritten "pd_segment_prefix6"])

/-- Steps 4 to 6 of the sequence: drop-in, activation, dnsmasq, retirement. -/
def activateSegment (plan : SegmentPlan) : SiteProg (List Why) := do
  outside
  onSiteHost (linkUp plan.iface)
  outside
  onLink (retireSupersededLinks plan.iface)

/-- Step 7 for the drop-in. -/
def narrowDropIn (superseded managed : Cover) : SiteProg Unit :=
  if superseded.names ≠ [] ∧ managed.mayNarrow = true then outside else pure ()

/-- Step 7 for the ruleset. -/
def narrowRuleset (plan : SegmentPlan) (superseded remaining : Cover) : SiteProg (List Why) :=
  if superseded.names = [] then pure []
  else if remaining.mayNarrow then do
    match ← applyEnforcement [plan.iface] remaining with
    | true => pure []
    | false => pure [.enforcementRefused]
  else pure remaining.unknown

/-- The client for delegated prefixes is started or stopped. -/
def settlePd : SiteProg (List Why) := do
  let s ← Prog.read
  if ipv6On s.records.rows ∧ (stripText (s.records.rows .segmentIp6)).toLower = "auto" then
    outside
    pure []
  else clearPdPrefix

/-- The rest of a pass, once the addresses are on. -/
def finishMove (plan : SegmentPlan) (superseded : Cover) (reasons : List Why) :
    SiteProg PassResult := do
  let links ← activateSegment plan
  let managed ← supersededState setup.ip plan.iface
  let remaining ← enforcementCover setup.ip plan.iface
  narrowDropIn superseded managed
  let narrow ← narrowRuleset plan superseded remaining
  let records ← settlePd
  pure ⟨true, links ++ records ++ narrow ++ reasons⟩

/-- Step 3 and what depends on it. -/
def placeSegment (plan : SegmentPlan) (superseded : Cover) : SiteProg PassResult := do
  let addrs ← onOwn (reconcileSegmentAddresses setup.ip plan)
  match addrs.applied with
  | true => finishMove setup plan superseded addrs.reasons
  | false => pure ⟨false, addrs.reasons⟩

/-- Step 2: a pass that moves the segment stages the enforcement over the whole cover first. -/
def stageSegment (plan : SegmentPlan) (superseded cover : Cover) : SiteProg PassResult :=
  if superseded.names = [] then placeSegment setup plan superseded
  else if cover.unknown = [] then do
    match ← applyEnforcement (plan.iface :: cover.names) cover with
    | true => placeSegment setup plan superseded
    | false => pure ⟨false, [.enforcementRefused]⟩
  else pure ⟨false, cover.unknown⟩

/-- The sequence of a pass, once it knows what it moves off. -/
def moveSegment (plan : SegmentPlan) (superseded cover : Cover) : SiteProg PassResult :=
  if superseded.unknown = [] then do
    onLink (ensureSegmentLink plan.iface)
    stageSegment setup plan superseded cover
  else pure ⟨false, superseded.unknown⟩

/-- `_provision_segment`. -/
def provisionSegment : SiteProg PassResult := do
  let plan ← renderPlan setup
  let superseded ← supersededState setup.ip plan.iface
  let cover ← enforcementCover setup.ip plan.iface
  moveSegment setup plan superseded cover

/-- A pass while segment management is off. -/
def releaseSegment : SiteProg PassResult := do
  let records ← clearPdPrefix
  outside
  let addrs ← onOwn (clearManagedAddresses setup.ip)
  let links ← onLink clearManagedLink
  outside
  pure ⟨true, links ++ records ++ addrs⟩

/-- Which of the two passes the settings ask for. -/
def passByRows : SiteProg PassResult := do
  outside
  let s ← Prog.read
  if managesSegment s.records.rows then provisionSegment setup else releaseSegment setup

/-- The part of `host_provision` whose exceptions are caught. -/
def passOnce : SiteProg PassResult := do
  drainEnforcementCover setup.ip
  passByRows setup

/-- `_hand_back_from_emergency_deny`, which enforces again when a deny is in force. -/
def handBack : SiteProg Bool := do
  let deny ← Prog.ask
  match deny.took with
  | false => pure true
  | true => syncNet setup

/-- `host_provision`: whether the pass went through. -/
def hostProvision : SiteProg Bool := do
  let result ← Prog.attempt (passOnce setup)
  let released ← handBack setup
  match result with
  | .ok result => pure (result.ok && released)
  | .error _ => pure false

/-- The reconcile of `_pd_callback`, for the prefix that comes with the answer. -/
def pdChanged : SiteProg Unit := do
  let reply ← Prog.ask
  let s ← Prog.read
  if managesSegment s.records.rows ∧ ipv6On s.records.rows ∧
      (stripText (s.records.rows .segmentIp6)).toLower = "auto" then
    let _ ← onOwn (reconcileSegmentAddresses setup.ip (setup.planOf s.records.rows reply.text))
    outside
  else pure ()

end Pass

section Transaction

/-- A transaction begins. -/
def Site.begin (s : Site) : Site := { s with saved := some s.records }

/-- The records go back to where the open transaction began. -/
def Site.rollBack (s : Site) : Site :=
  { s with records := s.saved.getD s.records, saved := none }

/-- The records of the open transaction stay. -/
def Site.commit (s : Site) : Site := { s with saved := none }

/-- What came of the body of a transaction, and what it had read back by then. -/
structure Attempted where
  installed : Option (List (String × FieldValue))
  ok : Bool

/-- The end of a `with store.transaction()` block. -/
def endTransaction (tried : Attempted) : SiteProg Attempted :=
  match tried.ok with
  | false => do
    Prog.update Site.rollBack
    pure tried
  | true => do
    let reply ← Prog.ask
    match reply.took with
    | true =>
      Prog.update Site.commit
      pure tried
    | false =>
      Prog.update Site.rollBack
      pure { tried with ok := false }

/-- `with store.transaction()` around a body. -/
def inTransaction (body : SiteProg Attempted) : SiteProg Attempted := do
  Prog.update Site.begin
  match ← Prog.attempt body with
  | .ok tried => endTransaction tried
  | .error _ => endTransaction ⟨none, false⟩

end Transaction

section Changes

variable (setup : Setup)

/-- One value of `managed_host_state`. -/
def managedField (slot : Slot OwnSide String) : OwnProg FieldValue := do
  match ← storeGet slot with
  | none => Prog.raise .osError
  | some none => pure (.other false)
  | some (some text) => pure (.text text)

/-- `managed_host_state`. -/
def managedHostState : OwnProg (List (String × FieldValue)) := do
  let iface ← managedField ifaceSlot
  let addr4 ← managedField addr4Slot
  let addr6 ← managedField addr6Slot
  pure [("iface", iface), ("addr4", addr4), ("addr6", addr6)]

/-- `_truthy`. -/
def truthy (text : String) : Bool :=
  ["1", "true", "yes", "on"].contains (stripText text).toLower

/-- `_projected_manage_segment`. -/
def projectedManageSegment (rows : NetKey → String) (data : List (NetKey × String)) : Bool :=
  let raw := (data.lookup .manageSegment).getD (rows .manageSegment)
  stripText raw = "" || truthy raw

/-- The dictionary of `provision_candidate`, for what the probe of the link answered. -/
def Setup.candidateOf (rows : NetKey → String) (data : List (NetKey × String)) (state : LinkState) :
    CandidateData :=
  let iface := rowOr ((data.lookup .segmentIface).getD "") (setup.iface rows)
  let ip := rowOr ((data.lookup .segmentIp).getD "") (setup.ip4 rows)
  let ip6 := (data.lookup .segmentIp6).getD (rowOr (rows .segmentIp6) setup.segmentIp6)
  let on6 := ((data.lookup .ipv6Enabled).map truthy).getD (ipv6On rows)
  { iface := iface
    addr4 := if ip = "" then "" else ip ++ "/24"
    addr6 := if on6 then (setup.hostAddr6 ip6).getD "" else ""
    vlan := (parseVlan iface).2.isSome
    linkState := state
    armed := none }

/-- `candidate_link_probe`. -/
def candidateLinkProbe (iface : String) : HostProg LinkState :=
  if iface = "" then pure .unknown else probeLink iface

/-- `provision_candidate`; none when the panel would put nothing anywhere. -/
def provisionCandidate (data : List (NetKey × String)) : SiteProg (Option CandidateData) := do
  outside
  let s ← Prog.read
  if projectedManageSegment s.records.rows data then
    let state ← onSiteHost
      (candidateLinkProbe (setup.candidateOf s.records.rows data .unknown).iface)
    pure (some (setup.candidateOf s.records.rows data state))
  else pure none

/-- The settings of a change, one write after the other. -/
def writeRows : List (NetKey × String) → SiteProg Unit
  | [] => pure ()
  | (key, text) :: rest => do
    match ← setSetting (rowSlot key) text with
    | true => writeRows rest
    | false => Prog.raise .osError

/-- The pass of a change and what follows it inside the transaction. -/
def passInside : SiteProg Attempted := do
  let ok ← hostProvision setup
  let installed ← onOwn managedHostState
  match ok with
  | false => pure ⟨some installed, false⟩
  | true =>
    let synced ← syncNet setup
    pure ⟨some installed, synced⟩

/-- The body of the transaction of a change. -/
def changeBody (writes : List (NetKey × String)) : SiteProg Attempted := do
  writeRows writes
  passInside setup

section

variable (candidate : Option CandidateData) (doc : List (NetKey × String))

/-- The undo of a change that was rolled back. -/
def undoChange (installed : Option (List (String × FieldValue))) : SiteProg Unit :=
  match candidate with
  | none => pure ()
  | some data => do
    let unresolved ← undoProvisionCandidate setup.ip data installed
    settleUndo unresolved

/-- What a change that was rolled back does next. -/
def recoverChange (installed : Option (List (String × FieldValue))) : SiteProg Unit := do
  let _ ← hostProvision setup
  undoChange setup candidate installed
  let _ ← syncNet setup
  pure ()

/-- The record of a change that was committed is settled. -/
def settleCandidate : SiteProg Unit :=
  match candidate with
  | none => pure ()
  | some _ => clearProvisionCandidate

/-- The transaction of a network change and both its ends. -/
def runChange (writes : List (NetKey × String)) : SiteProg Unit := do
  let tried ← inTransaction (changeBody setup writes)
  match tried.ok with
  | true => settleCandidate candidate
  | false => recoverChange setup candidate tried.installed

/-- `PUT /api/network`, for a request that passed its validation. -/
def putNetwork (data : List (NetKey × String)) : SiteProg Unit := do
  let candidate ← provisionCandidate setup data
  recordProvisionCandidate setup.ip candidate
  runChange setup candidate data

/-- `_unarmed_candidate`. -/
def unarmed (data : CandidateData) : CandidateData where
  iface := data.iface
  addr4 := ""
  addr6 := ""
  vlan := false
  linkState := .unknown
  armed := some false

/-- `_restore_candidate_data`: every value as the box will run it. -/
def Setup.restoreData : List (NetKey × String) :=
  let projected (key : NetKey) (fallback : String) :=
    (key, rowOr (stripText ((doc.lookup key).getD "")) fallback)
  [projected .segmentIface setup.segmentIface, projected .segmentIp setup.segmentIp,
    projected .segmentIp6 setup.segmentIp6, projected .ipv6Enabled "0",
    projected .manageSegment "1"]

/-- The rows an import leaves: what the document has, and blanks for the rest. -/
def importedRows : List (NetKey × String) :=
  ([.segmentIface, .segmentIp, .segmentIp6, .ipv6Enabled, .manageSegment, .killSwitchEnabled]).map
    (fun key => (key, (doc.lookup key).getD "")) ++ [(.activeNodeId, "")]

/-- The transaction of a restore and both its ends. -/
def runRestore : SiteProg Unit := do
  let tried ← inTransaction (changeBody setup (importedRows doc))
  match tried.ok with
  | true => settleCandidate candidate
  | false => do
    writeRows [(.activeNodeId, "")]
    recoverChange setup candidate tried.installed

/-- A restore arms its record and runs. -/
def armRestore : SiteProg Unit := do
  match ← Prog.attempt (recordProvisionCandidate setup.ip candidate) with
  | .error _ => settleCandidate candidate
  | .ok _ => runRestore setup candidate doc

/-- The stop of xray in a restore: whether it took. -/
def stopXray : SiteProg Bool := do
  let reply ← Prog.ask
  if reply.said then pure reply.took else Prog.raise .runtimeError

/-- The disconnected state is enforced on the plan rendered before the stop. -/
def enforceDisconnected : Option (List String × Cover) → SiteProg Bool
  | none => installRuleset [] ⟨[], []⟩
  | some (names, cover) => syncNetPlan names cover

/-- A restore stops xray and enforces the disconnected state. -/
def stopForRestore (plan : Option (List String × Cover)) : SiteProg Bool := do
  match ← stopXray with
  | false => pure false
  | true => enforceDisconnected plan

/-- The part of a restore between its two records; an exit here settles the first one. -/
def disconnectRestore : SiteProg Unit := do
  match ← Prog.attempt (disconnectedGuardPlan setup) with
  | .error _ => settleCandidate candidate
  | .ok plan =>
    match ← stopForRestore plan with
    | false => settleCandidate candidate
    | true => armRestore setup candidate doc

/-- `restore_backup`, for a document that passed its validation. -/
def restoreBackup : SiteProg Unit := do
  let candidate ← provisionCandidate setup (setup.restoreData doc)
  recordProvisionCandidate setup.ip (candidate.map unarmed)
  disconnectRestore setup candidate doc

end

/-- The lifespan of the app up to the first pass: the forward path is accounted for, then an undo
that was cut short is resumed. -/
def boot : SiteProg Unit := do
  let guarded ← bootGuard setup
  let deny ← Prog.ask
  match guarded || deny.said with
  | false => pure ()
  | true =>
    resumePendingProvisionUndo setup.ip
    let _ ← hostProvision setup
    pure ()

end Changes

section Runs

variable (setup : Setup)

/-- What may happen to the panel and its host. -/
inductive Event where
  /-- A pass outside any change. -/
  | provision
  /-- A delegated prefix changed. -/
  | delegated
  | put (data : List (NetKey × String))
  | restore (doc : List (NetKey × String))
  | boot
  /-- The host restarts with the devices of others that come back. -/
  | reboot (others : String → Bool)
  /-- Somebody else creates a device. -/
  | created (name : String)
  /-- Somebody else removes a device. -/
  | removed (name : String)

/-- The host after a restart. -/
def restarted (others : String → Bool) (host : Host) : Host :=
  { host with
    links := fun name => if others name then some .other else none
    addrs := []
    ruleset := [] }

/-- A device of others, unless there is one already. -/
def createdByOthers (name : String) (host : Host) : Host :=
  if host.links name = none then
    { host with links := Function.update host.links name (some .other) }
  else host

/-- Run an operation until it ends or its process dies, which rolls an open transaction back. -/
def perform {α : Type} (m : SiteProg α) (replies : List Answer) (s : Site) : Site :=
  Site.rollBack (m replies s).state

/-- The state after one event, given the answers it meets. -/
def step (s : Site) : Event × List Answer → Site
  | (.provision, replies) => perform (hostProvision setup) replies s
  | (.delegated, replies) => perform (pdChanged setup) replies s
  | (.put data, replies) => perform (putNetwork setup data) replies s
  | (.restore doc, replies) => perform (restoreBackup setup doc) replies s
  | (.boot, replies) => perform (boot setup) replies s
  | (.reboot others, _) => { s with host := restarted others s.host }
  | (.created name, _) => { s with host := createdByOthers name s.host }
  | (.removed name, _) => { s with host := s.host.removeLink name }

end Runs

section Samples

/-- Three addresses, read as themselves. -/
def sampleText : InterfaceText where
  interface := fun text =>
    if text ∈ ["192.168.2.1/24", "192.168.3.1/24", "192.168.4.1/24"] then some (text, 4) else none
  spelled := by
    intro text spelling version h
    have htext : text ∈ ["192.168.2.1/24", "192.168.3.1/24", "192.168.4.1/24"] := by
      by_contra hnot
      rw [if_neg hnot] at h
      cases h
    rw [if_pos htext] at h
    obtain ⟨rfl, rfl⟩ := Prod.mk.inj (Option.some.inj h)
    refine ⟨by rw [if_pos htext], ?_⟩
    simp only [List.mem_cons, List.not_mem_nil, or_false] at htext
    obtain rfl | rfl | rfl := htext <;> decide

/-- A panel configured for a VLAN, without IPv6. -/
def sampleSetup : Setup where
  ip := sampleText
  hostAddr6 := fun _ => none
  hostAddr6_checked := fun h => nomatch h
  segmentIface := "eth0.2"
  segmentIp := "192.168.2.1"
  segmentIp6 := ""

/-- The records of a panel that never ran. -/
def blankRecords : Records where
  iface := some ""
  addr4 := some ""
  addr6 := some ""
  stale := .empty
  links := .empty
  survivors := .empty
  undo := some .blank
  rows := fun _ => ""

/-- Its host, with one device. -/
def sampleHost : Host where
  links := fun name => if name = "eth0" then some .other else none
  addrs := []
  ruleset := []
  deleted := []
  unseen := []
  touched := []

/-- A panel that never ran, and its host. -/
def sampleSite : Site := ⟨blankRecords, none, sampleHost, []⟩

/-- An event in which every command succeeds. -/
def smoothly (event : Event) : Event × List Answer := (event, List.replicate 400 Answer.good)

end Samples

end PiGwPanel.ProvisioningPass
