import PiGwPanel.SegmentReconcile

/-!
# The interfaces that may be carrying the segment

Besides the ownership records and the link ledger, two records say where the
segment may be: the undo record of a change that is under way and the ledger of
what a rolled-back change may have left behind. The enforcement cover reads all
of them, and says so when one of them would not answer. The undo of a change
turns the first of the two into the second before it settles it.
-/

namespace PiGwPanel.SegmentCover

open AnsweredProgram DurableRecords SegmentHost SegmentRuleset SegmentLinks SegmentOwnership PyText

section UndoRecord

/-- A value inside the stored undo record. -/
inductive FieldValue where
  | text (value : String)
  | flag (value : Bool)
  | null
  /-- A number, an array or an object; whether an object in it names a key twice. -/
  | other (twice : Bool)
  deriving DecidableEq, Repr

/-- The text of the undo record, as `json.loads` reads it. -/
inductive UndoText where
  | blank
  | unparsable
  /-- JSON, but not an object; whether an object in it names a key twice. -/
  | notRecord (twice : Bool)
  | record (fields : List (String × FieldValue))
  deriving DecidableEq, Repr

/-- `RESOLVED_UNDO`, the settled form. -/
def resolvedUndo : UndoText := .record [("resolved", .flag true)]

/-- `Candidate`. -/
structure Candidate where
  (iface addr4 addr6 : String)
  vlan : Bool
  prior : LinkState
  deriving DecidableEq, Repr

/-- `Cover`: the interfaces named, and why the answer is not complete. -/
structure Cover where
  names : List String
  unknown : List Why
  deriving DecidableEq, Repr

/-- `Cover.may_narrow`: every source answered, and none of them names an interface. -/
def Cover.mayNarrow (cover : Cover) : Bool := cover.unknown.isEmpty && cover.names.isEmpty

/-- `Pending`. -/
structure Pending where
  candidate : Option Candidate
  unusable : Bool
  cover : Cover
  deriving DecidableEq, Repr

/-- Whether `one_value_per_key` refuses an object with these fields. -/
def namesTwice (fields : List (String × FieldValue)) : Bool :=
  !(fields.map Prod.fst).Nodup || fields.any fun field => field.2 = .other true

/-- The text of a link state. -/
def linkStateText : LinkState → String
  | .present => "present"
  | .absent => "absent"
  | .unknown => "unknown"

variable (ip : InterfaceText)

section

variable (fields : List (String × FieldValue)) (key : String)

/-- `_checked_text`. -/
def checkedText : Option String :=
  match fields.lookup key with
  | none => some ""
  | some (.text value) => some (stripText value)
  | some _ => none

/-- `_checked_addr`. -/
def checkedAddr : Option String := do
  let addr ← checkedText fields key
  if addr = "" then some "" else checkedAddrText ip addr

/-- `_checked_flag`. -/
def checkedFlag : Option (Option Bool) :=
  match fields.lookup key with
  | none => some none
  | some .null => some none
  | some (.flag value) => some (some value)
  | some _ => none

/-- `_checked_link_state`; a blank state is none. -/
def checkedLinkState : Option (Option LinkState) := do
  let state ← checkedText fields "link_state"
  if state = "" then some none
  else if state = "present" then some (some .present)
  else if state = "absent" then some (some .absent)
  else if state = "unknown" then some (some .unknown)
  else none

/-- `_checked_prior_link_state`. -/
def checkedPriorLinkState : Option LinkState := do
  let state ← checkedLinkState fields
  let legacy ← checkedFlag fields "link_existed"
  if (fields.lookup "link_state").isSome ∧ (fields.lookup "link_existed").isSome then none
  else match state with
    | some state => some state
    | none => some (if legacy = some true then .present else .unknown)

/-- `_checked_names`: every name that is not blank, or none of them. -/
def checkedNames (values : List String) : Option (List String) :=
  let names := (values.map stripText).filter fun name => name ≠ ""
  if names.all legalIface then some names else none

/-- `_checked_candidate_iface`. -/
def checkedCandidateIface : Option String := do
  let iface ← checkedText fields "iface"
  if iface = "" then some "" else if legalIface iface then some iface else none

/-- `_checked_candidate_fields`. -/
def checkedCandidateFields (iface : String) : Option Candidate := do
  if (fields.lookup "resolved").isSome then none
  else
    let addr4 ← checkedAddr ip fields "addr4"
    let addr6 ← checkedAddr ip fields "addr6"
    let vlan ← checkedFlag fields "vlan"
    let prior ← checkedPriorLinkState fields
    some ⟨iface, addr4, addr6, vlan = some true, prior⟩

/-- `_checked_candidate`. -/
def checkedCandidate : Option Candidate := do
  let iface ← checkedCandidateIface fields
  checkedCandidateFields ip fields iface

/-- `_settled_undo`: settled, not said to be, or said in another form. -/
def settledUndo : Option Bool :=
  if fields = [("resolved", .flag true)] then some true
  else if (fields.lookup "resolved").isSome then none
  else some false

/-- The pending undo that no reader may act on, with the interface it names. -/
def unreadablePending (names : List String) : Pending :=
  ⟨none, false, ⟨names, [.candidateUnreadable]⟩⟩

/-- The end of `_pending_candidate`, for a record that is an object. -/
def decodeFields : Pending :=
  match settledUndo fields, checkedCandidateIface fields with
  | some true, _ => ⟨none, false, ⟨[], []⟩⟩
  | _, none => unreadablePending []
  | none, some iface => unreadablePending (if iface = "" then [] else [iface])
  | some false, some iface =>
    match checkedCandidateFields ip fields iface with
    | none => unreadablePending (if iface = "" then [] else [iface])
    | some candidate =>
      if iface = "" then ⟨none, true, ⟨[], []⟩⟩ else ⟨some candidate, false, ⟨[iface], []⟩⟩

end

/-- `_pending_candidate` on the text of the record. -/
def decodeUndo : UndoText → Pending
  | .blank => ⟨none, false, ⟨[], []⟩⟩
  | .unparsable => ⟨none, true, ⟨[], [.candidateUnreadable]⟩⟩
  | .notRecord twice =>
    if twice then unreadablePending [] else ⟨none, true, ⟨[], [.candidateUnreadable]⟩⟩
  | .record fields => if namesTwice fields then unreadablePending [] else decodeFields ip fields

/-- The dictionary `provision_candidate` answers with, and `_unarmed_candidate` makes of it. -/
structure CandidateData where
  (iface addr4 addr6 : String)
  vlan : Bool
  linkState : LinkState
  armed : Option Bool
  deriving DecidableEq, Repr

/-- That dictionary as a JSON object. -/
def CandidateData.fields (data : CandidateData) : List (String × FieldValue) :=
  [("iface", .text data.iface), ("addr4", .text data.addr4), ("addr6", .text data.addr6),
    ("vlan", .flag data.vlan), ("link_state", .text (linkStateText data.linkState))] ++
    data.armed.toList.map fun armed => ("armed", .flag armed)

/-- The same with the addresses as they were read. -/
def CandidateData.spelled (data : CandidateData) (proven : Candidate) : CandidateData :=
  { data with addr4 := proven.addr4, addr6 := proven.addr6 }

end UndoRecord

section Site

/-- The rows of the network settings that decide where the segment is. -/
inductive NetKey where
  | segmentIface
  | segmentIp
  | segmentIp6
  | ipv6Enabled
  | manageSegment
  | killSwitchEnabled
  | activeNodeId
  deriving DecidableEq, Repr

/-- The key of a row. -/
def NetKey.text : NetKey → String
  | .segmentIface => "segment_iface"
  | .segmentIp => "segment_ip"
  | .segmentIp6 => "segment_ip6"
  | .ipv6Enabled => "ipv6_enabled"
  | .manageSegment => "manage_segment"
  | .killSwitchEnabled => "kill_switch_enabled"
  | .activeNodeId => "active_node_id"

/-- The settings table as provisioning sees it; an absent network row is blank. -/
structure Records where
  (iface addr4 addr6 : Option String)
  (stale links survivors : Ledger)
  undo : Option UndoText
  rows : NetKey → String

/-- One ruleset that was put on the host. -/
structure Install where
  /-- What the ruleset before named. -/
  before : List String
  /-- What it names. -/
  names : List String
  /-- The answer of the cover it was installed on. -/
  cover : Cover
  /-- The records at that time. -/
  records : Records

/-- The panel's records, the host, and what is kept beside them. -/
structure Site where
  records : Records
  /-- What an open transaction goes back to. -/
  saved : Option Records
  host : Host
  /-- Every ruleset a provisioning pass put on the host. -/
  installs : List Install

/-- Programs over the records and the host. -/
abbrev SiteProg (α : Type) := Prog Answer Site Raised α

/-- The ownership records together with the host. -/
def Site.own (s : Site) : OwnSide where
  iface := s.records.iface
  addr4 := s.records.addr4
  addr6 := s.records.addr6
  stale := s.records.stale
  host := s.host

/-- Put the ownership records and the host back. -/
def Site.withOwn (own : OwnSide) (s : Site) : Site :=
  { s with
    records := { s.records with
      iface := own.iface, addr4 := own.addr4, addr6 := own.addr6, stale := own.stale }
    host := own.host }

/-- The link ledger together with the host. -/
def Site.link (s : Site) : LinkSide where
  ledger := s.records.links
  host := s.host

/-- Put the link ledger and the host back. -/
def Site.withLink (link : LinkSide) (s : Site) : Site :=
  { s with records := { s.records with links := link.ledger }, host := link.host }

/-- Replace the ledger of survivors. -/
def Site.withSurvivors (survivors : Ledger) (s : Site) : Site :=
  { s with records := { s.records with survivors := survivors } }

/-- Run a program on the ownership records and the host. -/
def onOwn {α : Type} (m : OwnProg α) : SiteProg α := Prog.on Site.own Site.withOwn m

/-- Run a program on the link ledger and the host. -/
def onLink {α : Type} (m : LinkProg α) : SiteProg α := Prog.on Site.link Site.withLink m

/-- Run a program on the ledger of survivors. -/
def onSurvivors {α : Type} (m : Prog Answer Ledger Raised α) : SiteProg α :=
  Prog.on (fun s => s.records.survivors) Site.withSurvivors m

/-- Run a host program. -/
def onSiteHost {α : Type} (m : HostProg α) : SiteProg α :=
  Prog.on Site.host (fun host s => { s with host := host }) m

/-- `PROVISION_UNDO_KEY`. -/
def undoSlot : Slot Site UndoText where
  key := "pending_provision_undo"
  get := fun s => s.records.undo
  put := fun text s => { s with records := { s.records with undo := some text } }

/-- One row of the network settings. -/
def rowSlot (key : NetKey) : Slot Site String where
  key := key.text
  get := fun s => some (s.records.rows key)
  put := fun text s =>
    { s with records := { s.records with rows := Function.update s.records.rows key text } }

end Site

section Covering

variable (ip : InterfaceText)

/-- `_other_ifaces`. -/
def otherIfaces (names : List String) (exclude : String) : List String :=
  (names.filter fun name => name ≠ "" ∧ name ≠ exclude).eraseDups

/-- One source of `_merge_cover`: its names, or the reason it has none to give. -/
def coverOf (why : Why) (source : Option (List String)) : Cover :=
  match source.bind checkedNames with
  | some names => ⟨names, []⟩
  | none => ⟨[], [why]⟩

/-- `_merge_cover`. -/
def mergeCover (exclude : String) (sources : List Cover) : Cover :=
  ⟨otherIfaces (sources.flatMap Cover.names) exclude, sources.flatMap Cover.unknown⟩

/-- The interfaces that ownership names, also in entries that are no pair of the panel's. -/
def ownershipNames (own : Ownership) : List String :=
  (own.iface :: own.stale.map Prod.fst) ++
    own.retained.flatMap fun pair => (checkedNames [pair.1]).getD []

/-- `_ownership_cover`. -/
def ownershipCover : OwnProg (Option (List String)) := do
  let own ← readOwnership ip
  pure (own.map ownershipNames)

/-- `superseded_state`. -/
def supersededState (newIface : String) : SiteProg Cover := do
  let owned ← onOwn (ownershipCover ip)
  let links ← onLink (onLedger readLinks)
  pure (mergeCover newIface [coverOf (.notReadable staleKey) owned,
    coverOf (.notReadable linkKey) links])

/-- `SURVIVOR_KEY`. -/
def survivorKey : String := "provision_candidate_survivors"

/-- `_checked_survivors`: every pair, or none of them. -/
def checkedSurvivors (pairs : List Pair) : Option (List Pair) := pairs.mapM (checkedPair ip)

/-- `_survivor_pairs`. -/
def survivorPairs : Prog Answer Ledger Raised (Option (List Pair)) := do
  let pairs ← readPairs survivorKey
  pure (pairs.bind (checkedSurvivors ip))

/-- `_pending_candidate`. -/
def pendingCandidate : SiteProg Pending := do
  match ← readRecord undoSlot with
  | none => pure (unreadablePending [])
  | some text => pure (decodeUndo ip text)

/-- `enforcement_cover`. -/
def enforcementCover (iface : String) : SiteProg Cover := do
  let survivors ← onSurvivors (survivorPairs ip)
  let superseded ← supersededState ip iface
  let pending ← pendingCandidate ip
  let left := mergeCover iface
    [coverOf (.notReadable survivorKey) (survivors.map fun pairs => pairs.map Prod.fst)]
  pure ⟨otherIfaces (superseded.names ++ left.names ++ pending.cover.names) iface,
    superseded.unknown ++ left.unknown ++ pending.cover.unknown⟩

end Covering

section Survivors

variable (ip : InterfaceText)

/-- `_record_survivors`. -/
def recordSurvivors (pairs : List Pair) : Prog Answer Ledger Raised (Option Why) :=
  writeSet survivorKey (pairs.map entry)

/-- The second half of `remember_survivors`, for pairs that read as pairs. -/
def addSurvivors (want : List Pair) : Prog Answer Ledger Raised Bool := do
  match ← survivorPairs ip with
  | none => pure false
  | some held =>
    let why ← recordSurvivors (distinct (held ++ want) [])
    pure why.isNone

/-- `remember_survivors`. -/
def rememberSurvivors (pairs : List Pair) : Prog Answer Ledger Raised Bool :=
  if distinct pairs [] = [] then pure true
  else match checkedSurvivors ip (distinct pairs []) with
    | none => pure false
    | some want => addSurvivors ip want

/-- Replace the ledger of survivors by fewer pairs, when they are fewer. -/
def shrinkSurvivors (keep pairs : List Pair) : Prog Answer Ledger Raised Unit :=
  if keep = pairs then pure ()
  else do
    let _ ← recordSurvivors keep
    pure ()

/-- `forget_survivors`. -/
def forgetSurvivors (iface : String) : Prog Answer Ledger Raised Unit :=
  if iface = "" then pure ()
  else do
    match ← survivorPairs ip with
    | none => pure ()
    | some pairs => shrinkSurvivors (pairs.filter fun pair => pair.1 ≠ iface) pairs

/-- The probe of an interface in `drain_enforcement_cover`, made once per interface. -/
def probeOnce (iface : String) (seen : List (String × LinkState)) :
    HostProg (LinkState × List (String × LinkState)) :=
  match seen.lookup iface with
  | some state => pure (state, seen)
  | none => do
    let state ← probeLink iface
    pure (state, (iface, state) :: seen)

/-- Whether a surviving pair is still to be covered. -/
def stillThere (pair : Pair) (link : LinkState) : HostProg Bool :=
  if link = .absent then pure false
  else do
    let addr ← probeAddr pair
    pure (addr ≠ .absent)

/-- The loop of `drain_enforcement_cover`. -/
def drainEach : List Pair → List (String × LinkState) → HostProg (List Pair)
  | [], _ => pure []
  | pair :: rest, seen => do
    let (link, seen) ← probeOnce pair.1 seen
    let kept ← stillThere pair link
    let keep ← drainEach rest seen
    pure (if kept then pair :: keep else keep)

/-- `drain_enforcement_cover`. -/
def drainEnforcementCover : SiteProg Unit := do
  match ← onSurvivors (survivorPairs ip) with
  | none => pure ()
  | some pairs =>
    let keep ← onSiteHost (drainEach pairs [])
    onSurvivors (shrinkSurvivors keep pairs)

end Survivors

section Undo

variable (ip : InterfaceText)

/-- The scalars as `_read_managed_state` gives them. -/
structure Managed where
  (iface addr4 addr6 : String)
  deriving DecidableEq, Repr

/-- `_read_managed_state`: the scalars, or nothing when one cannot be read or the interface is none. -/
def readManagedState : OwnProg (Option Managed) := do
  let iface ← readRecord ifaceSlot
  let addr4 ← readRecord addr4Slot
  let addr6 ← readRecord addr6Slot
  match iface, addr4, addr6 with
  | some iface, some addr4, some addr6 =>
    pure (if iface = "" ∨ legalIface iface then some ⟨iface, addr4, addr6⟩ else none)
  | _, _, _ => pure none

/-- What came of the candidate's link. -/
structure LinkUndo where
  unresolved : List Why
  deleted : Bool

/-- The deletion of a candidate link that the record proves to be the panel's. -/
def deleteCandidateLink (iface : String) : HostProg LinkUndo := do
  match ← Prog.attempt (linkDelete iface) with
  | .ok _ => pure ⟨[], true⟩
  | .error _ => pure ⟨[.candidateLinkNotDeleted iface], false⟩

section

variable (candidate : Candidate) (installed : Option Candidate) (restored : Managed)

/-- The last part of `_undo_candidate_link`, from the probe on. -/
def settleCandidateLink : HostProg LinkUndo := do
  match ← probeLink candidate.iface with
  | .absent => pure ⟨[], false⟩
  | .present =>
    if candidate.prior = .absent then deleteCandidateLink candidate.iface else pure ⟨[], false⟩
  | .unknown =>
    pure ⟨if candidate.prior = .absent then
      [.candidateLinkKept candidate.iface candidate.prior .unknown] else [], false⟩

/-- `_undo_candidate_link`. -/
def undoCandidateLink : HostProg LinkUndo :=
  if candidate.iface = "" ∨ candidate.iface = restored.iface then pure ⟨[], false⟩
  else if candidate.vlan = false then pure ⟨[], false⟩
  else if (parseVlan candidate.iface).2 = none then
    pure ⟨[.candidateLinkKept candidate.iface candidate.prior .unknown], false⟩
  else settleCandidateLink candidate

/-- The pairs of the segment the panel went back to, in both spellings. -/
def restoredPairs : List Pair :=
  [(restored.iface, restored.addr4), (restored.iface, canonicalAddr ip restored.addr4),
    (restored.iface, restored.addr6), (restored.iface, canonicalAddr ip restored.addr6)]

/-- The pairs a candidate names. -/
def Candidate.pairs : List Pair :=
  [(candidate.iface, candidate.addr4), (candidate.iface, candidate.addr6)]

/-- `_orphan_pairs`. -/
def orphanPairs : List Pair :=
  distinct ((installed.elim [] Candidate.pairs) ++ candidate.pairs) (restoredPairs ip restored)

/-- The end of `undo_provision_candidate`: what may be left behind is remembered. -/
def rememberOrphans (unresolved : List Why) : SiteProg (List Why) := do
  match ← onSurvivors (rememberSurvivors ip (orphanPairs ip candidate installed restored)) with
  | true => pure unresolved
  | false => pure (unresolved ++ [.survivorsNotRecorded])

/-- `undo_provision_candidate`, for records that were decoded; the answer is what is unresolved. -/
def undoCandidate : SiteProg (List Why) := do
  match ← onOwn readManagedState with
  | none => pure [.notReadable ifaceSlot.key]
  | some restored =>
    let link ← onSiteHost (undoCandidateLink candidate restored)
    match link.deleted with
    | true =>
      onSurvivors (forgetSurvivors ip candidate.iface)
      pure link.unresolved
    | false => rememberOrphans ip candidate installed restored link.unresolved

/-- What a record passed on to an undo says: nothing, a candidate, or something unreadable. -/
def asCandidate (record : Option (List (String × FieldValue))) : Option (Option Candidate) :=
  match record with
  | none => some none
  | some fields => (checkedCandidate ip fields).map some

/-- `undo_provision_candidate`: both records are decoded first, and nothing is done with either when
one of them is not the panel's. -/
def undoProvisionCandidate (candidate : CandidateData)
    (installed : Option (List (String × FieldValue))) : SiteProg (List Why) :=
  match checkedCandidate ip candidate.fields, asCandidate ip installed with
  | some candidate, some installed => undoCandidate ip candidate installed
  | _, _ => pure [.candidateUnreadable]

/-- `clear_provision_candidate`. -/
def clearProvisionCandidate : SiteProg Unit := do
  let _ ← clearRecord undoSlot resolvedUndo .blank
  pure ()

/-- The write of `record_provision_candidate`. -/
def writeCandidate (data : CandidateData) : SiteProg Unit := do
  match ← writeRecord undoSlot (.record data.fields) with
  | some _ => Prog.raise .runtimeError
  | none => pure ()

/-- `record_provision_candidate`; no candidate is not recorded. -/
def recordProvisionCandidate : Option CandidateData → SiteProg Unit
  | none => pure ()
  | some data =>
    match checkedCandidate ip data.fields with
    | none => Prog.raise .runtimeError
    | some proven => writeCandidate (data.spelled proven)

/-- The end of a resume: the record is settled once nothing is unresolved. -/
def settleUndo (unresolved : List Why) : SiteProg Unit :=
  if unresolved = [] then clearProvisionCandidate else pure ()

/-- The undo of a resume, whose exceptions end in the log. -/
def resumeCandidate : SiteProg Unit := do
  match ← Prog.attempt (undoCandidate ip candidate none) with
  | .ok unresolved => settleUndo unresolved
  | .error _ => pure ()

end

/-- `resume_pending_provision_undo`. -/
def resumePendingProvisionUndo : SiteProg Unit := do
  let pending ← pendingCandidate ip
  match pending.unusable, pending.candidate with
  | true, _ => clearProvisionCandidate
  | false, none => pure ()
  | false, some candidate => resumeCandidate ip candidate

end Undo

end PiGwPanel.SegmentCover
