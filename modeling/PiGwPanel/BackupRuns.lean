import PiGwPanel.FeedIsolation
import PiGwPanel.NodeRoutes
import PiGwPanel.RemoteAccessSettings
import PiGwPanel.RestoredExports

/-!
# Backing up whatever the panel stored

A panel is run through refreshes, requests and restores, and exports itself. The
comments of the source promise that nothing storable is unbackupable. It is so
for every run whose requests keep out of the gaps between the limits: the
transport and the ALPN of a request, the fields of a feed the clamp leaves
longer than the document allows, the number of nodes, and remote-access values
that are stored as other text than they were checked as.
-/

namespace PiGwPanel.BackupRuns

open Models NodeSecurity ConfigStore FeedMerge FeedRefresh FeedParsers BackupRestore BackupPreflight
  NetworkSettings RestoredNetwork StorableNodes NodeRoutes RestoredExports StableFirstMatch
  CheckedResult AnsweredProgram PyValue List
open BackupDocument hiding maxNodes
open BackupAcceptance hiding NodesResolve

/-- The tables of a panel, with the nodes as text. -/
structure PanelStore where
  table : NodeTable
  subscriptions : List Subscription
  profiles : List TuningProfile
  rules : List RoutingRule
  reservations : List Reservation
  subscriptions_legal : LegalIds (subscriptions.map Subscription.id)
  profiles_legal : LegalIds (profiles.map TuningProfile.id)
  rules_legal : (rules.map RoutingRule.position).Nodup
  reservations_legal : LegalReservations reservations

section Tables

/-! ### Rows as text and as the document has them -/

/-- The columns of a row's identity as the index has them. -/
def indexed (key : Option ℕ × Identity) : NodeIdentity :=
  ⟨key.1, key.2.address, key.2.port, key.2.uuid, key.2.path, key.2.sni, key.2.shortId⟩

theorem indexed_injective : Function.Injective indexed := by
  rintro ⟨sub,key⟩ ⟨sub',key'⟩ h
  cases key
  cases key'
  obtain ⟨rfl,rfl,rfl,rfl,rfl,rfl,rfl⟩ := h
  rfl

theorem legalNodes_read (table : NodeTable) : LegalNodes (table.rows.map RawNode.read) := by
  have hids : (table.rows.map RawNode.read).map Node.id=table.rows.map RawNode.id := by
    rw [map_map]
    rfl
  have hidents : (table.rows.map RawNode.read).map nodeIdentity =
      (table.rows.map rowIdentity).map indexed := by
    rw [map_map,map_map]
    rfl
  refine ⟨⟨hids ▸ table.legal.ids,?_⟩,?_⟩
  · rw [hids,forall_mem_map]
    exact fun row hrow => (table.legal.idsUsed row hrow).trans_lt table.ids_small
  · rw [hidents]
    exact table.legal.identities.map indexed_injective

/-- The store an export reads. -/
def PanelStore.config (panel : PanelStore) : Store where
  nodes := panel.table.rows.map RawNode.read
  subscriptions := panel.subscriptions
  profiles := panel.profiles
  rules := panel.rules
  reservations := panel.reservations
  settings := panel.table.settings
  nodes_legal := legalNodes_read panel.table
  subscriptions_legal := panel.subscriptions_legal
  profiles_legal := panel.profiles_legal
  rules_legal := panel.rules_legal
  reservations_legal := panel.reservations_legal

/-- The name of a transport. -/
def transportName : Transport → String
  | .vision => "vision"
  | .xhttp => "xhttp"

/-- The row of a node of a document. -/
def writeNode (node : Node) : RawNode :=
  { node with protocol := protocolName node.protocol, transport := transportName node.transport }

/-- A typed node survives the way into a row and back. -/
theorem read_writeNode (node : Node) : (writeNode node).read=node := by
  have hproto : readProtocol (protocolName node.protocol)=node.protocol := by
    cases node.protocol <;> decide
  have htrans : readTransport (transportName node.transport)=node.transport := by
    cases node.transport <;> decide
  simp only [RawNode.read,writeNode,hproto,htrans]

theorem normalize_writeNode (node : Node) :
    (writeNode node).normalize=writeNode node.normalize := by
  have hknown : (writeNode node).protocol∈protocols := by
    change protocolName node.protocol∈protocols
    cases node.protocol <;> decide
  rw [RawNode.normalize,knownProtocol_of_mem hknown]
  unfold Node.normalize
  cases hproto : node.protocol with
  | shadowsocks =>
    rw [settle_shadowsocks (by simp [writeNode,hproto,protocolName])]
    simp [writeNode,RawNode.clearXhttp,hproto,transportName]
  | trojan =>
    rw [settle_trojan (by simp [writeNode,hproto,protocolName])]
    simp [writeNode,RawNode.clearXhttp,hproto,transportName]
  | vless =>
    cases htrans : node.transport with
    | xhttp =>
      rw [settle_xhttp (by simp [writeNode,hproto,protocolName])
        (by simp [writeNode,htrans,transportName])]
      simp [writeNode,hproto,htrans]
    | vision =>
      rw [settle_vision (by simp [writeNode,hproto,protocolName])
        (by simp [writeNode,htrans,transportName])]
      simp [writeNode,hproto,htrans]

/-- The highest of some ids, or the one used before. -/
def highest (used : ℕ) (ids : List ℕ) : ℕ := ids.foldr max used

theorem le_highest {used id : ℕ} {ids : List ℕ} (h : id∈ids) : id≤highest used ids := by
  induction ids with
  | nil => cases h
  | cons first rest ih =>
    rcases mem_cons.mp h with rfl | hrest
    · exact le_max_left _ _
    · exact (ih hrest).trans (le_max_right _ _)

theorem highest_lt {used limit : ℕ} {ids : List ℕ} (hused : used<limit)
    (h : ∀ id∈ids, id<limit) : highest used ids<limit := by
  induction ids with
  | nil => exact hused
  | cons first rest ih =>
    obtain ⟨hfst,hrest⟩ := forall_mem_cons.mp h
    exact max_lt hfst (ih hrest)

theorem legal_writeNode {nodes : List Node} (h : LegalNodes nodes)
    (hbuilt : ∀ node∈nodes, node.normalize=node) (used : ℕ) :
    Legal (nodes.map writeNode) (highest used (nodes.map Node.id)) where
  ids := by
    rw [map_map]
    exact h.1.1
  idsUsed := by
    rw [forall_mem_map]
    exact fun node hnode => le_highest (mem_map_of_mem hnode)
  identities := by
    have hkeys : nodes.map nodeIdentity=((nodes.map writeNode).map rowIdentity).map indexed := by
      rw [map_map,map_map]
      rfl
    have hidents := h.2
    rw [hkeys] at hidents
    exact List.Nodup.of_map indexed hidents
  built := by
    rw [forall_mem_map]
    intro node hnode
    rw [normalize_writeNode,hbuilt node hnode]

end Tables

section Steps

/-- What a refresh records about itself. -/
structure Lifecycle where
  (lastFetched lastStatus lastPath lastError : Option String)
  (upBytes downBytes totalBytes expireAt : Option ℕ)
  lastSkipped : Json

/-- The columns `update_subscription_refresh` writes. -/
def Lifecycle.record (entry : Lifecycle) (sub : Subscription) : Subscription :=
  { sub with
    lastFetched := entry.lastFetched
    lastStatus := entry.lastStatus
    lastPath := entry.lastPath
    lastError := entry.lastError
    upBytes := entry.upBytes
    downBytes := entry.downBytes
    totalBytes := entry.totalBytes
    expireAt := entry.expireAt
    lastSkipped := entry.lastSkipped }

/-- `update_subscription_refresh`, where it is reached. -/
def recordRefresh (subId : ℕ) (lifecycle : Option Lifecycle) (sub : Subscription) : Subscription :=
  match lifecycle with
  | none => sub
  | some entry => if sub.id = subId then entry.record sub else sub

theorem subscriptionDict_recordRefresh (subId : ℕ) (lifecycle : Option Lifecycle)
    (sub : Subscription) :
    subscriptionDict (recordRefresh subId lifecycle sub)=subscriptionDict sub := by
  unfold recordRefresh
  split
  · rfl
  · split <;> rfl

theorem map_id_recordRefresh (subId : ℕ) (lifecycle : Option Lifecycle) (subs : List Subscription) :
    (subs.map (recordRefresh subId lifecycle)).map Subscription.id=subs.map Subscription.id := by
  rw [map_map]
  exact map_congr_left fun sub _ =>
    congrArg BackupSubscription.id (subscriptionDict_recordRefresh subId lifecycle sub)

theorem normalized_of_importState {checks : SettingChecks} {text : SegmentRuleset.IpText} {now : ℕ}
    {store after : Store} {doc : Document} {summary : ImportSummary}
    (h : importState checks text now store doc = .ok (after, summary)) :
    ∀ node∈after.nodes, node.normalize=node := by
  obtain ⟨validated,-,hwrite⟩ := exists_of_bind_ok h
  rw [(wrote_of_writeDocument hwrite).nodes,forall_mem_map]
  exact fun node _ => node.normalize_idem

/-- A panel after its tables were replaced by those of a restore; the counter of node ids only
grows. -/
def PanelStore.replaced (panel : PanelStore) (after : Store)
    (hbuilt : ∀ node ∈ after.nodes, node.normalize = node) : PanelStore where
  table :=
    { rows := after.nodes.map writeNode
      lastId := highest panel.table.lastId (after.nodes.map Node.id)
      settings := after.settings
      legal := legal_writeNode after.nodes_legal hbuilt panel.table.lastId
      ids_small := highest_lt panel.table.ids_small after.nodes_legal.1.2 }
  subscriptions := after.subscriptions
  profiles := after.profiles
  rules := after.rules
  reservations := after.reservations
  subscriptions_legal := after.subscriptions_legal
  profiles_legal := after.profiles_legal
  rules_legal := after.rules_legal
  reservations_legal := after.reservations_legal

theorem config_replaced (panel : PanelStore) (after : Store)
    (hbuilt : ∀ node∈after.nodes, node.normalize=node) :
    (panel.replaced after hbuilt).config=after := by
  have hnodes : (after.nodes.map writeNode).map RawNode.read=after.nodes := by
    rw [map_map]
    exact (map_congr_left fun node _ => read_writeNode node).trans (map_id _)
  unfold PanelStore.config PanelStore.replaced
  cases after
  simp only [Store.mk.injEq,and_true]
  exact hnodes

/-- `import_state` on the tables of the panel; a refused document changes nothing. -/
def restoreState (live : Settings) (check : String → String → Option String) (now : ℕ)
    (panel : PanelStore) (doc : Document) : PanelStore :=
  match h : importState (documentChecks (some live) check) standardText now panel.config doc with
  | .error _ => panel
  | .ok (after, _) => panel.replaced after (normalized_of_importState h)

/-- The panel after a route answered: a refusal changes nothing. -/
def PanelStore.after (panel : PanelStore) (answer : Except Refusal NodeTable) : PanelStore :=
  match answer with
  | .ok table => { panel with table := table }
  | .error _ => panel

/-- What changes the tables a backup carries. -/
inductive Event where
  /-- A refresh whose fetch brings the body, with the answers of its other commands and what it
  records in the end. -/
  | refresh (subId : ℕ) (body : String) (answers : List Answer) (lifecycle : Option Lifecycle)
  | create (body : NodeIn)
  | importText (text : String)
  | edit (nodeId : ℤ) (body : NodeUpdate)
  | restore (live : Settings) (now : ℕ) (doc : Document)

variable (lib : Library) (digest : List Identity → String)
  (check : String → String → Option String)

/-- `refresh`, from the reading of the subscription to the record of its result. -/
def refreshPanel (subId : ℕ) (body : String) (answers : List Answer)
    (lifecycle : Option Lifecycle) (panel : PanelStore) : PanelStore :=
  match panel.subscriptions.find? fun sub => sub.id = subId with
  | none => panel
  | some sub =>
    { panel with
      table := refreshFeed lib digest subId sub.defaultProfileId body answers panel.table
      subscriptions := panel.subscriptions.map (recordRefresh subId lifecycle)
      subscriptions_legal := by
        rw [map_id_recordRefresh]
        exact panel.subscriptions_legal }

/-- The panel after an event. -/
def step (panel : PanelStore) : Event → PanelStore
  | .refresh subId body answers lifecycle =>
    refreshPanel lib digest subId body answers lifecycle panel
  | .create body => panel.after (addNode panel.table body)
  | .importText text => panel.after (importNodes lib panel.table text)
  | .edit nodeId body =>
    panel.after (updateNode (panel.profiles.map TuningProfile.id) panel.table nodeId body)
  | .restore live now doc => restoreState live check now panel doc

/-- A panel whose database was just migrated. -/
def emptyPanel : PanelStore where
  table :=
    { rows := []
      lastId := 0
      settings := fun key =>
        if key = "default_profile_id" then some "1"
        else if key = "kill_switch_enabled" then some "1"
        else none
      legal := by decide
      ids_small := by decide }
  subscriptions := []
  profiles := [legacyDefaultProfile]
  rules := []
  reservations := []
  subscriptions_legal := freshStore.subscriptions_legal
  profiles_legal := sampleStore.profiles_legal
  rules_legal := freshStore.rules_legal
  reservations_legal := freshStore.reservations_legal

/-- The order `list_nodes` reads the rows in. -/
def rowOrder (row : RawNode) : ℕ ×ₗ ℕ := toLex (row.position, row.id)

/-- `validate_document` on the export of the panel. A transport the document does not name is
refused where the nodes are. -/
def validateExport (panel : PanelStore) : Except String Document :=
  match listIssue "nodes" 0 BackupDocument.maxNodes (sortByKey rowOrder panel.table.rows)
      fun row => choiceIssue "transport" transportNames row.transport with
  | some issue => .error issue.render
  | none => validateDocument (documentChecks none check) standardText (exportState panel.config)

/-- The panel can be backed up. -/
def Backable (panel : PanelStore) : Prop := ∃ doc, validateExport check panel = .ok doc

/-- The event keeps out of the gaps between what is stored and what a document carries. A refused
request stores nothing, so a body is asked only for the row it would leave. -/
def KeepsToLimits (panel : PanelStore) : Event → Prop
  | .refresh _ body _ _ =>
    (∀ node ∈ parsedNodes lib body, StorableEntry node) ∧
      panel.table.rows.length + (parsedNodes lib body).length ≤ BackupDocument.maxNodes
  | .create body => body.issue = none → StorableRow (createdRow panel.table body) ∧
      panel.table.rows.length < BackupDocument.maxNodes
  | .importText text =>
    (∀ node ∈ parsedNodes lib text, StorableEntry node) ∧
      panel.table.rows.length + (parsedNodes lib text).length ≤ BackupDocument.maxNodes
  | .edit nodeId body => body.issue = none →
      ∀ node ∈ getNode panel.table.toFeedStore nodeId, StorableRow (body.patch node).normalize
  | .restore _ _ doc => PlainRoadWarrior doc

end Steps

section Invariant

/-! ### What every event keeps -/

variable {lib : Library} {digest : List Identity → String}
  {check : String → String → Option String} {panel : PanelStore}

/-- The transports are those of the document and its other checks pass. -/
structure Sound (check : String → String → Option String) (panel : PanelStore) : Prop where
  transports : ∀ row ∈ panel.table.rows, row.transport ∈ transportNames
  exports : Exports (documentChecks none check) standardText panel.config

/-- An export passes when its transports are known and its checks pass. -/
theorem backable_iff : Backable check panel ↔ Sound check panel := by
  unfold Backable validateExport
  have htransports : listIssue "nodes" 0 BackupDocument.maxNodes
      (sortByKey rowOrder panel.table.rows)
      (fun row => choiceIssue "transport" transportNames row.transport)=none ↔
      panel.table.rows.length≤BackupDocument.maxNodes ∧
        ∀ row∈panel.table.rows, row.transport∈transportNames := by
    have hperm := sortByKey_perm rowOrder panel.table.rows
    rw [listIssue_eq_none_iff,hperm.length_eq]
    simp only [choiceIssue_eq_none_iff,hperm.mem_iff,Nat.zero_le,true_and]
  constructor
  · rintro ⟨doc,h⟩
    split at h
    · cases h
    next hissue =>
      exact ⟨(htransports.mp hissue).2,validateDocument_exportState_iff.mp ⟨doc,h⟩⟩
  · rintro ⟨hnames,hexports⟩
    have hcount : panel.table.rows.length≤BackupDocument.maxNodes :=
      (length_map RawNode.read).symm.trans_le hexports.nodesCount
    rw [htransports.mpr ⟨hcount,hnames⟩]
    exact validateDocument_exportState_iff.mpr hexports

/-- The ids a row of the panel may refer to. -/
def subIds (panel : PanelStore) : List ℕ := panel.subscriptions.map Subscription.id

/-- The ids of the profiles. -/
def profileIds (panel : PanelStore) : List ℕ := panel.profiles.map TuningProfile.id

theorem setting_exportState_congr {store other : Store}
    (h : ∀ key∈settingsKeys, store.getSetting key=other.getSetting key) :
    (exportState store).setting=(exportState other).setting := by
  funext key
  rw [exportState_setting,exportState_setting]
  split
  next hkey =>
    rw [h key hkey]
  · rfl

section

variable (h : Sound check panel)

include h

/-- What passes as a document passes row by row. -/
theorem Sound.carries :
    Carries (subIds panel) (profileIds panel) panel.table.rows.length panel.table.settings
      panel.table.toFeedStore where
  rows row hrow := by
    have hmem : row.read∈panel.config.nodes := mem_map_of_mem hrow
    have hbuilt : row.read.normalize=row.read := by
      rw [← read_normalize,panel.table.legal.built row hrow]
    obtain ⟨hsub,hprof⟩ := h.exports.nodesRefer row.read hmem
    exact ⟨h.transports row hrow,hbuilt ▸ h.exports.nodes row.read hmem,hsub,hprof⟩
  count := le_rfl
  settings _ _ := rfl

theorem Sound.ids_ne_zero : 0∉subIds panel ∧ 0∉profileIds panel := by
  constructor
  · intro hzero
    obtain ⟨sub,hsub,hid⟩ := mem_map.mp hzero
    have hissue := h.exports.subscriptions sub hsub
    unfold subscriptionIssue at hissue
    rw [firstIssue_eq_none_iff] at hissue
    exact idIssue_eq_none_iff.mp (hissue _ mem_cons_self) hid
  · intro hzero
    obtain ⟨profile,hprof,hid⟩ := mem_map.mp hzero
    have hissue := h.exports.profiles profile hprof
    unfold profileIssue at hissue
    rw [firstIssue_eq_none_iff] at hissue
    exact idIssue_eq_none_iff.mp (hissue _ mem_cons_self) hid

/-- Nodes that fit and settings that are exported alike leave a panel that can be backed up. -/
theorem Sound.withTable {table : NodeTable} {most : ℕ} (hmost : most≤BackupDocument.maxNodes)
    (htable : Carries (subIds panel) (profileIds panel) most panel.table.settings
      table.toFeedStore) : Sound check { panel with table := table } := by
  have hsets : (exportState ({ panel with table := table } : PanelStore).config).setting =
      (exportState panel.config).setting := setting_exportState_congr htable.settings
  have hbuilt : ∀ row∈table.rows, row.read.normalize=row.read := fun row hrow => by
    rw [← read_normalize,table.legal.built row hrow]
  refine ⟨fun row hrow => (htable.rows row hrow).transport,{ h.exports with
    nodesCount := ?_, nodes := ?_, identities := ?_, nodesRefer := ?_, lengths := ?_
    values := hsets ▸ h.exports.values
    defaultProfile := ?_
    network := hsets ▸ h.exports.network
    roadWarrior := hsets ▸ h.exports.roadWarrior }⟩
  · exact (length_map RawNode.read).trans_le (htable.count.trans hmost)
  · change ∀ node∈table.rows.map RawNode.read, NodeFits node.normalize
    rw [forall_mem_map]
    intro row hrow
    rw [hbuilt row hrow]
    exact (htable.rows row hrow).fits
  · have hsame : (table.rows.map RawNode.read).map builtIdentity =
        (table.rows.map RawNode.read).map nodeIdentity := by
      rw [map_map,map_map]
      refine map_congr_left fun row hrow => ?_
      change builtIdentity row.read=nodeIdentity row.read
      rw [← nodeIdentity_normalize,hbuilt row hrow]
    change ((table.rows.map RawNode.read).map builtIdentity).Nodup
    rw [hsame]
    exact (legalNodes_read table).2
  · change NodesRefer panel.profiles panel.subscriptions (table.rows.map RawNode.read)
    unfold NodesRefer
    rw [forall_mem_map]
    exact fun row hrow => ⟨(htable.rows row hrow).subscription,(htable.rows row hrow).profile⟩
  · intro key hkey value hval
    refine h.exports.lengths key hkey value ?_
    exact (htable.settings key hkey).symm.trans hval
  · have hprof := h.exports.defaultProfile
    unfold defaultProfileIssue at hprof ⊢
    rw [hsets]
    exact hprof

/-- A record of a refresh changes nothing an export reads. -/
theorem Sound.recorded (subId : ℕ) (lifecycle : Option Lifecycle)
    (hlegal : LegalIds ((panel.subscriptions.map (recordRefresh subId lifecycle)).map
      Subscription.id)) :
    Sound check { panel with
      subscriptions := panel.subscriptions.map (recordRefresh subId lifecycle)
      subscriptions_legal := hlegal } := by
  have hdict := subscriptionDict_recordRefresh subId lifecycle
  have hids := map_id_recordRefresh subId lifecycle panel.subscriptions
  refine ⟨h.transports,{ h.exports with
    nodesRefer := ?_, subscriptionsCount := ?_, subscriptions := ?_, subscriptionsRefer := ?_ }⟩
  · change NodesRefer panel.profiles (panel.subscriptions.map (recordRefresh subId lifecycle)) _
    unfold NodesRefer
    rw [hids]
    exact h.exports.nodesRefer
  · exact (length_map _).trans_le h.exports.subscriptionsCount
  · change ∀ sub∈panel.subscriptions.map (recordRefresh subId lifecycle), _
    rw [forall_mem_map]
    intro sub hsub
    rw [hdict]
    exact h.exports.subscriptions sub hsub
  · change SubscriptionsRefer panel.profiles
      (panel.subscriptions.map (recordRefresh subId lifecycle))
    unfold SubscriptionsRefer
    rw [forall_mem_map]
    intro sub hsub
    have hprof : (recordRefresh subId lifecycle sub).defaultProfileId=sub.defaultProfileId :=
      congrArg BackupSubscription.defaultProfileId (hdict sub)
    rw [hprof]
    exact h.exports.subscriptionsRefer sub hsub

theorem Sound.refresh {subId : ℕ} {body : String}
    (answers : List Answer) (lifecycle : Option Lifecycle)
    (hparsed : ∀ node∈parsedNodes lib body, StorableEntry node)
    (hcount : panel.table.rows.length+(parsedNodes lib body).length≤BackupDocument.maxNodes) :
    Sound check (refreshPanel lib digest subId body answers lifecycle panel) := by
  unfold refreshPanel
  split
  · exact h
  next sub hsub =>
    have hmem := mem_of_find?_eq_some hsub
    have hid : sub.id=subId := by simpa using find?_some hsub
    obtain ⟨hsubs,hprofs⟩ := h.ids_ne_zero
    have hrefers : RefersTo (subIds panel) (profileIds panel) subId sub.defaultProfileId :=
      ⟨hid ▸ mem_map_of_mem hmem,h.exports.subscriptionsRefer sub hmem,hsubs,hprofs⟩
    have htable : Carries (subIds panel) (profileIds panel) BackupDocument.maxNodes
        panel.table.settings (refreshFeed lib digest subId sub.defaultProfileId body answers
          panel.table).toFeedStore :=
      refreshFeed_carries h.carries.rows hparsed hcount hrefers
    exact (h.withTable le_rfl htable).recorded subId lifecycle _

theorem Sound.after {answer : Except Refusal NodeTable} {most : ℕ}
    (hmost : most≤BackupDocument.maxNodes) (hanswer : ∀ table, answer = .ok table →
      Carries (subIds panel) (profileIds panel) most panel.table.settings table.toFeedStore) :
    Sound check (panel.after answer) := by
  unfold PanelStore.after
  split
  · exact h.withTable hmost (hanswer _ rfl)
  · exact h

/-- A restored document was accepted, and what it stores exports again. -/
theorem Sound.restore (live : Settings) (now : ℕ) {doc : Document}
    (hplain : PlainRoadWarrior doc) : Sound check (restoreState live check now panel doc) := by
  unfold restoreState
  split
  · exact h
  next after summary himp =>
    refine ⟨?_,?_⟩
    · change ∀ row∈after.nodes.map writeNode, row.transport∈transportNames
      rw [forall_mem_map]
      intro node _
      change transportName node.transport∈transportNames
      cases node.transport <;> decide
    · rw [config_replaced]
      exact exports_of_importState h.exports himp hplain

end

/-- Each event keeps the panel fit for a backup. -/
theorem sound_step (panel : PanelStore) (event : Event) (hevent : KeepsToLimits lib panel event)
    (h : Sound check panel) : Sound check (step lib digest check panel event) := by
  cases event with
  | refresh subId body answers lifecycle => exact h.refresh answers lifecycle hevent.1 hevent.2
  | create body =>
    cases hissue : body.issue with
    | none =>
      obtain ⟨hrow,hroom⟩ := hevent hissue
      exact h.after hroom fun table htable => addNode_carries h.carries hrow htable
    | some issue => simpa [step,addNode,hissue,PanelStore.after] using h
  | importText text =>
    exact h.after hevent.2 fun table htable => importNodes_carries h.carries hevent.1 htable
  | edit nodeId body =>
    have hcount : panel.table.rows.length≤BackupDocument.maxNodes :=
      (length_map RawNode.read).symm.trans_le h.exports.nodesCount
    exact h.after hcount fun table htable =>
      updateNode_carries h.carries h.ids_ne_zero.2 hevent htable
  | restore live now doc => exact h.restore live now hevent

theorem sound_emptyPanel (check : String → String → Option String) : Sound check emptyPanel := by
  have hplain : (validateExport (fun _ _ => none) emptyPanel).isOk=true := by decide +kernel
  have hnone := backable_iff.mp (exists_of_isOk hplain)
  refine ⟨hnone.transports,{ hnone.exports with roadWarrior := ?_ }⟩
  rw [roadWarriorIssue_eq_none_iff]
  have hblank : ∀ key∈roadWarriorKeys,
      givenText (exportState emptyPanel.config).setting key = "" := by decide +kernel
  exact fun key hkey hgiven => absurd (hblank key hkey) hgiven

end Invariant

section Runs

/-- Every run whose events keep out of the gaps leaves a panel that can be backed up. -/
theorem backable_of_run (lib : Library) (digest : List Identity → String)
    (check : String → String → Option String) (events : List Event)
    (h : EveryStep (step lib digest check) (KeepsToLimits lib) emptyPanel events) :
    Backable check (run (step lib digest check) emptyPanel events) :=
  backable_iff.mpr (run_keeps_of sound_step h (sound_emptyPanel check))

instance (node : Node) : Decidable (HasCredential node) :=
  decidable_of_iff _ requiredCredential_eq_none_iff

instance (node : RawNode) : Decidable (Storable node) :=
  decidable_of_iff' _ (storable_iff node)

instance (parsed : FeedNode) : Decidable (StorableEntry parsed) :=
  decidable_of_iff (parsed.oddTransport.isNone = true ∧ Storable parsed.node)
    (and_congr_left' Option.isNone_iff_eq_none)

instance (lib : Library) (panel : PanelStore) (event : Event) :
    Decidable (KeepsToLimits lib panel event) := by
  cases event <;> dsimp only [KeepsToLimits] <;> infer_instance

/-- A vless node with the given transport and ALPN, as a body of `POST /nodes`. -/
def bodyWith (transport alpn : String) : NodeIn :=
  { name := "home", address := "a.example", port := 443, uuid := "u", transport := transport
    alpn := alpn }

/-- A patch of the note alone. -/
def noteOnly (note : String) : NodeUpdate := { note := some note }

/-- A document with one subscription and the given settings. -/
def subscribedDocument (settings : List (String × SettingValue)) : Document :=
  { smallDocument [] [] with
    subscriptions := [⟨1, "feed", "https://feed.example", .null, 3600, true, none⟩]
    settings := settings }

/-- The body of a feed of one node. -/
def feedText : String := "[a node]"

/-- The document of the feed, whose node has the given transport. -/
def feedData (transport : String) : Value :=
  .list [FeedIsolation.dictOf [("name", .str "away"), ("address", .str "b.example"),
    ("uuid", .str "v"), ("port", .int 443), ("transport", .str transport)]]

theorem long_feedData (transport : String) : (feedData transport).long=false := by
  have hport : (443 : ℕ)<10 ^ maxStrDigits := by decide +kernel
  simp [feedData,FeedIsolation.dictOf,Value.long,longItems,longFields,hport]

/-- The loaders on a feed of one node with the given transport. -/
def feedLibrary (transport : String) : Library :=
  FeedIsolation.documentLibrary feedText (feedData transport) (long_feedData transport)

/-- A node is created, edited and imported, a document is restored and its feed refreshed. -/
def sampleEvents : List Event :=
  [.create (bodyWith "vision" "h2"), .edit 1 (noteOnly "spare"), .importText feedText,
    .restore defaultSettings 0 (subscribedDocument [("rw_port", .number 51820)]),
    .refresh 1 feedText (List.replicate 40 ⟨true, "", [], none, true⟩) none]

/-- The check of the remote-access port, where the others accept anything. -/
def portCheck (key value : String) : Option String :=
  if key = "rw_port" then
    match RemoteAccessSettings.validatePort value with
    | .ok _ => none
    | .error why => some why
  else none

theorem backable_of_run_sample : EveryStep (step (feedLibrary "xhttp") (fun _ => "") portCheck)
        (KeepsToLimits (feedLibrary "xhttp")) emptyPanel sampleEvents ∧
      Backable portCheck
        (run (step (feedLibrary "xhttp") (fun _ => "") portCheck) emptyPanel sampleEvents) := by
  have hkeeps : EveryStep (step (feedLibrary "xhttp") (fun _ => "") portCheck)
      (KeepsToLimits (feedLibrary "xhttp")) emptyPanel sampleEvents := by decide +kernel
  exact ⟨hkeeps,backable_of_run _ _ _ _ hkeeps⟩

/-- The events leave a panel whose export `validate_document` refuses. -/
def Unbackable (lib : Library) (events : List Event) : Prop :=
  ¬Backable portCheck (run (step lib (fun _ => "") portCheck) emptyPanel events)

theorem unbackable_of_refused {lib : Library} {events : List Event} (h : (validateExport portCheck
      (run (step lib (fun _ => "") portCheck) emptyPanel events)).isOk=false) :
    Unbackable lib events := by
  rintro ⟨doc,hdoc⟩
  rw [hdoc] at h
  cases h

/-- A created node with another transport, one with a long ALPN, an imported node with another
transport, and a restored port of zero. -/
theorem stored_but_unbackable : Unbackable (feedLibrary "xhttp") [.create (bodyWith "ws" "")] ∧
      Unbackable (feedLibrary "xhttp")
        [.create (bodyWith "xhttp" (String.ofList (List.replicate 129 'h')))] ∧
      Unbackable (feedLibrary "ws") [.importText feedText] ∧
      Unbackable (feedLibrary "xhttp")
        [.restore defaultSettings 0 (subscribedDocument [("rw_port", .number 0)])] := by
  refine ⟨unbackable_of_refused ?_,unbackable_of_refused ?_,unbackable_of_refused ?_,
    unbackable_of_refused ?_⟩
  all_goals decide +kernel

end Runs

end PiGwPanel.BackupRuns
