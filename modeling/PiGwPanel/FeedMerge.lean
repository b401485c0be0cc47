import Mathlib.Data.Prod.Lex
import PiGwPanel.KeyedRows
import PiGwPanel.NodeSecurity

/-!
# Merging a feed into the node table

`subs/reconcile.py`: the entries of a feed are matched with the stored nodes of
their subscription by identity, matched rows are rewritten, new ones added, and
rows the feed no longer lists are flagged or deleted, less readily when the feed
shrank. The loops of the source are kept; what comes out of them is then said
row by row, which is what every property of a merge is read from.
-/

namespace PiGwPanel.FeedMerge

open Models NodeSecurity KeyedRows StableFirstMatch

/-- `_identity`. -/
structure Identity where
  address : String
  port : ℕ
  (uuid path sni shortId : String)
  deriving DecidableEq, Repr

/-- What makes two nodes of one subscription the same. -/
def identity (node : RawNode) : Identity :=
  ⟨node.address, node.port, node.uuid, node.path, node.sni, node.shortId⟩

/-- `v[:limit]`. -/
def clampText (limit : ℕ) (text : String) : String :=
  if limit < text.length then String.ofList (text.toList.take limit) else text

/-- `clamp_node_fields`. -/
def clampNodeFields (node : RawNode) : RawNode :=
  { node with
    name := clampText 256 node.name
    address := clampText 253 node.address
    uuid := clampText 128 node.uuid
    sni := clampText 253 node.sni
    path := clampText 512 node.path
    host := clampText 253 node.host
    alpn := clampText 512 node.alpn
    publicKey := clampText 512 node.publicKey
    shortId := clampText 512 node.shortId
    fingerprint := clampText 512 node.fingerprint
    flow := clampText 512 node.flow
    mode := clampText 512 node.mode
    note := clampText 512 node.note
    security := clampText 512 node.security
    transport := clampText 512 node.transport
    password := clampText 512 node.password
    method := clampText 512 node.method }

/-- `_dedupe` of the clamped entries. -/
def dedupe (parsed : List RawNode) : List RawNode :=
  putRows identity (parsed.map clampNodeFields)

/-- `_SECURITY_RANK`. -/
def securityRank (security : String) : ℕ :=
  if security = "reality" then 2 else if security = "tls" then 1 else 0

/-- `security_kept` of two nodes. -/
def securityKept (old new : RawNode) : Bool := securityRank old.security ≤ securityRank new.security

/-- `_config_differs`: the compared fields of `_CONFIG_FIELDS`. -/
def configDiffers (a b : RawNode) : Bool :=
  a.address ≠ b.address || a.port ≠ b.port || a.uuid ≠ b.uuid || a.transport ≠ b.transport ||
    a.sni ≠ b.sni || a.publicKey ≠ b.publicKey || a.shortId ≠ b.shortId ||
    a.fingerprint ≠ b.fingerprint || a.flow ≠ b.flow || a.network ≠ b.network ||
    a.security ≠ b.security || a.path ≠ b.path || a.host ≠ b.host || a.mode ≠ b.mode ||
    a.alpn ≠ b.alpn

/-- What a row is unique by: its subscription and its identity. -/
def rowIdentity (row : RawNode) : Option ℕ × Identity := (row.subscriptionId, identity row)

/-- What holds of the table at all times. The rows are those a read returns: every read and every
write builds a node and so normalises it. -/
@[mk_iff] structure Legal (rows : List RawNode) (lastId : ℕ) : Prop where
  ids : (rows.map RawNode.id).Nodup
  idsUsed : ∀ row ∈ rows, row.id ≤ lastId
  identities : (rows.map rowIdentity).Nodup
  built : ∀ row ∈ rows, row.normalize = row

/-- The node table, the counter of its ids and the settings. -/
structure FeedStore where
  rows : List RawNode
  lastId : ℕ
  settings : String → Option String
  legal : Legal rows lastId

/-- What one call of `reconcile` is given besides the store. -/
structure MergeCall where
  subId : ℕ
  /-- The entries of the feed; building a node normalises it. -/
  parsed : List {node : RawNode // node.normalize = node}
  active : Option ℤ
  defaultProfileId : Option ℕ

section

variable (call : MergeCall) (rows : List RawNode)

/-- The entries that are merged. -/
def MergeCall.entries : List RawNode := dedupe (call.parsed.map Subtype.val)

/-- The row is the active node's. -/
def MergeCall.isActive (row : RawNode) : Bool := call.active = some (row.id : ℤ)

/-- `get_node_by_identity`. -/
def MergeCall.stored (entry : RawNode) : Option RawNode :=
  rows.find? fun row => rowIdentity row = (some call.subId, identity entry)

/-- The row an entry without a stored node becomes. -/
def MergeCall.newRow (id : ℕ) (entry : RawNode) (position : ℕ) : RawNode :=
  { entry with
    id := id, subscriptionId := some call.subId, stale := false, position := position
    tuningProfileId := call.defaultProfileId }

/-- The row an entry makes of the stored node it matches: the columns the operator owns stay. -/
def MergeCall.refreshedRow (cur entry : RawNode) (position : ℕ) : RawNode :=
  { entry with
    id := cur.id, subscriptionId := some call.subId, stale := false, position := position
    tuningProfileId := cur.tuningProfileId, note := cur.note }

/-- An entry that protects the active node less is refused where its row would be written. -/
def MergeCall.refuses (cur : RawNode) (item : RawNode × ℕ) : Bool :=
  call.isActive cur && !securityKept cur (call.refreshedRow cur item.1 item.2)

/-- The variables of the merge loop. -/
structure MergeState where
  rows : List RawNode
  (lastId added updated : ℕ)
  activeChanged : Bool
  activeDowngrade : Option (String × String)

/-- One round of the merge loop. -/
def MergeCall.mergeEntry (state : MergeState) (item : RawNode × ℕ) :
    MergeState :=
  match call.stored state.rows item.1 with
  | none =>
    { state with
      rows := state.rows ++ [call.newRow (state.lastId + 1) item.1 item.2]
      lastId := state.lastId + 1
      added := state.added + 1 }
  | some cur =>
    let row := call.refreshedRow cur item.1 item.2
    if call.refuses cur item then
      { state with activeDowngrade := some (cur.security, row.security) }
    else
      { state with
        rows := replaceRow RawNode.id state.rows row
        updated := state.updated + 1
        activeChanged := state.activeChanged || (call.isActive cur && configDiffers cur row) }

/-- The merge loop. -/
def MergeCall.merge (lastId : ℕ) : MergeState :=
  call.entries.zipIdx.foldl call.mergeEntry
    { rows := rows, lastId := lastId, added := 0, updated := 0, activeChanged := false
      activeDowngrade := none }

/-- `list_nodes_for_sub`. -/
def nodesForSub (subId : ℕ) : List RawNode :=
  sortByKey (fun row : RawNode => toLex (row.position, row.id))
    (rows.filter fun row => row.subscriptionId = some subId)

/-- The feed lists fewer than half of the stored nodes. -/
def MergeCall.anomalousShrink (existing : List RawNode) : Bool :=
  call.entries ≠ [] && existing ≠ [] && 2 * call.entries.length < existing.length

end

/-- The order `sorted` puts identities in. -/
def identityOrder (id : Identity) : String ×ₗ ℕ ×ₗ String ×ₗ String ×ₗ String ×ₗ String :=
  toLex (id.address, toLex (id.port, toLex (id.uuid, toLex (id.path, toLex (id.sni, id.shortId)))))

/-- The settings key of a subscription's shrink. -/
def shrinkKey (subId : ℕ) : String := "subscription_shrink:" ++ toString subId

section Digest

/-! `_shrink_fingerprint` hashes the sorted identities; the hash is a parameter. -/

variable (digest : List Identity → String)

/-- `_shrink_fingerprint`, of an anomalous shrink only. -/
def MergeCall.fingerprint (call : MergeCall) (existing : List RawNode) : String :=
  if call.anomalousShrink existing then
    digest (sortByKey identityOrder (call.entries.map identity))
  else ""

/-- The stored fingerprint is this shrink's: the feed shrank the same way before. -/
def MergeCall.shrinkConfirmed (call : MergeCall) (settings : String → Option String)
    (existing : List RawNode) : Bool :=
  call.anomalousShrink existing &&
    settings (shrinkKey call.subId) = some (call.fingerprint digest existing)

/-- What the sweep does with a stored node the feed does not list. -/
inductive Verdict where
  | skip
  | markStale
  | vanish
  | delete
  deriving DecidableEq, Repr

/-- The branches of the sweep for one stored node. -/
def MergeCall.verdict (call : MergeCall) (shrink confirmed : Bool) (node : RawNode) :
    Option Verdict :=
  if identity node ∈ call.entries.map identity then none
  else if call.entries = [] then some .skip
  else if shrink && (!confirmed || !node.stale) then some .markStale
  else if call.isActive node then some .vanish
  else some .delete

/-- `mark_stale(id, True)`. -/
def markStale (id : ℕ) (rows : List RawNode) : List RawNode :=
  rows.map fun row => if row.id = id then { row with stale := true } else row

/-- `delete_node`. -/
def deleteNode (id : ℕ) (rows : List RawNode) : List RawNode :=
  rows.filter fun row => row.id ≠ id

/-- The variables of the sweep. -/
structure SweepState where
  rows : List RawNode
  (removed skippedDeletes : ℕ)
  activeVanished : Bool

/-- One round of the sweep. -/
def MergeCall.sweepNode (call : MergeCall) (shrink confirmed : Bool) (state : SweepState)
    (node : RawNode) : SweepState :=
  match call.verdict shrink confirmed node with
  | none => state
  | some .skip => { state with skippedDeletes := state.skippedDeletes + 1 }
  | some .markStale =>
    { state with
      rows := markStale node.id state.rows, skippedDeletes := state.skippedDeletes + 1 }
  | some .vanish => { state with rows := markStale node.id state.rows, activeVanished := true }
  | some .delete =>
    { state with rows := deleteNode node.id state.rows, removed := state.removed + 1 }

/-- What `reconcile` reports. -/
structure Report where
  (added updated removed : ℕ)
  activeChanged : Bool
  activeReplacement : Option ℕ
  skippedDeletes : ℕ
  activeDowngrade : Option (String × String)
  deriving DecidableEq, Repr

/-- The one fresh node of a subscription whose active node vanished. -/
def activeReplacement (vanished : Bool) (rows : List RawNode) (subId : ℕ) : Option ℕ :=
  if vanished then
    match (nodesForSub rows subId).filter fun row => !row.stale with
    | [only] => some only.id
    | _ => none
  else none

/-- The sweep over the nodes that were stored before the merge. -/
def MergeCall.sweep (call : MergeCall) (settings : String → Option String)
    (existing rows : List RawNode) : SweepState :=
  existing.foldl
    (call.sweepNode (call.anomalousShrink existing) (call.shrinkConfirmed digest settings existing))
    { rows := rows, removed := 0, skippedDeletes := 0, activeVanished := false }

/-- The rows, the id counter and the report of one `reconcile`. -/
def MergeCall.run (call : MergeCall) (rows : List RawNode) (lastId : ℕ)
    (settings : String → Option String) : List RawNode × ℕ × Report :=
  let existing := nodesForSub rows call.subId
  let merged := call.merge rows lastId
  let swept := call.sweep digest settings existing merged.rows
  (swept.rows, merged.lastId,
    { added := merged.added
      updated := merged.updated
      removed := swept.removed
      activeChanged := merged.activeChanged
      activeReplacement := activeReplacement swept.activeVanished swept.rows call.subId
      skippedDeletes := swept.skippedDeletes
      activeDowngrade := merged.activeDowngrade })

end Digest

section Built

/-! ### Rows stay normalised -/

/-- A node with other columns that say where it stands. -/
def placed (node : RawNode) (id : ℕ) (subscriptionId : Option ℕ) (stale : Bool) (position : ℕ)
    (tuningProfileId : Option ℕ) (note : String) : RawNode :=
  { node with
    id := id, subscriptionId := subscriptionId, stale := stale, position := position
    tuningProfileId := tuningProfileId, note := note }

variable {text : String} {node entry : RawNode} {call : MergeCall}

theorem built_placed (h : node.normalize=node) (id : ℕ) (subscriptionId : Option ℕ) (stale : Bool)
    (position : ℕ) (tuningProfileId : Option ℕ) (note : String) :
    (placed node id subscriptionId stale position tuningProfileId note).normalize =
      placed node id subscriptionId stale position tuningProfileId note := by
  have hcommutes : (placed node id subscriptionId stale position tuningProfileId note).normalize =
      placed node.normalize id subscriptionId stale position tuningProfileId note := by
    unfold placed RawNode.normalize RawNode.knownProtocol
    simp only [RawNode.settle,settleSecurity_eq,RawNode.clearXhttp,RawNode.settleTransport]
    by_cases hknown : node.protocol∈protocols
    · split_ifs <;> rfl
    · split_ifs <;> rfl
  rw [hcommutes,h]

theorem built_refreshedRow (h : entry.normalize=entry) (cur : RawNode) (position : ℕ) :
    (call.refreshedRow cur entry position).normalize=call.refreshedRow cur entry position :=
  built_placed h cur.id (some call.subId) false position cur.tuningProfileId cur.note

theorem built_newRow (h : entry.normalize=entry) (id position : ℕ) :
    (call.newRow id entry position).normalize=call.newRow id entry position :=
  built_placed h id (some call.subId) false position call.defaultProfileId entry.note

theorem built_stale {row : RawNode} (h : row.normalize=row) (stale : Bool) :
    ({ row with stale := stale } : RawNode).normalize = { row with stale := stale } :=
  built_placed h row.id row.subscriptionId stale row.position row.tuningProfileId row.note

variable {limit : ℕ}

theorem clampText_of_le (h : text.length≤limit) : clampText limit text=text :=
  if_neg (Nat.not_lt.mpr h)

/-- A cut never turns a long text into a short one. -/
theorem clampText_eq_iff {short : String} (h : short.length<limit) :
    clampText limit text=short ↔ text=short := by
  unfold clampText
  split
  next hlong =>
    constructor
    · intro hclamped
      have hlen := congrArg String.length hclamped
      simp [← String.length_toList,List.length_take] at hlen hlong h
      omega
    · rintro rfl
      omega
  · exact Iff.rfl

theorem orDefault_clampText (hlimit : 0<limit) {fallback : String}
    (h : orDefault text fallback=text) :
    orDefault (clampText limit text) fallback=clampText limit text := by
  by_cases hempty : text = ""
  · rw [hempty] at h ⊢
    rwa [clampText_of_le (by simp)]
  · have hclamped : clampText limit text ≠ "" := fun hc =>
      hempty ((clampText_eq_iff (by simpa using hlimit)).mp hc)
    exact if_neg hclamped

theorem securityChoice_clampText {publicKey security : String}
    (h : securityChoice publicKey security=security) :
    securityChoice (clampText 512 publicKey) (clampText 512 security) = clampText 512 security := by
  have hshort : clampText 512 security=security := by
    obtain ⟨hreal,-⟩ | htls := securityChoice_cases publicKey security
    · rw [← h,hreal]
      decide
    · rw [← h,htls]
      decide
  have hkey : clampText 512 publicKey = "" ↔ publicKey = "" := clampText_eq_iff (by decide)
  rw [hshort]
  by_cases hempty : publicKey = ""
  · rwa [hkey.mpr hempty,← hempty]
  · unfold securityChoice at h ⊢
    rw [if_neg hempty] at h
    rwa [if_neg (fun hc => hempty (hkey.mp hc))]

/-- Cutting the fields leaves the cleared ones cleared. -/
theorem clearXhttp_clampNodeFields (h : node.clearXhttp=node) :
    (clampNodeFields node).clearXhttp=clampNodeFields node := by
  have htrans : "vision" = node.transport := congrArg RawNode.transport h
  have hnet : "tcp" = node.network := congrArg RawNode.network h
  have hflow : "" = node.flow := congrArg RawNode.flow h
  have hpath : "" = node.path := congrArg RawNode.path h
  have hhost : "" = node.host := congrArg RawNode.host h
  have hmode : "" = node.mode := congrArg RawNode.mode h
  simp only [clampNodeFields,RawNode.clearXhttp,← htrans,← hnet,← hflow,← hpath,← hhost, ← hmode]
  rfl

/-- Cutting the fields of a normalised node leaves it normalised. -/
theorem built_clampNodeFields (h : node.normalize=node) :
    (clampNodeFields node).normalize=clampNodeFields node := by
  have hproto : node.protocol∈protocols := h ▸ normalize_protocol_mem node
  have hclamped : (clampNodeFields node).protocol∈protocols := hproto
  rw [RawNode.normalize,knownProtocol_of_mem hproto] at h
  rw [RawNode.normalize,knownProtocol_of_mem hclamped]
  obtain hvless | htrojan | hss := mem_protocols hproto
  · by_cases hxhttp : node.transport = "xhttp"
    · rw [settle_xhttp hvless hxhttp] at h
      have hclampedTransport : (clampNodeFields node).transport = "xhttp" :=
        (clampText_eq_iff (by decide)).mpr hxhttp
      rw [settle_xhttp (show (clampNodeFields node).protocol = "vless" from hvless)
        hclampedTransport]
      have hsec := securityChoice_clampText (congrArg RawNode.security h)
      have hnet : "xhttp" = node.network := congrArg RawNode.network h
      have hflow : "" = node.flow := congrArg RawNode.flow h
      simp only [clampNodeFields,← hnet,← hflow,hsec]
      rfl
    · rw [settle_vision hvless hxhttp] at h
      have hclampedTransport : (clampNodeFields node).transport ≠ "xhttp" := fun hc =>
        hxhttp ((clampText_eq_iff (by decide)).mp hc)
      rw [settle_vision (show (clampNodeFields node).protocol = "vless" from hvless)
        hclampedTransport]
      have hsec := securityChoice_clampText (congrArg RawNode.security h)
      have hnet : "tcp" = node.network := congrArg RawNode.network h
      have hflow := orDefault_clampText (show 0<512 by decide) (congrArg RawNode.flow h)
      simp only [clampNodeFields,← hnet,hflow,hsec]
  · rw [settle_trojan htrojan] at h
    rw [settle_trojan (show (clampNodeFields node).protocol = "trojan" from htrojan)]
    have hclear : node.clearXhttp=node := (congrArg RawNode.clearXhttp h).symm.trans h
    have hsec := securityChoice_clampText (congrArg RawNode.security h)
    rw [clearXhttp_clampNodeFields hclear]
    simp only [clampNodeFields,hsec]
  · rw [settle_shadowsocks hss] at h
    rw [settle_shadowsocks (show (clampNodeFields node).protocol = "shadowsocks" from hss)]
    have hclear : node.clearXhttp=node := (congrArg RawNode.clearXhttp h).symm.trans h
    have hmeth := orDefault_clampText (show 0<512 by decide) (congrArg RawNode.method h)
    have hsec : "none" = node.security := congrArg RawNode.security h
    rw [clearXhttp_clampNodeFields hclear]
    simp only [clampNodeFields,← hsec,hmeth]
    rfl

end Built

end PiGwPanel.FeedMerge
