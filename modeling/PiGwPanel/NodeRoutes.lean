import PiGwPanel.FeedParsers
import PiGwPanel.StorableNodes

/-!
# The routes that write nodes

The four ways a row gets into the node table besides a restore: `POST /nodes`,
`PATCH /nodes/…`, `POST /nodes/import` and the refresh of a subscription. The two
models of the API bound every field on their own, and their limits are not quite
those of the backup document; pasted text and feeds pass through the parsers and
the clamp. For each way it is shown which requests leave every row fit for the
document.
-/

namespace PiGwPanel.NodeRoutes

open Models PyValue NodeSecurity KeyedRows ConfigStore FeedMerge FeedRefresh FeedParsers
  BackupAcceptance StorableNodes AnsweredProgram List
open BackupDocument hiding maxNodes

/-- The node table and the settings, with ids its key column can hold. -/
structure NodeTable extends FeedStore where
  ids_small : lastId < rowIdLimit

/-- An answer other than success. -/
structure Refusal where
  status : ℕ
  detail : String
  deriving DecidableEq, Repr

/-- The exceptions of a statement on the node table. -/
inductive SqlError where
  /-- `uq_nodes_identity`. -/
  | integrity
  /-- No id is left. -/
  | full
  /-- A value of a type no column takes. -/
  | binding
  deriving DecidableEq, Repr

/-- What an exception no route catches is answered with. -/
def serverError : Refusal := ⟨500, "Internal Server Error"⟩

/-- A refused field. -/
def unprocessable (issue : Issue) : Refusal := ⟨422, issue.render⟩

/-- A node of an identity in use. -/
def identityTaken : Refusal := ⟨409, "a node with this identity already exists"⟩

/-- `NodeUpdate`: the fields a patch gives. A null in place of a text never gets this far. -/
structure NodeUpdate where
  (name address : Option String := none)
  port : Option ℤ := none
  (uuid protocol password method transport security sni publicKey : Option String := none)
  (shortId fingerprint path host mode alpn note : Option String := none)
  /-- The profile a patch assigns, or nothing inside where it clears the assignment. -/
  tuningProfileId : Option (Option ℤ) := none

/-- The fields of `NodeUpdate`, in field order. -/
def NodeUpdate.issue (body : NodeUpdate) : Option Issue :=
  firstIssue [body.name.bind (textIssue "name" 1 512),
     body.address.bind (textIssue "address" 1 253),
     body.port.bind (rangeIssue "port" 1 65535),
     body.uuid.bind (textIssue "uuid" 0 512),
     body.protocol.bind (choiceIssue "protocol" protocols),
     body.password.bind (textIssue "password" 0 512),
     body.method.bind (textIssue "method" 0 64),
     body.transport.bind (textIssue "transport" 0 64),
     body.security.bind (textIssue "security" 0 32),
     body.sni.bind (textIssue "sni" 0 253),
     body.publicKey.bind (textIssue "public_key" 0 512),
     body.shortId.bind (textIssue "short_id" 0 512),
     body.fingerprint.bind (textIssue "fingerprint" 0 32),
     body.path.bind (textIssue "path" 0 512),
     body.host.bind (textIssue "host" 0 253),
     body.mode.bind (textIssue "mode" 0 64),
     body.alpn.bind (textIssue "alpn" 0 512),
     body.note.bind (textIssue "note" 0 512)]

/-- `setattr` of every given field. -/
def NodeUpdate.patch (body : NodeUpdate) (node : RawNode) : RawNode :=
  { node with
    name := body.name.getD node.name
    address := body.address.getD node.address
    port := (body.port.map Int.toNat).getD node.port
    uuid := body.uuid.getD node.uuid
    protocol := body.protocol.getD node.protocol
    password := body.password.getD node.password
    method := body.method.getD node.method
    transport := body.transport.getD node.transport
    security := body.security.getD node.security
    sni := body.sni.getD node.sni
    publicKey := body.publicKey.getD node.publicKey
    shortId := body.shortId.getD node.shortId
    fingerprint := body.fingerprint.getD node.fingerprint
    path := body.path.getD node.path
    host := body.host.getD node.host
    mode := body.mode.getD node.mode
    alpn := body.alpn.getD node.alpn
    note := body.note.getD node.note
    tuningProfileId := (body.tuningProfileId.map fun id => id.map Int.toNat).getD
      node.tuningProfileId }

/-- `check_credential`. -/
def checkCredential (node : RawNode) : Option String :=
  (if node.protocol = "vless" then
    if node.uuid = "" then some "a vless node needs a uuid" else none
  else if node.password = "" then some ("a " ++ node.protocol ++ " node needs a password")
  else none) <|>
  if node.protocol = "shadowsocks" then
    if node.method ∉ ssMethods then some ("method must be one of: " ++ ", ".intercalate ssMethods)
    else ssPasswordIssue node.method node.password
  else none

/-- `NodeIn`. -/
structure NodeIn where
  (name address : String)
  port : ℤ
  uuid : String := ""
  protocol : String := "vless"
  (password method : String := "")
  transport : String := "vision"
  security : String := "reality"
  (sni publicKey shortId : String := "")
  fingerprint : String := "chrome"
  (path host mode alpn note : String := "")

/-- The body read as a patch that gives every field but the profile. -/
def NodeIn.given (body : NodeIn) : NodeUpdate where
  name := some body.name
  address := some body.address
  port := some body.port
  uuid := some body.uuid
  protocol := some body.protocol
  password := some body.password
  method := some body.method
  transport := some body.transport
  security := some body.security
  sni := some body.sni
  publicKey := some body.publicKey
  shortId := some body.shortId
  fingerprint := some body.fingerprint
  path := some body.path
  host := some body.host
  mode := some body.mode
  alpn := some body.alpn
  note := some body.note

/-- The fields of the node a body asks for, over the defaults of a node. -/
def NodeIn.node (body : NodeIn) : RawNode := body.given.patch plainNode

/-- The checks of `NodeIn`: the limits of `NodeUpdate`, then `credential_matches_protocol`. -/
def NodeIn.issue (body : NodeIn) : Option Issue :=
  body.given.issue <|> (checkCredential body.node).map valueError

/-- The insert of `add_node`, on a node built from the given fields. -/
def insertNode (table : NodeTable) (fields : RawNode) : Except SqlError NodeTable :=
  let row := ({ fields with id := table.lastId + 1 } : RawNode).normalize
  if hid : table.lastId + 1 < rowIdLimit then
    if hrows : Legal (table.rows ++ [row]) (table.lastId + 1) then
      .ok { table with
        rows := table.rows ++ [row], lastId := table.lastId + 1, legal := hrows, ids_small := hid }
    else .error .integrity
  else .error .full

/-- `POST /nodes`. -/
def addNode (table : NodeTable) (body : NodeIn) : Except Refusal NodeTable :=
  match body.issue with
  | some issue => .error (unprocessable issue)
  | none =>
    match insertNode table body.node with
    | .ok after => .ok after
    | .error .integrity => .error identityTaken
    | .error _ => .error serverError

/-- `_check_profile_id`. -/
def checkProfileId (profiles : List ℕ) (profileId : Option ℤ) : Option Refusal :=
  profileId.bind fun id =>
    if id ∈ profiles.map (fun profile : ℕ => (profile : ℤ)) then none
    else some ⟨422, "tuning profile not found"⟩

theorem lastId_withNode {row : RawNode} {store after : FeedStore}
    (h : withNode row store=some after) : after.lastId=store.lastId := by
  unfold withNode at h
  split at h
  · cases h
    rfl
  · cases h

/-- `update_node` of the store. -/
def replaceNode (table : NodeTable) (row : RawNode) : Except SqlError NodeTable :=
  match h : withNode row table.toFeedStore with
  | some after => .ok ⟨after, (lastId_withNode h).trans_lt table.ids_small⟩
  | none => .error .integrity

/-- The part of `PATCH /nodes/…` after the node was found. -/
def patchNode (table : NodeTable) (node : RawNode) (body : NodeUpdate) : Except Refusal NodeTable :=
  let row := (body.patch node).normalize
  match checkCredential row with
  | some why => .error ⟨422, why⟩
  | none =>
    match replaceNode table row with
    | .ok after => .ok after
    | .error _ => .error identityTaken

/-- `PATCH /nodes/…`. -/
def updateNode (profiles : List ℕ) (table : NodeTable) (nodeId : ℤ) (body : NodeUpdate) :
    Except Refusal NodeTable :=
  match body.issue with
  | some issue => .error (unprocessable issue)
  | none =>
    match getNode table.toFeedStore nodeId with
    | none => .error ⟨404, "node not found"⟩
    | some node =>
      if table.settings "active_node_id" = some (toString nodeId) then
        .error ⟨409, "disconnect the active node before editing it"⟩
      else
        match body.tuningProfileId.bind (checkProfileId profiles) with
        | some refusal => .error refusal
        | none => patchNode table node body

section Feeds

variable (lib : Library)

/-- The text the column `transport` keeps of a value that is none. -/
def boundText (value : Value) : Option String :=
  match value with
  | .bool value => some (if value then "1" else "0")
  | .int value =>
    if -(rowIdLimit : ℤ) ≤ value ∧ value < rowIdLimit then some (toString value) else none
  | .float .nan => none
  | .float _ => some (lib.render value)
  | .str text => some text
  | _ => none

/-- The parsed node as its row is read back; nothing where the insert raises. -/
def boundNode (parsed : FeedNode) : Option {node : RawNode // node.normalize = node} :=
  match parsed.oddTransport with
  | none => some ⟨parsed.node, parsed.built⟩
  | some value => (boundText lib value).map fun text =>
    ⟨({ parsed.node with transport := text } : RawNode).normalize, RawNode.normalize_idem _⟩

/-- The entries of a merge: the last parsed node of every identity is written, so one of those
that cannot be bound fails the whole. -/
def boundFeed (parsed : List FeedNode) : Option (List {node : RawNode // node.normalize = node}) :=
  if (putRows (fun node : FeedNode => identity (clampNodeFields node.node)) parsed).all
      fun node => (boundNode lib node).isSome then
    some (parsed.map fun node => (boundNode lib node).getD ⟨node.node, node.built⟩)
  else none

/-- The row an import makes of a parsed node. No parser sets a profile or a position. -/
def importedRow (node : RawNode) : RawNode :=
  { clampNodeFields node with
    subscriptionId := none, stale := false, tuningProfileId := none, position := 0 }

/-- The loop of `import_nodes`. -/
def importAll : NodeTable → List FeedNode → Except SqlError NodeTable
  | table, [] => .ok table
  | table, parsed :: rest =>
    if (none, identity (clampNodeFields parsed.node)) ∈ table.rows.map rowIdentity then
      importAll table rest
    else
      match boundNode lib parsed with
      | none => .error .binding
      | some node =>
        match insertNode table (importedRow node.val) with
        | .ok after => importAll after rest
        | .error why => .error why

/-- `_MAX_IMPORT`. -/
def maxImport : ℕ := 512 * 1024

/-- `POST /nodes/import`, one transaction. -/
def importNodes (table : NodeTable) (text : String) : Except Refusal NodeTable :=
  match textIssue "text" 0 maxImport text with
  | some issue => .error (unprocessable issue)
  | none =>
    match parseSubscription lib (some (maxNodes + 1)) text with
    | .error _ => .error ⟨422, "parse failed"⟩
    | .ok (parsed, _) =>
      match importAll lib table (parsed.take maxNodes) with
      | .ok after => .ok after
      | .error .integrity => .error ⟨409, "import rejected, nothing was added"⟩
      | .error _ => .error serverError

/-- `refresh` of a subscription whose fetch brings the body, with the other answers it meets. A
merge that runs out of ids leaves nothing behind. -/
def refreshFeed (digest : List Identity → String) (subId : ℕ) (defaultProfileId : Option ℕ)
    (body : String) (answers : List Answer) (table : NodeTable) : NodeTable :=
  match parseSubscription lib (some (maxNodes + 1)) body with
  | .error _ => table
  | .ok (parsed, _) =>
    match boundFeed lib (parsed.take maxNodes) with
    | none => table
    | some feed =>
      let after := afterRound digest table.toFeedStore ⟨subId, answers.map fun answer =>
        { answer with feed := feed, defaultProfileId := defaultProfileId }⟩
      if h : after.lastId < rowIdLimit then ⟨after, h⟩ else table

end Feeds

variable {node : RawNode}

section Bodies

/-! ### Requests whose rows fit -/

variable {subs profiles : List ℕ} {most : ℕ} {settings : String → Option String}

theorem checkCredential_eq_none_iff (h : node.protocol∈protocols) :
    checkCredential node=none ↔ HasCredential node.read := by
  have hvless : node.read.protocol = .vless ↔ node.protocol = "vless" := by
    obtain hp | hp | hp := mem_protocols h <;> simp [RawNode.read,readProtocol,hp]
  have hss : node.read.protocol = .shadowsocks ↔ node.protocol = "shadowsocks" := by
    obtain hp | hp | hp := mem_protocols h <;> simp [RawNode.read,readProtocol,hp]
  have hread : HasCredential node.read ↔ (node.protocol = "vless" → node.uuid ≠ "") ∧
      (¬node.protocol = "vless" → node.password ≠ "") ∧ (node.protocol = "shadowsocks" →
        node.method∈ssMethods ∧ ssPasswordIssue node.method node.password=none) := by
    rw [← hvless,← hss]
    exact ⟨fun h => ⟨h.uuid,h.password,h.method⟩, fun h => ⟨h.1,h.2.1,h.2.2⟩⟩
  rw [hread]
  unfold checkCredential
  by_cases hp : node.protocol = "vless"
  · simp [hp]
  · by_cases hq : node.protocol = "shadowsocks"
    · by_cases hmeth : node.method∈ssMethods <;> simp [hq,hmeth]
    · simp [hp,hq]

/-- A row the document takes, as to the two limits the API has looser. -/
@[mk_iff] structure StorableRow (row : RawNode) : Prop where
  transport : row.transport ∈ transportNames
  alpn : row.alpn.length ≤ 128

instance (row : RawNode) : Decidable (StorableRow row) :=
  decidable_of_iff' _ (storableRow_iff row)

theorem alpn_normalize (row : RawNode) : row.normalize.alpn=row.alpn := by
  have hread : row.normalize.alpn=row.read.normalize.alpn := congrArg Node.alpn (read_normalize row)
  rw [hread,Node.normalize]
  split <;> rfl

/-- The row `POST /nodes` stores. -/
def createdRow (table : NodeTable) (body : NodeIn) : RawNode :=
  ({ body.node with id := table.lastId + 1 } : RawNode).normalize

variable {old field : String} {table after : NodeTable} {body : NodeUpdate} {given : Option String}

theorem length_getD_le {low high : ℕ}
    (h : given.bind (textIssue field low high)=none) (hold : old.length≤high) :
    (given.getD old).length≤high := by
  cases given with
  | none => exact hold
  | some text => exact (textIssue_eq_none_iff.mp h).2

theorem length_getD_pos {high : ℕ}
    (h : given.bind (textIssue field 1 high)=none) (hold : 1≤old.length) :
    1≤(given.getD old).length := by
  cases given with
  | none => exact hold
  | some text => exact (textIssue_eq_none_iff.mp h).1

theorem limits_patch (h : body.issue=none) (halpn : (body.patch node).alpn.length≤128)
    (hnode : NodeLimits node.read) (hprof : ∀ id∈(body.patch node).tuningProfileId, id≠0) :
    NodeLimits (body.patch node).read := by
  unfold NodeUpdate.issue at h
  rw [firstIssue_eq_none_iff] at h
  simp only [forall_mem_cons,not_mem_nil,false_imp_iff,implies_true,and_true] at h
  obtain ⟨h1,h2,h3,h4,-,h6,h7,-,h9,h10,h11,h12,h13,h14,h15,h16,-,h18⟩ := h
  exact {
    id := hnode.id
    name := ⟨length_getD_pos h1 hnode.name.1,length_getD_le h1 hnode.name.2⟩
    address := ⟨length_getD_pos h2 hnode.address.1,length_getD_le h2 hnode.address.2⟩
    port := by
      change 1≤(body.port.map Int.toNat).getD node.port ∧
        (body.port.map Int.toNat).getD node.port≤65535
      cases hport : body.port with
      | none => exact hnode.port
      | some port =>
        rw [hport,Option.bind_some,rangeIssue_eq_none_iff] at h3
        change 1≤port.toNat ∧ port.toNat≤65535
        omega
    uuid := length_getD_le h4 hnode.uuid
    password := length_getD_le h6 hnode.password
    method := length_getD_le h7 hnode.method
    sni := length_getD_le h10 hnode.sni
    publicKey := length_getD_le h11 hnode.publicKey
    shortId := length_getD_le h12 hnode.shortId
    fingerprint := length_getD_le h13 hnode.fingerprint
    flow := hnode.flow
    network := hnode.network
    security := length_getD_le h9 hnode.security
    path := length_getD_le h14 hnode.path
    host := length_getD_le h15 hnode.host
    mode := length_getD_le h16 hnode.mode
    alpn := halpn
    note := length_getD_le h18 hnode.note
    subscriptionId := hnode.subscriptionId
    tuningProfileId := hprof
    position := hnode.position }

/-- A row after normalisation, from what its fields were before. -/
theorem rowFits_normalize {row : RawNode} (hrow : StorableRow row.normalize)
    (hlimits : NodeLimits row.read) (hcred : HasCredential row.normalize.read)
    (hsub : ∀ id∈row.subscriptionId, id∈subs)
    (hprof : ∀ id∈row.tuningProfileId, id∈profiles) : RowFits subs profiles row.normalize := by
  have hread := read_normalize row
  obtain ⟨hsubKept,hprofileKept⟩ := BackupRestore.normalize_references row.read
  refine ⟨hrow.transport,⟨?_,hcred⟩,?_,?_⟩
  · rw [hread]
    exact hlimits.normalize
  · have hkept : row.normalize.subscriptionId=row.subscriptionId :=
      (congrArg Node.subscriptionId hread).trans hsubKept
    rwa [hkept]
  · have hkept : row.normalize.tuningProfileId=row.tuningProfileId :=
      (congrArg Node.tuningProfileId hread).trans hprofileKept
    rwa [hkept]

theorem protocol_patch (h : body.issue=none) (hnode : node.protocol∈protocols) :
    (body.patch node).protocol∈protocols := by
  unfold NodeUpdate.issue at h
  rw [firstIssue_eq_none_iff] at h
  have hchoice := h (body.protocol.bind (choiceIssue "protocol" protocols)) (by simp)
  change body.protocol.getD node.protocol∈protocols
  cases hproto : body.protocol with
  | none => exact hnode
  | some protocol =>
    rw [hproto,Option.bind_some,choiceIssue_eq_none_iff] at hchoice
    exact hchoice

theorem patched_profile (hcheck : body.tuningProfileId.bind (checkProfileId profiles)=none)
    (hnode : ∀ id∈node.tuningProfileId, id∈profiles) :
    ∀ id∈(body.patch node).tuningProfileId, id∈profiles := by
  intro id hid
  change id∈(body.tuningProfileId.map fun id => id.map Int.toNat).getD node.tuningProfileId at hid
  cases hgiven : body.tuningProfileId with
  | none =>
    rw [hgiven] at hid
    exact hnode id hid
  | some given =>
    rw [hgiven] at hid hcheck
    obtain ⟨number,hnumber,rfl⟩ := Option.map_eq_some_iff.mp hid
    rw [Option.bind_some,checkProfileId,hnumber,Option.bind_some] at hcheck
    split at hcheck
    next hmem =>
      obtain ⟨profile,hprof,rfl⟩ := mem_map.mp hmem
      exact hprof
    · cases hcheck

variable (h : Carries subs profiles most settings table.toFeedStore)

include h

theorem insertNode_carries {fields : RawNode} (hinsert : insertNode table fields = .ok after)
    (hrow : RowFits subs profiles ({ fields with id := table.lastId+1 } : RawNode).normalize) :
    Carries subs profiles (most+1) settings after.toFeedStore := by
  unfold insertNode at hinsert
  dsimp only at hinsert
  split at hinsert
  · split at hinsert
    · cases hinsert
      refine ⟨fun row hmem => ?_,?_,h.settings⟩
      · rcases mem_append.mp hmem with hold | hnew
        · exact h.rows row hold
        · rw [mem_singleton.mp hnew]
          exact hrow
      · have hcount := h.count
        rw [length_append,length_singleton]
        omega
    · cases hinsert
  · cases hinsert

/-- A created node fits the document unless its row uses one of the two looser limits. -/
theorem addNode_carries {body : NodeIn}
    (hrow : StorableRow (createdRow table body)) (hadd : addNode table body = .ok after) :
    Carries subs profiles (most+1) settings after.toFeedStore := by
  unfold addNode at hadd
  split at hadd
  · cases hadd
  next hissue =>
    split at hadd
    next inserted hinsert =>
      cases hadd
      obtain ⟨hfields,hcheck⟩ : body.given.issue=none ∧
          (checkCredential body.node).map valueError=none := by
        simpa only [NodeIn.issue,Option.orElse_eq_none] using hissue
      have hproto : body.node.protocol∈protocols :=
        protocol_patch hfields (by decide : plainNode.protocol∈protocols)
      have hcred : HasCredential body.node.read :=
        (checkCredential_eq_none_iff hproto).mp (Option.map_eq_none_iff.mp hcheck)
      -- every field is given, so any node within the limits may stand for the defaults
      have hbase : NodeFits ({ plainNode with
          id := 1, name := "x", address := "x", port := 1, uuid := "x" } : RawNode).read :=
        nodeIssue_eq_none_iff.mp (by decide +kernel)
      have halpn : body.alpn.length≤128 := (congrArg _ (alpn_normalize _)).symm.trans_le
        hrow.alpn
      have hlimits := limits_patch hfields halpn hbase.toNodeLimits (nofun)
      refine insertNode_carries h hinsert (rowFits_normalize hrow ?_ ?_ ?_ ?_)
      · exact { hlimits with id := Nat.succ_ne_zero _ }
      · rw [read_normalize]
        exact HasCredential.normalize ⟨hcred.uuid,hcred.password,hcred.method⟩
      · rintro id ⟨⟩
      · rintro id ⟨⟩
    · cases hadd
    · cases hadd

/-- An edited node fits the document unless its row uses one of the two looser limits. -/
theorem updateNode_carries {nodeId : ℤ} (hprofs : 0∉profiles)
    (hrow : body.issue=none → ∀ node∈getNode table.toFeedStore nodeId,
      StorableRow (body.patch node).normalize)
    (hupd : updateNode profiles table nodeId body = .ok after) :
    Carries subs profiles most settings after.toFeedStore := by
  unfold updateNode at hupd
  split at hupd
  · cases hupd
  next hissue =>
    split at hupd
    · cases hupd
    next node hnode =>
      split at hupd
      · cases hupd
      · split at hupd
        · cases hupd
        next hcheck =>
          obtain ⟨hmem,-⟩ := getNode_eq_some_iff.mp hnode
          have hfits := h.rows node hmem
          have hprof := patched_profile hcheck hfits.profile
          unfold patchNode at hupd
          dsimp only at hupd
          split at hupd
          · cases hupd
          next hcred =>
            have hstorable := hrow hissue node hnode
            have hrow : RowFits subs profiles (body.patch node).normalize := by
              refine rowFits_normalize hstorable ?_ ?_ hfits.subscription hprof
              · exact limits_patch hissue (alpn_normalize _ ▸ hstorable.alpn)
                  hfits.fits.toNodeLimits fun id hid => ne_zero_of_mem hprofs (hprof id hid)
              · exact (checkCredential_eq_none_iff (normalize_protocol_mem _)).mp hcred
            split at hupd
            next replaced hrepl =>
              cases hupd
              unfold replaceNode at hrepl
              split at hrepl
              next stored hstored =>
                cases hrepl
                exact h.withNode hrow hstored
              · cases hrepl
            · cases hupd

end Bodies

section Feeds

/-! ### Feeds whose rows fit -/

variable {subs profiles : List ℕ} {most : ℕ} {settings : String → Option String} {lib : Library}

/-- A parsed node with a transport of text that is storable. -/
def StorableEntry (parsed : FeedNode) : Prop :=
  parsed.oddTransport = none ∧ Storable parsed.node

theorem boundNode_of_storable {parsed : FeedNode} (h : StorableEntry parsed) :
    boundNode lib parsed=some ⟨parsed.node,parsed.built⟩ := by
  unfold boundNode
  rw [h.1]

theorem normalize_importedRow (h : node.normalize=node) (id : ℕ) :
    ({ importedRow node with id := id } : RawNode).normalize =
      placed (clampNodeFields node) id none false 0 none (clampNodeFields node).note :=
  built_placed (built_clampNodeFields h) id none false 0 none (clampNodeFields node).note

variable {table after : NodeTable} {parsed : List FeedNode}

theorem importAll_carries (h : Carries subs profiles most settings table.toFeedStore)
    (hparsed : ∀ node∈parsed, StorableEntry node)
    (himp : importAll lib table parsed = .ok after) :
    Carries subs profiles (most+parsed.length) settings after.toFeedStore := by
  induction parsed generalizing table most with
  | nil =>
    cases himp
    exact h
  | cons node rest ih =>
    have hrest : ∀ other∈rest, StorableEntry other := fun other hother =>
      hparsed other (mem_cons_of_mem node hother)
    have hnode := hparsed node mem_cons_self
    have hlen : most+(node::rest).length=most+1+rest.length := by
      rw [length_cons]
      omega
    rw [hlen]
    unfold importAll at himp
    split at himp
    · have hskipped := ih h hrest himp
      exact ⟨hskipped.rows,hskipped.count.trans (by omega),hskipped.settings⟩
    · rw [boundNode_of_storable hnode] at himp
      dsimp only at himp
      split at himp
      next inserted hinsert =>
        refine ih (insertNode_carries h hinsert ?_) hrest himp
        rw [normalize_importedRow node.built]
        have hshort : node.node.transport.length≤512 := by
          have hall : ∀ name∈transportNames, name.length≤512 := by decide
          exact hall _ hnode.2.transport
        refine ⟨?_,?_,nofun,nofun⟩
        · change clampText 512 node.node.transport∈transportNames
          rw [clampText_of_le hshort]
          exact hnode.2.transport
        · exact hnode.2.nodeFits node.built node.port_legal (Nat.succ_ne_zero _)
            (nofun) (nofun) (Nat.zero_le _) (length_clampText_le 512 _)
      · cases himp

/-- The nodes a text is read as, up to the limit of one feed. -/
def parsedNodes (lib : Library) (text : String) : List FeedNode :=
  match parseSubscription lib (some (maxNodes + 1)) text with
  | .error _ => []
  | .ok (parsed, _) => parsed.take maxNodes

theorem importNodes_carries {text : String}
    (h : Carries subs profiles most settings table.toFeedStore)
    (hparsed : ∀ node∈parsedNodes lib text, StorableEntry node)
    (himp : importNodes lib table text = .ok after) :
    Carries subs profiles (most+(parsedNodes lib text).length) settings after.toFeedStore := by
  unfold importNodes at himp
  split at himp
  · cases himp
  · split at himp
    · cases himp
    next parsed counts hread =>
      have hnodes : parsedNodes lib text=parsed.take maxNodes := by
        unfold parsedNodes
        rw [hread]
      split at himp
      next imported himported =>
        cases himp
        rw [hnodes] at hparsed ⊢
        exact importAll_carries h hparsed himported
      · cases himp
      · cases himp

theorem boundFeed_of_storable (h : ∀ node∈parsed, StorableEntry node) :
    boundFeed lib parsed=some (parsed.map fun node => ⟨node.node,node.built⟩) := by
  unfold boundFeed
  rw [if_pos]
  · refine congrArg some (map_congr_left fun node hnode => ?_)
    rw [boundNode_of_storable (h node hnode)]
    rfl
  · rw [all_eq_true]
    intro node hnode
    rw [boundNode_of_storable (h node (mem_of_mem_putRows hnode))]
    rfl

/-- A refresh with a feed of storable nodes leaves rows that fit, wherever it stops. -/
theorem refreshFeed_carries {digest : List Identity → String} {subId : ℕ}
    {defaultProfileId : Option ℕ} {body : String} {answers : List Answer}
    (hrows : ∀ row∈table.rows, RowFits subs profiles row)
    (hparsed : ∀ node∈parsedNodes lib body, StorableEntry node)
    (hmost : table.rows.length+(parsedNodes lib body).length ≤ most)
    (hrefers : RefersTo subs profiles subId defaultProfileId) :
    Carries subs profiles most table.settings
      (refreshFeed lib digest subId defaultProfileId body answers table).toFeedStore := by
  have hstart : Carries subs profiles most table.settings table.toFeedStore :=
    ⟨hrows,by omega,fun _ _ => rfl⟩
  unfold refreshFeed
  split
  · exact hstart
  next parsed counts hread =>
    have hnodes : parsedNodes lib body=parsed.take maxNodes := by
      unfold parsedNodes
      rw [hread]
    rw [hnodes] at hparsed hmost
    rw [boundFeed_of_storable hparsed]
    dsimp only
    split
    · have hcapped : (((parsed.take maxNodes).map fun node =>
          (⟨node.node,node.built⟩ : {node : RawNode // node.normalize=node})).take maxNodes) =
          (parsed.take maxNodes).map fun node => ⟨node.node,node.built⟩ := by
        rw [← map_take,take_take,min_self]
      have hfeed : AllStorable (((parsed.take maxNodes).map fun node =>
          ⟨node.node,node.built⟩).take maxNodes) := by
        rw [hcapped]
        intro node hnode
        obtain ⟨entry,hentry,rfl⟩ := mem_map.mp hnode
        exact ⟨(hparsed entry hentry).2,entry.port_legal⟩
      refine (refresh_carries hrows hfeed ?_ hrefers).state fun answer hanswer => ?_
      · rw [hcapped,length_map]
        exact hmost
      · obtain ⟨given,-,rfl⟩ := mem_map.mp hanswer
        exact ⟨rfl,rfl⟩
    · exact hstart

end Feeds

end PiGwPanel.NodeRoutes
