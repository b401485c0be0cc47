import PiGwPanel.HostResolution
import PiGwPanel.PanelDeletions

/-!
# Who wrote the address a probe dials

The health probes dial a node's address from inside the network. A node without a
subscription is taken for one the operator added and may be probed at a private
address; any other is held to public ones. The panel is run here with a record of
whether an address was last written by a feed. The sign of origin holds as long as
no node with such an address loses its subscription, and both ways of losing it
leave the address in place.
-/

namespace PiGwPanel.ProbeProvenance

open Models NodeSecurity ConfigStore KeyedRows FeedMerge FeedRefresh FeedParsers BackupRestore
  NetworkSettings RestoredNetwork RestoredExports NodeRoutes BackupRuns PanelDeletions
  HostResolution AnsweredProgram List
open BackupDocument hiding maxNodes
open BackupAcceptance hiding NodesResolve

section Probes

variable {Ip : Type} [DecidableEq Ip] (ips : AddressLibrary Ip)

/-- `operator_added`. -/
def operatorAdded (row : RawNode) : Bool := row.subscriptionId = none

/-- `resolve_endpoints`, with the answer of its lookup. -/
def resolveEndpoints (allowPrivate : Bool) (address : String)
    (lookup : Except String (List String)) : List String :=
  if address = "" then []
  else
    match if allowPrivate then resolveLanAllowed ips address lookup
      else resolvePublicAll ips address lookup with
    | .ok texts => texts
    | .error _ => []

/-- The addresses a probe of the node may dial. -/
def probed (row : RawNode) (lookup : Except String (List String)) : List String :=
  resolveEndpoints ips (operatorAdded row) row.address lookup

theorem resolveEndpoints_strict {address : String} {lookup : Except String (List String)}
    {dialled : String} (h : dialled∈resolveEndpoints ips false address lookup) :
    ∃ ip, dialled=ips.text ip ∧ ipBlocked ips ip=false := by
  unfold resolveEndpoints at h
  split at h
  · cases h
  · split at h
    next texts hresol =>
      obtain ⟨found,-,-,hchk,rfl⟩ := resolveAll_ok hresol
      obtain ⟨ip,hip,rfl⟩ := mem_map.mp h
      exact ⟨ip,rfl,hchk ip hip⟩
    · cases h

end Probes

section Runs

/-- A panel, and whether the address of a node was last written by a feed. -/
structure Traced where
  panel : PanelStore
  fed : ℕ → Bool

/-- What happens to a panel. -/
inductive Event where
  | stored (event : BackupRuns.Event)
  | deleteSub (subId : ℕ)
  | detach (ids : List ℤ)

variable (lib : Library) (digest : List Identity → String)
  (check : String → String → Option String)

/-- The servers a body lists. -/
def listedIn (body : String) : List Identity :=
  ((boundFeed lib (parsedNodes lib body)).getD []).map fun node =>
    identity (clampNodeFields node.val)

/-- The node was added by the refresh, or its feed lists it. -/
def fedBy (before after : NodeTable) (subId : ℕ) (body : String) (id : ℕ) : Bool :=
  after.rows.any fun row => row.id = id && row.subscriptionId = some subId &&
    (decide (before.lastId < id) || decide (identity row ∈ listedIn lib body))

/-- Who wrote the addresses after an event that stores nodes. -/
def fedAfter (state : Traced) (after : PanelStore) : BackupRuns.Event → ℕ → Bool
  | .refresh subId body _ _, id =>
    (decide (id ≤ state.panel.table.lastId) && state.fed id) ||
      fedBy lib state.panel.table after.table subId body id
  | .create _, id => decide (id ≤ state.panel.table.lastId) && state.fed id
  | .importText _, id => decide (id ≤ state.panel.table.lastId) && state.fed id
  | .edit nodeId body, id =>
    match updateNode (state.panel.profiles.map TuningProfile.id) state.panel.table nodeId body with
    | .ok _ => state.fed id && !(body.address.isSome && (id : ℤ) = nodeId)
    | .error _ => state.fed id
  | .restore live now doc, id =>
    match importState (documentChecks (some live) check) standardText now state.panel.config doc with
    | .ok _ => false
    | .error _ => state.fed id

/-- The panel after an event. -/
def step (state : Traced) : Event → Traced
  | .stored event =>
    let after := BackupRuns.step lib digest check state.panel event
    ⟨after, fedAfter lib check state after event⟩
  | .deleteSub subId =>
    match PanelDeletions.deleteSub state.panel subId with
    | .ok after => ⟨after, state.fed⟩
    | .error _ => state
  | .detach ids => ⟨(detachNodes state.panel ids).panel, state.fed⟩

/-- A panel whose database was just migrated. -/
def fresh : Traced := ⟨emptyPanel, fun _ => false⟩

/-- The event takes no node off its subscription whose address was last written by a feed. -/
def KeepsOrigin (state : Traced) : Event → Prop
  | .stored _ => True
  | .deleteSub subId => ∀ row ∈ state.panel.table.rows, row.subscriptionId = some subId →
      state.fed row.id = false
  | .detach ids => ∀ row ∈ state.panel.table.rows, (row.id : ℤ) ∈ ids → state.fed row.id = false

instance (state : Traced) (event : Event) : Decidable (KeepsOrigin state event) := by
  cases event <;> dsimp only [KeepsOrigin] <;> infer_instance

/-- A node with an address of a feed has a subscription. -/
def Signed (state : Traced) : Prop :=
  ∀ row ∈ state.panel.table.rows, state.fed row.id = true → row.subscriptionId ≠ none

end Runs

section Rows

/-! ### What an event leaves of the rows there were -/

/-- Every row is one there was, with its id and its subscription, or was added. -/
def Grown (before after : FeedStore) : Prop :=
  ∀ row ∈ after.rows, before.lastId < row.id ∨
    ∃ old ∈ before.rows, old.id = row.id ∧ old.subscriptionId = row.subscriptionId

theorem grown_refl (store : FeedStore) : Grown store store :=
  fun row hrow => .inr ⟨row,hrow,rfl,rfl⟩

theorem undisturbed_grown (before : FeedStore) : Undisturbed (Grown before)
    fun row => before.lastId < row.id ∨
      ∃ old∈before.rows, old.id=row.id ∧ old.subscriptionId=row.subscriptionId where
  withActive _ hs := hs
  withoutNode _ hs := fun row hrow => hs row (mem_of_mem_filter hrow)
  withNode {s t row} hgood hs ht := by
    unfold withNode at ht
    split at ht
    · cases ht
      intro other hother
      rcases mem_of_mem_replaceRow hother with rfl | hold
      · exact hgood
      · exact hs other hold
    · cases ht

variable {digest : List Identity → String}

theorem grown_reconcile (call : MergeCall) (store : FeedStore) :
    Grown store (reconcile digest call store).1 := by
  intro row hrow
  rw [reconcile_rows,mem_append] at hrow
  rcases hrow with hkept | hadded
  · obtain ⟨old,hold,hfate⟩ := mem_filterMap.mp hkept
    obtain ⟨hid,hkey⟩ := fate_keeps hfate
    exact .inr ⟨old,hold,hid.symm,(congrArg Prod.fst hkey).symm⟩
  · exact .inl (mem_newRows hadded).1

theorem grown_refreshFeed (lib : Library) (subId : ℕ) (defaultProfileId : Option ℕ) (body : String)
    (answers : List Answer) (table : NodeTable) : Grown table.toFeedStore
      (refreshFeed lib digest subId defaultProfileId body answers table).toFeedStore := by
  unfold refreshFeed
  split
  · exact grown_refl _
  · split
    · exact grown_refl _
    · dsimp only
      split
      · have hgood := grown_refl table.toFeedStore
        refine ((undisturbed_grown table.toFeedStore).refresh hgood hgood
          (A := fun _ => True) fun _ _ _ _ => grown_reconcile _ _).state fun _ _ => trivial
      · exact grown_refl _

theorem id_normalize (row : RawNode) : row.normalize.id=row.id :=
  (congrArg Node.id (read_normalize row)).trans row.read.normalize_id

theorem subscriptionId_normalize (row : RawNode) : row.normalize.subscriptionId=row.subscriptionId :=
  (congrArg Node.subscriptionId (read_normalize row)).trans (normalize_references row.read).1

variable {table after : NodeTable} {leaving : RawNode → Bool}

theorem insertNode_rows {fields : RawNode} (h : insertNode table fields = .ok after) :
    table.lastId≤after.lastId ∧ Grown table.toFeedStore after.toFeedStore := by
  unfold insertNode at h
  dsimp only at h
  split at h
  · split at h
    · cases h
      refine ⟨Nat.le_succ _,fun row hrow => ?_⟩
      rcases mem_append.mp hrow with hold | hnew
      · exact .inr ⟨row,hold,rfl,rfl⟩
      · rw [mem_singleton.mp hnew,id_normalize]
        exact .inl (Nat.lt_succ_self _)
    · cases h
  · cases h

theorem Grown.trans {first second third : FeedStore} (h : Grown first second)
    (hids : first.lastId ≤ second.lastId) (h' : Grown second third) : Grown first third := by
  intro row hrow
  rcases h' row hrow with hnew | ⟨middle,hmiddle,hid,hsub⟩
  · exact .inl (hids.trans_lt hnew)
  · rw [← hid,← hsub]
    exact h middle hmiddle

theorem importAll_rows {lib : Library} {parsed : List FeedNode}
    (h : importAll lib table parsed = .ok after) : Grown table.toFeedStore after.toFeedStore := by
  induction parsed generalizing table with
  | nil =>
    cases h
    exact grown_refl _
  | cons node rest ih =>
    unfold importAll at h
    split at h
    · exact ih h
    · split at h
      · cases h
      · split at h
        next inserted hinsert =>
          obtain ⟨hids,hgrown⟩ := insertNode_rows hinsert
          exact hgrown.trans hids (ih h)
        · cases h

theorem addNode_rows {body : NodeIn} (h : addNode table body = .ok after) :
    Grown table.toFeedStore after.toFeedStore := by
  unfold addNode at h
  split at h
  · cases h
  · split at h
    next inserted hinsert =>
      cases h
      exact (insertNode_rows hinsert).2
    · cases h
    · cases h

theorem importNodes_rows {lib : Library} {text : String}
    (h : importNodes lib table text = .ok after) : Grown table.toFeedStore after.toFeedStore := by
  unfold importNodes at h
  split at h
  · cases h
  · split at h
    · cases h
    · split at h
      next imported himported =>
        cases h
        exact importAll_rows himported
      · cases h
      · cases h

/-- An edited node keeps its id and its subscription, and the others are left alone. -/
theorem updateNode_rows {profiles : List ℕ} {nodeId : ℤ} {body : NodeUpdate}
    (h : updateNode profiles table nodeId body = .ok after) :
    ∀ row∈after.rows, ∃ old∈table.rows, old.id=row.id ∧
      old.subscriptionId=row.subscriptionId := by
  unfold updateNode at h
  split at h
  · cases h
  · split at h
    · cases h
    next node hnode =>
      split at h
      · cases h
      · split at h
        · cases h
        · unfold patchNode at h
          dsimp only at h
          split at h
          · cases h
          · split at h
            next replaced hrepl =>
              cases h
              unfold replaceNode at hrepl
              split at hrepl
              next stored hstored =>
                cases hrepl
                unfold withNode at hstored
                split at hstored
                · cases hstored
                  intro row hrow
                  rcases mem_of_mem_replaceRow hrow with rfl | hold
                  · exact ⟨node,(getNode_eq_some_iff.mp hnode).1,(id_normalize (body.patch node)).symm,
                      (subscriptionId_normalize (body.patch node)).symm⟩
                  · exact ⟨row,hold,rfl,rfl⟩
                · cases hstored
              · cases hrepl
            · cases h

/-- A row after a deletion or a detaching is one there was, or that one detached. -/
theorem mem_detachRows {rows : List RawNode} {row : RawNode} (h : row∈detachRows leaving rows) :
    ∃ old∈rows, old.id=row.id ∧ (leaving old=true ∨ old.subscriptionId=row.subscriptionId) := by
  obtain ⟨old,hold,rfl⟩ := mem_map.mp h
  refine ⟨old,hold,?_⟩
  split
  next hleaves =>
    exact ⟨rfl,.inl hleaves⟩
  · exact ⟨rfl,.inr rfl⟩

theorem detachWhere_ok (h : detachWhere table leaving = .ok after) :
    after.rows=detachRows leaving table.rows := by
  unfold detachWhere at h
  split at h
  · cases h
    rfl
  · cases h

theorem deleteSub_rows {panel after : PanelStore} {subId : ℕ}
    (h : deleteSub panel subId = .ok after) : after.table.rows =
      detachRows (fun row => row.subscriptionId=some subId) panel.table.rows := by
  unfold deleteSub deleteSubscription transaction at h
  split at h
  · cases h
  · cases hdrop : dropSubscription subId panel with
    | error why =>
      rw [hdrop] at h
      cases h
    | ok dropped =>
      rw [hdrop] at h
      cases h
      unfold dropSubscription at hdrop
      split at hdrop
      · cases hdrop
      next table htable =>
        split at hdrop
        · cases hdrop
        · cases hdrop
          change table.rows=_
          exact detachWhere_ok htable

/-- Wherever the loop of `detach_nodes` ends, only listed nodes lost their subscription. -/
theorem detachNodes_rows (panel : PanelStore) (ids : List ℤ) :
    ∀ row∈(detachNodes panel ids).panel.table.rows, ∃ old∈panel.table.rows, old.id=row.id ∧
      ((old.id : ℤ)∈ids ∨ old.subscriptionId=row.subscriptionId) := by
  induction ids generalizing panel with
  | nil => exact fun row hrow => ⟨row,hrow,rfl,.inr rfl⟩
  | cons id rest ih =>
    intro row hrow
    unfold detachNodes at hrow
    split at hrow
    · exact ⟨row,hrow,rfl,.inr rfl⟩
    next table htable =>
      obtain ⟨middle,hmiddle,hid,hrest⟩ := ih { panel with table := table } row hrow
      have hrows : table.rows=detachRows (fun row => (row.id : ℤ)=id) panel.table.rows := by
        unfold detachNode at htable
        split at htable
        · exact detachWhere_ok htable
        · cases htable
      have hmiddle' : middle∈detachRows (fun row => (row.id : ℤ)=id) panel.table.rows :=
        hrows ▸ hmiddle
      obtain ⟨old,hold,hsame,hfst⟩ := mem_detachRows hmiddle'
      refine ⟨old,hold,hsame.trans hid,?_⟩
      rcases hfst with hself | hkept
      · exact .inl (by simp [of_decide_eq_true hself])
      · rcases hrest with hlater | hkept'
        · exact .inl (mem_cons_of_mem _ (hsame ▸ hlater))
        · exact .inr (hkept.trans hkept')

end Rows

section Origins

variable {lib : Library} {digest : List Identity → String} {check : String → String → Option String}

variable {state after : Traced}

/-- Where every marked row was marked before under its id and its subscription, or has a
subscription now, the marks are right. -/
theorem Signed.of_rows (h : Signed state)
    (hrows : ∀ row∈after.panel.table.rows, after.fed row.id=true →
      row.subscriptionId≠none ∨ ∃ old∈state.panel.table.rows, old.id=row.id ∧
        old.subscriptionId=row.subscriptionId ∧ state.fed row.id=true) : Signed after := by
  intro row hrow hfed
  rcases hrows row hrow hfed with hsub | ⟨old,hold,hid,hsub,hmarked⟩
  · exact hsub
  · rw [← hsub]
    exact h old hold (hid ▸ hmarked)

/-- Where rows were only added, and marks only kept, the marks are right. -/
theorem Signed.of_grown (h : Signed state)
    (hgrown : Grown state.panel.table.toFeedStore after.panel.table.toFeedStore)
    (hfed : ∀ row∈after.panel.table.rows, after.fed row.id=true → row.subscriptionId≠none ∨
      row.id ≤ state.panel.table.lastId ∧ state.fed row.id=true) : Signed after := by
  refine h.of_rows fun row hrow hmarked => ?_
  refine (hfed row hrow hmarked).imp_right fun ⟨hused,hpre⟩ => ?_
  rcases hgrown row hrow with hnew | ⟨old,hold,hid,hsub⟩
  · exact absurd hnew (by omega)
  · exact ⟨old,hold,hid,hsub,hpre⟩

theorem signed_stored (h : Signed state) (event : BackupRuns.Event) :
    Signed (step lib digest check state (.stored event)) := by
  cases event with
  | refresh subId body answers lifecycle =>
    have hgrown : Grown state.panel.table.toFeedStore
        (refreshPanel lib digest subId body answers lifecycle state.panel).table.toFeedStore := by
      unfold refreshPanel
      split
      · exact grown_refl _
      · exact grown_refreshFeed lib subId _ body answers state.panel.table
    refine h.of_grown hgrown fun row hrow hmarked => ?_
    rcases Bool.or_eq_true_iff.mp hmarked with hpre | hlist
    · rw [Bool.and_eq_true,decide_eq_true_eq] at hpre
      exact .inr hpre
    · obtain ⟨other,hother,hmatch⟩ := any_eq_true.mp hlist
      simp only [Bool.and_eq_true,decide_eq_true_eq] at hmatch
      have hsame := inj_on_of_nodup_map
        (step lib digest check state (.stored (.refresh subId body answers lifecycle))).panel.table.legal.ids
        hother hrow hmatch.1.1
      rw [hsame] at hmatch
      exact .inl (by simp [hmatch.1.2])
  | create body =>
    refine h.of_grown ?_ fun row hrow hmarked => .inr (by simpa [step,fedAfter] using hmarked)
    change Grown _ (state.panel.after (addNode state.panel.table body)).table.toFeedStore
    unfold PanelStore.after
    split
    next table htable =>
      exact addNode_rows htable
    · exact grown_refl _
  | importText text =>
    refine h.of_grown ?_ fun row hrow hmarked => .inr (by simpa [step,fedAfter] using hmarked)
    change Grown _ (state.panel.after (importNodes lib state.panel.table text)).table.toFeedStore
    unfold PanelStore.after
    split
    next table htable =>
      exact importNodes_rows htable
    · exact grown_refl _
  | edit nodeId body =>
    refine h.of_rows fun row hrow hmarked => .inr ?_
    cases hupd : updateNode (state.panel.profiles.map TuningProfile.id) state.panel.table nodeId
        body with
    | ok after =>
      simp only [step,BackupRuns.step,PanelStore.after,fedAfter,hupd,Bool.and_eq_true]
        at hrow hmarked
      obtain ⟨old,hold,hid,hsub⟩ := updateNode_rows hupd row hrow
      exact ⟨old,hold,hid,hsub,hmarked.1⟩
    | error refusal =>
      simp only [step,BackupRuns.step,PanelStore.after,fedAfter,hupd] at hrow hmarked
      exact ⟨row,hrow,rfl,rfl,hmarked⟩
  | restore live now doc =>
    refine h.of_rows fun row hrow hmarked => .inr ?_
    have hstate : (step lib digest check state (.stored (.restore live now doc))).panel =
        restoreState live check now state.panel doc := rfl
    rw [hstate] at hrow
    unfold restoreState at hrow
    split at hrow
    next why himp =>
      simp only [step,fedAfter,himp] at hmarked
      exact ⟨row,hrow,rfl,rfl,hmarked⟩
    next after summary himp =>
      simp only [step,fedAfter,himp] at hmarked
      cases hmarked

/-- An event that takes no node with an address of a feed off its subscription leaves the marks
right. -/
theorem signed_step (state : Traced) (event : Event) (hevent : KeepsOrigin state event)
    (h : Signed state) : Signed (step lib digest check state event) := by
  cases event with
  | stored event => exact signed_stored h event
  | deleteSub subId =>
    cases hdelete : deleteSub state.panel subId with
    | error why => simpa [step,hdelete] using h
    | ok after =>
      have hafter : Signed ⟨after,state.fed⟩ := by
        refine h.of_rows fun row hrow hmarked => .inr ?_
        rw [deleteSub_rows hdelete] at hrow
        obtain ⟨old,hold,hid,hleaves | hkept⟩ := mem_detachRows hrow
        · have hclean := hevent old hold (of_decide_eq_true hleaves)
          rw [hid] at hclean
          exact absurd (hclean.symm.trans hmarked) Bool.false_ne_true
        · exact ⟨old,hold,hid,hkept,hmarked⟩
      simpa [step,hdelete] using hafter
  | detach ids =>
    refine h.of_rows fun row hrow hmarked => .inr ?_
    obtain ⟨old,hold,hid,hlist | hkept⟩ := detachNodes_rows state.panel ids row hrow
    · have hclean := hevent old hold hlist
      rw [hid] at hclean
      exact absurd (hclean.symm.trans hmarked) Bool.false_ne_true
    · exact ⟨old,hold,hid,hkept,hmarked⟩

variable {Ip : Type} [DecidableEq Ip]

/-- Over every run in which no node with an address last
written by a feed is taken off its subscription, no probe of such a node is allowed a private
address, and whatever its lookup answers it dials addresses that are not blocked. -/
theorem fed_nodes_probed_strictly (lib : Library) (digest : List Identity → String)
    (check : String → String → Option String) (ips : AddressLibrary Ip) (events : List Event)
    (h : EveryStep (step lib digest check) KeepsOrigin fresh events) :
    let state := run (step lib digest check) fresh events
    ∀ row ∈ state.panel.table.rows, state.fed row.id = true →
      operatorAdded row = false ∧ ∀ lookup, ∀ dialled ∈ probed ips row lookup,
        ∃ ip, dialled = ips.text ip ∧ ipBlocked ips ip = false := by
  intro state row hrow hfed
  have hsigned : Signed state := run_keeps_of signed_step h fun row hrow => by cases hrow
  have hstrict : operatorAdded row=false := decide_eq_false (hsigned row hrow hfed)
  refine ⟨hstrict,fun lookup dialled hdialled => ?_⟩
  unfold probed at hdialled
  rw [hstrict] at hdialled
  exact resolveEndpoints_strict ips hdialled

/-- A subscription is restored and its feed refreshed. -/
def subscribed : List Event :=
  [.stored (.restore defaultSettings 0 (subscribedDocument [])),
    .stored (.refresh 1 feedText (List.replicate 40 ⟨true, "", [], none, true⟩) none)]

/-- The state of a panel after some events. -/
def traced (events : List Event) : Traced :=
  run (step (feedLibrary "xhttp") (fun _ => "") portCheck) fresh events

theorem fed_nodes_probed_strictly_subscribed :
    EveryStep (step (feedLibrary "xhttp") (fun _ => "") portCheck) KeepsOrigin fresh subscribed ∧
      ∀ row ∈ (traced subscribed).panel.table.rows, (traced subscribed).fed row.id = true →
        operatorAdded row = false ∧ ∀ lookup, ∀ dialled ∈ probed sampleAddresses row lookup,
          ∃ ip, dialled = sampleAddresses.text ip ∧ ipBlocked sampleAddresses ip = false := by
  have hkeeps : EveryStep (step (feedLibrary "xhttp") (fun _ => "") portCheck) KeepsOrigin fresh
      subscribed := by decide +kernel
  exact ⟨hkeeps,fed_nodes_probed_strictly _ _ _ sampleAddresses subscribed hkeeps⟩

/-- After the event a node of the feed is probed at a private address. -/
def ProbedAtPrivate (event : Event) : Prop :=
  ∃ row ∈ (traced (subscribed ++ [event])).panel.table.rows,
    (traced (subscribed ++ [event])).fed row.id = true ∧ operatorAdded row = true ∧
      probed sampleAddresses row (.ok ["10.0.0.1"]) = ["10.0.0.1"] ∧
      ipBlocked sampleAddresses "10.0.0.1" = true

/-- The node of a feed is probed at a private address once its subscription is deleted, or once it
is detached. -/
theorem fed_node_probed_at_private :
    ProbedAtPrivate (.deleteSub 1) ∧ ProbedAtPrivate (.detach [1]) := by
  unfold ProbedAtPrivate
  decide +kernel

end Origins

end PiGwPanel.ProbeProvenance
