import PiGwPanel.GuardedRestart

/-!
# The connected node and the live config

The store names the connected node, and the live config file is what xray is
started on. A switch, a re-apply and a rollback move both, each with its own
recovery from a failure. `Matches` says that they agree: the named node exists
and the file holds a config built for it.
-/

namespace PiGwPanel.ActiveNodeConfig

open AnsweredProgram Models ConfigBuilder ConfigManager RemoteAccessReconcile GatewayPanel Prog

variable {W Dig : Type} {host : Host W Dig}

/-- The config was built for the node, under whatever settings, and perhaps brought in line
with the remote access granted later. -/
inductive BuiltFor (settings : Settings) (node : Node) : Config → Prop where
  | built {options : BuildOptions} {rw : Option RwInbound} {cfg : Config}
      (h : buildConfig node settings options rw = .ok cfg) : BuiltFor settings node cfg
  | reconciled {rw : Option RwInbound} {cfg : Config} (h : BuiltFor settings node cfg) :
      BuiltFor settings node (rwReconciled settings rw cfg)

/-- A config built for a node sends proxied traffic to the server of that node. -/
theorem BuiltFor.proxy {settings : Settings} {node : Node} {cfg : Config}
    (h : BuiltFor settings node cfg) : ∃ proxy others protocol server,
      cfg.outbounds=proxy::others ∧ proxy.tag = "proxy" ∧
        proxySettings node = .ok (protocol, server) ∧ proxy.settings=some server := by
  induction h with
  | built h =>
    obtain ⟨servers,proxy,fields,action,-,hproxy,rfl,-⟩ := buildConfig_eq_ok h
    obtain ⟨htag,protocol,server,hsrv,hsets⟩ := proxyOutbound_eq_ok hproxy
    exact ⟨proxy,_,protocol,server,rfl,htag,hsrv,hsets⟩
  | @reconciled rw cfg _ ih =>
    obtain ⟨proxy,others,protocol,server,hout,htag,hsrv,hsets⟩ := ih
    have hkept : proxy.tag≠directLanTag := by
      rw [htag]
      decide
    have hfst : (rwReconciled settings rw cfg).outbounds =
        proxy::reconcileLanOutbounds settings (lanHosts rw) others := by
      simp [rwReconciled,reconcileLanOutbounds,hout,hkept]
    exact ⟨proxy,_,protocol,server,hfst,htag,hsrv,hsets⟩

/-- The node the store names exists, and the live config was built for it. -/
def Matches (host : Host W Dig) (store : PanelStore W) (live : FileText Config) : Prop :=
  ∀ id, store.activeNodeId = some id → ∃ node cfg, store.getNode id = some node ∧
    live = .holds cfg ∧ BuiltFor host.settings node cfg

/-- The files agree with the store. -/
def DiskMatches (host : Host W Dig) (store : PanelStore W) (d : Disk Config Dig) : Prop :=
  Matches host store d.live

section Matching

variable {store other : PanelStore W} {live : FileText Config} {node : Node} {cfg : Config}

theorem getNode_congr (hnodes : store.nodes=other.nodes) (id : ℕ) :
    store.getNode id=other.getNode id := by
  unfold PanelStore.getNode
  rw [hnodes]

theorem matches_congr (hnodes : store.nodes=other.nodes)
    (hact : store.activeNodeId=other.activeNodeId) (h : Matches host other live) :
    Matches host store live := by
  intro id hid
  rw [hact] at hid
  rw [getNode_congr hnodes]
  exact h id hid

/-- A config built for a stored node agrees with a store that names no other node. -/
theorem matches_of_builtFor (hnode : store.getNode node.id=some node)
    (hbuilt : BuiltFor host.settings node cfg)
    (hact : ∀ id, store.activeNodeId=some id → id=node.id) :
    Matches host store (.holds cfg) := by
  intro id hid
  rw [hact id hid]
  exact ⟨node,cfg,hnode,rfl,hbuilt⟩

theorem getNode_id {id : ℕ} (h : store.getNode id=some node) : node.id=id := by
  obtain ⟨row,hrow,rfl⟩ := Option.map_eq_some_iff.mp h
  have hid : row.id=id := by simpa using List.find?_some hrow
  rw [Node.normalize_id]
  exact hid

theorem builtFor_of_buildNodeConfig (h : buildNodeConfig host store node = .ok cfg) :
    BuiltFor host.settings node cfg := by
  unfold buildNodeConfig at h
  cases hoptions : host.buildOptions store.rest node with
  | error e =>
    rw [hoptions] at h
    cases h
  | ok options =>
    rw [hoptions] at h
    exact .built h

/-- The guard keeps the files in agreement: it rewrites the config of the connected node or
rebuilds it. -/
theorem guardWrites_diskMatches (store : PanelStore W) :
    GuardWrites host store (DiskMatches host store) where
  neutralise _ h := h
  sanitize d old h hold id hid := by
    obtain ⟨node,cfg,hnode,hlive,hbuilt⟩ := h id hid
    cases hold.symm.trans hlive
    exact ⟨node,_,hnode,rfl,hbuilt.reconciled⟩
  rebuild d node cfg h hrebuild hcfg id hid := by
    obtain ⟨active,old,hact,-,-⟩ := h id hid
    have hsame : rwRebuildNode store=some active := by simp [rwRebuildNode,hid,hact]
    cases hsame.symm.trans hrebuild
    exact ⟨node,cfg,hact,rfl,builtFor_of_buildNodeConfig hcfg⟩

end Matching

/-- The files agree with the store as the panel sees it, and with what the database holds
should an open transaction be undone. -/
structure Sound (host : Host W Dig) (s : Panel W Dig) : Prop where
  view : Matches host s.store s.disk.live
  base : ∀ saved, s.committed = some saved → Matches host saved s.disk.live

variable {s : Panel W Dig}

theorem Sound.abandon (h : Sound host s) : Sound host s.abandon where
  view := by
    cases hs : s.committed with
    | none =>
      have hstore : s.abandon.store=s.store := by simp [Panel.abandon,hs]
      rw [hstore]
      exact h.view
    | some saved =>
      have hstore : s.abandon.store=saved := by simp [Panel.abandon,hs]
      rw [hstore]
      exact h.base saved hs
  base _ hsaved := nomatch hsaved

/-- A panel between two operations. -/
structure Settled (host : Host W Dig) (s : Panel W Dig) : Prop where
  closed : s.committed = none
  view : Matches host s.store s.disk.live

theorem Settled.sound (h : Settled host s) : Sound host s where
  view := h.view
  base saved hsaved := by
    rw [h.closed] at hsaved
    cases hsaved

theorem Sound.crash (h : Sound host s) : Settled host s.crash where
  closed := rfl
  view := h.abandon.view

section Switch

variable {s : Panel W Dig} {node : Node} {cfg : Config} {C : Prop}

/-- Store and file writes happen, unless `C`, and what is to be removed is; everything else
answers arbitrarily. -/
def WritesUnless (C : Prop) (reply : Reply) : Prop :=
  (C ∨ reply.took = true) ∧ reply.gone = true

theorem of_unwritten (h : Unwritten (WritesUnless C)) : C := by
  obtain ⟨reply,⟨hC | htook,-⟩,hfalse⟩ := h
  · exact hC
  · rw [htook] at hfalse
    cases hfalse

theorem not_stuck : ¬Stuck (WritesUnless C) := by
  rintro ⟨reply,⟨-,hgone⟩,hfalse⟩
  cases hgone.symm.trans hfalse

/-- A store on the way of a switch to `id`: the nodes stay, and the selection is the old one
or the new one. -/
def OnTheWay (id : ℕ) (store next : PanelStore W) : Prop :=
  next.nodes = store.nodes ∧ (next.activeNodeId = store.activeNodeId ∨ next.activeNodeId = some id)

/-- The bookkeeping ends with the new selection, and stops on the way only at a write that
did not happen. -/
theorem recordSwitch_meets {A : Reply → Prop} (previousId : Option ℕ) :
    Meets A (recordSwitch previousId node) s (OnlyStore (OnTheWay node.id s.store) s)
      (fun t => OnlyStore (OnTheWay node.id s.store) s t ∧ Unwritten A) fun _ t =>
        OnlyStore (OnTheWay node.id s.store) s t ∧ t.store.activeNodeId=some node.id ∧
          (previousId≠some node.id → t.store.prevActiveNodeId=previousId) := by
  have hstart : OnlyStore (OnTheWay node.id s.store) s s := ⟨s.store,⟨rfl,.inl rfl⟩,rfl⟩
  refine .bind (P := fun _ t => OnlyStore (OnTheWay node.id s.store) s t ∧
    (previousId≠some node.id → t.store.prevActiveNodeId=previousId)) ?_ ?_
  · unfold recordPrevious
    split
    · refine .value (writeStore_onlyStore hstart ⟨rfl,.inl rfl⟩) fun _ _ h => ⟨h.1,fun _ => ?_⟩
      rw [h.2]
      rfl
    · next hsame => exact .pure ⟨hstart,fun hne => absurd hne hsame⟩
  rintro - t ⟨⟨store,hstore,rfl⟩,hprev⟩
  refine .bind (writeStore_onlyStore ⟨store,hstore,rfl⟩ ⟨hstore.1,.inr rfl⟩) ?_
  rintro - t ⟨ht,hselected⟩
  refine .bind (writeStore_onlyStore ht ?_) ?_
  · rw [hselected]
    exact ⟨hstore.1,.inr rfl⟩
  rintro - u ⟨hu,hcleared⟩
  refine .value (writeStore_onlyStore hu ?_) ?_
  · rw [hcleared,hselected]
    exact ⟨hstore.1,.inr rfl⟩
  rintro - v ⟨hv,hstamped⟩
  rw [hstamped,hcleared,hselected]
  exact ⟨hv,rfl,hprev⟩

/-- The node of a switch is stored, its config is live, and an open transaction has touched
neither the nodes nor the selection. -/
structure Installed (host : Host W Dig) (C : Prop) (node : Node) (s : Panel W Dig) : Prop where
  known : s.store.getNode node.id = some node
  live : ∃ cfg, s.disk.live = .holds cfg ∧ BuiltFor host.settings node cfg
  base : ∀ saved, s.committed = some saved →
    saved.nodes = s.store.nodes ∧ saved.activeNodeId = s.store.activeNodeId
  calm : C → ∀ id, s.store.activeNodeId = some id → id = node.id

variable {store : PanelStore W}

/-- Unless another node is connected, every store on the way of the switch agrees with the
installed config. -/
theorem Installed.onTheWay (h : Installed host C node s) (hC : C)
    (hstore : OnTheWay node.id s.store store) : Matches host store s.disk.live := by
  obtain ⟨cfg,hlive,hbuilt⟩ := h.live
  rw [hlive]
  refine matches_of_builtFor ?_ hbuilt ?_
  · rw [getNode_congr hstore.1]
    exact h.known
  · intro id hid
    rcases hstore.2 with hold | hnew
    · exact h.calm hC id (hold ▸ hid)
    · exact Option.some.inj (hid.symm.trans hnew)

/-- The installed config agrees with a store that names its node. -/
theorem Installed.selected (h : Installed host C node s)
    (hnodes : store.nodes=s.store.nodes) (hact : store.activeNodeId=some node.id) :
    Matches host store s.disk.live := by
  obtain ⟨cfg,hlive,hbuilt⟩ := h.live
  rw [hlive]
  refine matches_of_builtFor ?_ hbuilt fun id hid => Option.some.inj (hid.symm.trans hact)
  rw [getNode_congr hnodes]
  exact h.known

theorem Installed.saved (h : Installed host C node s) (hC : C) {saved : PanelStore W}
    (hsaved : s.committed=some saved) : Matches host saved s.disk.live :=
  h.onTheWay hC ⟨(h.base saved hsaved).1,.inl (h.base saved hsaved).2⟩

variable [DecidableEq Dig]

/-- The node a rollback returns to exists, and the snapshot was built for it. -/
def SnapshotFits (host : Host W Dig) (store : PanelStore W) (candidate : Config) : Prop :=
  ∀ id, store.prevActiveNodeId = some id → ∃ node, store.getNode id = some node ∧
    BuiltFor host.settings node candidate

/-- Whatever a rollback would promote fits the node it would return to. -/
def Returnable (host : Host W Dig) (s : Panel W Dig) : Prop :=
  ∀ cfg, rollbackTarget host.digest s.disk = some cfg → SnapshotFits host s.store cfg

/-- Whatever a rollback would promote was built for the node still connected. -/
def Undoable (host : Host W Dig) (s : Panel W Dig) : Prop :=
  ∀ cfg, rollbackTarget host.digest s.disk = some cfg → Matches host s.store (.holds cfg)

/-- Once the node that was connected is the one to return to, the snapshot fits. -/
theorem Undoable.returnable {t : Panel W Dig} (h : Undoable host s) (hdisk : t.disk=s.disk)
    (hnodes : t.store.nodes=s.store.nodes)
    (hprev : t.store.prevActiveNodeId=s.store.activeNodeId) : Returnable host t := by
  intro cfg hcfg id hid
  rw [hdisk] at hcfg
  obtain ⟨node,other,hnode,hlive,hbuilt⟩ := h cfg hcfg id (hprev ▸ hid)
  cases hlive
  exact ⟨node,(getNode_congr hnodes id).trans hnode,hbuilt⟩

/-- A panel after a completed switch. The database may still name the old node, should the
surrounding transaction be undone. -/
structure Switched (host : Host W Dig) (C : Prop) (s t : Panel W Dig) : Prop where
  committed : t.committed = s.committed
  clean : s.rollbackOnly = false → t.rollbackOnly = false
  view : Matches host t.store t.disk.live
  base : C → ∀ saved, t.committed = some saved → Matches host saved t.disk.live
  undo : t.store.activeNodeId ≠ s.store.activeNodeId → Returnable host t

theorem Switched.sound {t : Panel W Dig} (h : Switched host C s t) (hC : C) : Sound host t :=
  ⟨h.view,h.base hC⟩

/-- The bookkeeping of a switch, on its own or inside a surrounding transaction. -/
theorem recordSwitch_transaction_meets (h : Installed host C node s) (hundo : Undoable host s) :
    Meets (WritesUnless C) (transaction (recordSwitch s.store.activeNodeId node)) s
      (fun t => C → Sound host t) (fun t => t.committed=s.committed ∧ Sound host t)
      fun _ t => Switched host C s t := by
  have hback {t : Panel W Dig} (hdisk : t.disk=s.disk) (hstore : t.store.nodes=s.store.nodes)
      (hact : t.store.activeNodeId=some node.id) (hprev : s.store.activeNodeId≠some node.id →
        t.store.prevActiveNodeId=s.store.activeNodeId)
      (hne : t.store.activeNodeId≠s.store.activeNodeId) : Returnable host t :=
    hundo.returnable hdisk hstore (hprev fun hsame => hne (hact.trans hsame.symm))
  cases hsaved : s.committed with
  | some saved =>
    refine transaction_nested_meets hsaved (.mono (recordSwitch_meets s.store.activeNodeId)
      ?_ (fun _ h => h) ?_) ?_
    · rintro t ⟨store,hstore,rfl⟩ hC
      exact ⟨h.onTheWay hC hstore,fun saved hsaved => h.saved hC hsaved⟩
    · rintro - t ⟨⟨store,hstore,rfl⟩,hact,hprev⟩
      exact ⟨rfl,fun h => h,h.selected hstore.1 hact,fun hC saved hsaved =>
        h.saved hC hsaved,hback rfl hstore.1 hact hprev⟩
    · rintro t ⟨⟨store,hstore,rfl⟩,hunwritten⟩
      have hC := of_unwritten hunwritten
      exact ⟨hsaved,h.onTheWay hC hstore,fun saved hsaved => h.saved hC hsaved⟩
  | none =>
    have hway (hC : C) {t : Panel W Dig} (ht : OnlyStore (OnTheWay node.id s.store) s.begin t) :
        Sound host t := by
      obtain ⟨store,hstore,rfl⟩ := ht
      refine ⟨h.onTheWay hC hstore,fun saved hsaved => ?_⟩
      cases hsaved
      exact h.onTheWay hC ⟨rfl,.inl rfl⟩
    have hundone (hunwritten : Unwritten (WritesUnless C)) {t : Panel W Dig}
        (ht : OnlyStore (OnTheWay node.id s.store) s.begin t) :
        t.abandon.committed=none ∧ Sound host t.abandon :=
      ⟨rfl,(hway (of_unwritten hunwritten) ht).abandon⟩
    refine transaction_meets hsaved (.weaken (recordSwitch_meets s.store.activeNodeId)
      (fun t ht hC => hway hC ht) fun _ h => h) ?_ ?_ ?_ ?_ ?_
    · exact fun t ht => hundone ht.2 ht.1
    · rintro - t ⟨⟨store,hstore,rfl⟩,-⟩ hpoisoned
      cases hpoisoned
    · exact fun _ t ht hC => hway hC ht.1
    · exact fun _ t ht hunwritten => hundone hunwritten ht.1
    · rintro - t ⟨⟨store,hstore,rfl⟩,hact,hprev⟩ -
      exact ⟨hsaved.symm,fun _ => rfl,h.selected hstore.1 hact,nofun,
        hback rfl hstore.1 hact hprev⟩

end Switch

section Recovery

variable [DecidableEq Dig] {s : Panel W Dig} {C : Prop}

/-- A failed apply can return to files that agree with the store: the config it replaced can
be rolled back to, and when a write may fail the files agree already. -/
structure Recoverable (host : Host W Dig) (C : Prop) (s : Panel W Dig) : Prop where
  target : Undoable host s
  here : C → DiskMatches host s.store s.disk
  there : ¬C → rollbackTarget host.digest s.disk ≠ none

variable (h : Recoverable host C s)

include h

theorem Recoverable.process {t : Panel W Dig} (ht : OnlyProcess s t) : Recoverable host C t := by
  obtain ⟨child,want,rfl⟩ := ht
  exact ⟨h.target,h.here,h.there⟩

theorem recoverConfig_meets {E : Panel W Dig → Prop} :
    Meets (WritesUnless C) (recoverConfig host false) s
      (fun t => C → OnlyRuntime (DiskMatches host s.store) s t) E
      fun _ t => OnlyRuntime (DiskMatches host s.store) s t := by
  have hdisk {d : Disk Config Dig} (hd : DiskMatches host s.store d) :
      OnlyRuntime (DiskMatches host s.store) s { s with disk := d } :=
    ⟨d,s.child,s.wantRunning,hd,rfl⟩
  have hmoved (hC : C) {d : Disk Config Dig} (hd : d.live=s.disk.live ∨
      ∃ cfg, rollbackTarget host.digest s.disk=some cfg ∧ d.live = .holds cfg) :
      DiskMatches host s.store d := by
    unfold DiskMatches
    rcases hd with hsame | ⟨cfg,htgt,hcfg⟩
    · rw [hsame]
      exact h.here hC
    · rw [hcfg]
      exact h.target cfg htgt
  refine .seq (.attempt (X := OnlyRuntime (DiskMatches host s.store) s)
    (P := fun _ t => OnlyRuntime (DiskMatches host s.store) s t)
    (.on (.mono rollback_meets ?_ ?_ ?_)) ?_ fun _ _ h => .pure h)
  · exact fun d hd hC => hdisk (hmoved hC hd)
  · rintro d ⟨hd,hunwritten⟩
    exact hdisk (hmoved (of_unwritten hunwritten) hd)
  · rintro ok d ⟨hnone,hsome⟩
    cases ok with
    | true =>
      obtain ⟨cfg,htgt,hcfg⟩ := hsome rfl
      refine hdisk ?_
      unfold DiskMatches
      rw [hcfg]
      exact h.target cfg htgt
    | false =>
      obtain ⟨rfl,htgt⟩ := hnone rfl
      exact hdisk (h.here (by_contra fun hC => h.there hC htgt))
  · intro promoted t ht
    cases promoted with
    | true => exact .pure ht
    | false => exact .pure ht

/-- The recovery of a failed apply ends with files that agree with the store. -/
theorem recoverApply_meets (previousNode : Option Node) :
    Meets (WritesUnless C) (recoverApply host previousNode false) s
      (fun t => C → OnlyRuntime (DiskMatches host s.store) s t)
      (OnlyRuntime (DiskMatches host s.store) s)
      fun _ t => OnlyRuntime (DiskMatches host s.store) s t := by
  refine .bind (recoverConfig_meets h) ?_
  rintro ⟨rolledBack,notes⟩ t ht
  refine .bind (P := fun _ u => OnlyRuntime (DiskMatches host s.store) s u) ?_ ?_
  · unfold restoreAfterRollback
    split
    · exact .weaken (restorePrevious_meets
        (startable_of_guardWrites (guardWrites_diskMatches s.store)) ht)
        (fun _ h _ => h) fun _ h => h
    · exact .pure ht
  rintro ⟨restored,more⟩ u hu
  dsimp only
  split
  · exact .pure hu
  · refine .bind (.weaken (failClosed_meets (onlyRuntime_settles s) hu)
      (fun _ h _ => h) fun _ h => h) ?_
    exact fun _ _ hv => .pure hv

end Recovery

section Apply

variable {s t : Panel W Dig} {node : Node} {C : Prop}

/-- No other node is connected than the one an apply is for. -/
def Calm (store : PanelStore W) (id : ℕ) : Prop :=
  store.activeNodeId = none ∨ store.activeNodeId = some id

/-- A panel an apply of the node can start from. -/
structure Ready (host : Host W Dig) (node : Node) (s : Panel W Dig) : Prop where
  known : s.store.getNode node.id = some node
  view : Matches host s.store s.disk.live
  base : ∀ saved, s.committed = some saved →
    saved.nodes = s.store.nodes ∧ saved.activeNodeId = s.store.activeNodeId

/-- Files that agree with the store agree with what an open transaction started from. -/
theorem Ready.sound_of_live (h : Ready host node s) (hstore : t.store=s.store)
    (hcomm : t.committed=s.committed) (hlive : t.disk.live=s.disk.live) : Sound host t where
  view := by
    rw [hstore,hlive]
    exact h.view
  base saved hsaved := by
    rw [hlive]
    obtain ⟨hnodes,hact⟩ := h.base saved (hcomm ▸ hsaved)
    exact matches_congr hnodes hact h.view

theorem Ready.installed (h : Ready host node s) (hcalm : C → Calm s.store node.id)
    {cfg : Config} {d : Disk Config Dig} (hlive : d.live = .holds cfg)
    (hbuild : buildNodeConfig host s.store node = .ok cfg) :
    Installed host C node { s with disk := d } where
  known := h.known
  live := ⟨cfg,hlive,builtFor_of_buildNodeConfig hbuild⟩
  base := h.base
  calm hC id hid := by
    rcases hcalm hC with hnone | hsome
    · cases hnone.symm.trans hid
    · exact Option.some.inj (hid.symm.trans hsome)

/-- How an apply leaves the panel: switched to the node, or as it was. -/
def Applied [DecidableEq Dig] (host : Host W Dig) (C : Prop) (s : Panel W Dig)
    (result : ApplyResult) (t : Panel W Dig) : Prop :=
  match result with
  | .ok () => Switched host C s t
  | .error _ => t.committed = s.committed ∧ Sound host t

theorem Applied.of_eq [DecidableEq Dig] {u : Panel W Dig} {result : ApplyResult}
    (h : Applied host C u result t) (hcomm : u.committed=s.committed)
    (hclean : u.rollbackOnly=s.rollbackOnly)
    (hact : u.store.activeNodeId=s.store.activeNodeId) : Applied host C s result t := by
  cases result with
  | ok value =>
    have hswitched : Switched host C u t := h
    exact ⟨hswitched.committed.trans hcomm,fun hs => hswitched.clean (hclean.trans hs),
      hswitched.view,hswitched.base,hact ▸ hswitched.undo⟩
  | error e => exact ⟨h.1.trans hcomm,h.2⟩

section

variable (h : Installed host C node s)

include h

theorem Installed.sound (hC : C) : Sound host s :=
  ⟨h.onTheWay hC ⟨rfl,.inl rfl⟩,fun _ hsaved => h.saved hC hsaved⟩

theorem Installed.process (ht : OnlyProcess s t) : Installed host C node t := by
  obtain ⟨child,want,rfl⟩ := ht
  exact ⟨h.known,h.live,h.base,h.calm⟩

/-- A panel whose apply failed has files that agree with the store. -/
theorem Installed.recovered (ht : OnlyRuntime (DiskMatches host s.store) s t) :
    t.committed=s.committed ∧ Sound host t := by
  obtain ⟨d,child,want,hd,rfl⟩ := ht
  refine ⟨rfl,hd,fun saved hsaved => ?_⟩
  obtain ⟨hnodes,hact⟩ := h.base saved hsaved
  exact matches_congr hnodes hact hd

variable [DecidableEq Dig]

/-- The success half of `apply_node`, once its config is installed and served. -/
theorem record_after_install (hundo : Undoable host s) : Meets (WritesUnless C) (do
        transaction (recordSwitch s.store.activeNodeId node)
        rwCompletePending
        pure (.ok () : ApplyResult)) s
      (fun t => C → Sound host t) (fun t => t.committed=s.committed ∧ Sound host t)
      (Applied host C s) := by
  refine .bind (recordSwitch_transaction_meets h hundo) ?_
  intro _ t ht
  have hcompleted : Meets (WritesUnless C) rwCompletePending t (Switched host C s)
      (fun u => u.committed=s.committed ∧ Sound host u) fun _ u => Switched host C s u :=
    rwCompletePending_meets ht ⟨ht.committed,ht.clean,ht.view,ht.base,ht.undo⟩
  refine .bind (.weaken hcompleted (fun _ hu hC => hu.sound hC) fun _ hu => hu) ?_
  exact fun _ _ hu => .pure hu

end

variable [DecidableEq Dig]

section

variable (h : Installed host C node s)

include h

/-- The config an apply replaced is the one the connected node needs. -/
theorem Installed.recoverable (hidle : s.store.activeNodeId=none → C) {before : FileText Config}
    (hpre : Matches host s.store before)
    (hfiled : Filed (WritesUnless C) host.digest before s.disk) : Recoverable host C s where
  target cfg hcfg := by
    have hheld := (hfiled.target cfg hcfg).resolve_right not_stuck
    exact hheld ▸ hpre
  here hC := h.onTheWay hC ⟨rfl,.inl rfl⟩
  there hC hnone := by
    cases hid : s.store.activeNodeId with
    | none => exact hC (hidle hid)
    | some id =>
      obtain ⟨active,previous,-,hprevious,-⟩ := hpre id hid
      rcases hfiled.held previous hprevious with htgt | hunread
      · cases htgt.symm.trans hnone
      · exact hC (of_unwritten hunread)

/-- The recovery half of `apply_node`, once its config is installed. -/
theorem recover_after_install
    (hrecover : Recoverable host C s) (previousNode : Option Node) (text : List String → String) :
    Meets (WritesUnless C) (do
        let notes ← recoverApply host previousNode false
        writeStore (PanelStore.withPendingNode none)
        pure (.error (text notes) : ApplyResult)) s
      (fun t => C → Sound host t)
      (fun t => t.committed=s.committed ∧ Sound host t)
      (Applied host C s) := by
  refine .bind (.mono (recoverApply_meets hrecover previousNode)
    (fun t ht hcalm => (h.recovered (ht hcalm)).2) (fun t ht => h.recovered ht)
    fun _ t ht => h.recovered ht) ?_
  rintro notes t ⟨hcomm,hsound⟩
  refine .bind (P := fun _ u => u.committed=s.committed ∧ Sound host u)
    (writeStore_meets (fun _ => hsound) (fun _ => ⟨hcomm,hsound⟩)
      ⟨hcomm,hsound.view,hsound.base⟩) ?_
  exact fun _ _ hu => .pure hu

/-- `apply_node` from the moment its config is installed and the switch is noted. -/
theorem serve_after_install (hclean : NoExcess host s) (hrecover : Recoverable host C s)
    (previousNode : Option Node) (text : String → List String → String) : Meets (WritesUnless C) (do
        match ← Prog.attempt (applyRuntime host) with
        | .ok () => do
          transaction (recordSwitch s.store.activeNodeId node)
          rwCompletePending
          pure (.ok () : ApplyResult)
        | .error e => do
          let notes ← recoverApply host previousNode false
          writeStore (PanelStore.withPendingNode none)
          pure (.error (text e notes))) s
      (fun t => C → Sound host t)
      (fun t => t.committed=s.committed ∧ Sound host t)
      (Applied host C s) := by
  refine .seq (.attempt (.mono (applyRuntime_meets (startable_of_noExcess hclean)
    (OnlyProcess.refl s)) (fun t ht => (h.process ht).sound) (fun _ ht => ht.1)
    fun _ _ ht => ht.1) ?_ ?_)
  · intro _ t ht
    have hrecord := record_after_install (h.process ht) (hrecover.process ht).target
    obtain ⟨child,want,rfl⟩ := ht
    exact .value hrecord fun _ _ hu => hu.of_eq rfl rfl rfl
  · intro e t ht
    have hafter := recover_after_install (h.process ht) (hrecover.process ht) previousNode (text e)
    obtain ⟨child,want,rfl⟩ := ht
    exact .value hafter fun _ _ hu => hu.of_eq rfl rfl rfl

end

/-- `apply_node` keeps store and files in agreement, unless it is a switch between two nodes
in which a write fails or the process dies. -/
theorem applyNode_meets (h : Ready host node s) (hcalm : C → Calm s.store node.id)
    (hidle : s.store.activeNodeId=none → C) : Meets (WritesUnless C) (applyNode host node false) s
      (fun t => C → Sound host t) (fun t => t.committed=s.committed ∧ Sound host t)
      (Applied host C s) := by
  have hsame {u : Panel W Dig} (hu : OnlyDisk (fun d => d.live=s.disk.live) s u) :
      u.committed=s.committed ∧ Sound host u := by
    obtain ⟨d,hd,rfl⟩ := hu
    exact ⟨rfl,h.sound_of_live rfl rfl hd⟩
  have hstart : s.committed=s.committed ∧ Sound host s := hsame ⟨s.disk,rfl,rfl⟩
  refine .seq (readStore_meets (fun _ => hstart.2) (fun _ => hstart) ?_)
  refine .seq (.attempt (.mono applyConfig_meets (fun _ hu _ => (hsame hu).2)
    ?_ fun _ _ hu => hu) ?_ fun _ _ hu => .pure hu)
  · rintro u ⟨d,⟨hd,-⟩,rfl⟩
    exact hsame ⟨d,hd,rfl⟩
  rintro ⟨ok,out⟩ t ⟨hrefused,hdone⟩
  cases ok with
  | false =>
    rw [hrefused rfl]
    exact .pure hstart
  | true =>
    obtain ⟨cfg,hbuild,d,⟨hlive,hfiled⟩,rfl⟩ := hdone rfl
    have hinst := h.installed hcalm hlive hbuild
    refine .seq (writeStore_meets hinst.sound
        (fun hunwritten => ⟨rfl,hinst.sound (of_unwritten hunwritten)⟩) ?_)
    have hpend : Installed host C node
        { s with disk := d, store := s.store.withPendingNode (some node.id) } :=
      ⟨hinst.known,hinst.live,hinst.base,hinst.calm⟩
    have hclean : NoExcess host
        { s with disk := d, store := s.store.withPendingNode (some node.id) } := by
      intro other hother
      cases hlive.symm.trans hother
      exact rwExcess_buildNodeConfig hbuild
    have hreturn : Recoverable host C
        { s with disk := d, store := s.store.withPendingNode (some node.id) } :=
      hpend.recoverable hidle h.view hfiled
    have hserve := serve_after_install hpend hclean hreturn
      (s.store.activeNodeId.bind s.store.getNode) fun e notes =>
        "apply failed after validation: " ++ e ++
          if notes=[] then "" else "; recovery: " ++ "; ".intercalate notes
    exact .value hserve fun result v hv => hv.of_eq rfl rfl rfl

end Apply

end PiGwPanel.ActiveNodeConfig
