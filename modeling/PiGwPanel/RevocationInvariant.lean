import PiGwPanel.RemoteAccessRevocation
import PiGwPanel.GuardedRestart

/-!
# What a revocation rests on

Every spawn passes the guard, so a freshly started xray serves nobody the store
does not grant, and the roster never grants a revoked client. Between spawns
the marker stands for what a running xray may still serve: it is only dropped
when the child is gone or was started after the revocation.
-/

namespace PiGwPanel.RemoteAccessRevocation

open AnsweredProgram Models ConfigBuilder ConfigManager RemoteAccessReconcile GatewayPanel Prog

variable {W Dig α : Type} {host : Host W Dig} {A : Reply → Prop} {C : Prop}
variable {s t : Panel W Dig}

/-- A running xray accepts the client. -/
def Serves (child : Option Config) (id : String) : Prop :=
  ∃ cfg, child = some cfg ∧ Grant.client id ∈ liveGrants cfg

/-- No revoked client is accepted. -/
def Refused (store : PanelStore W) (child : Option Config) : Prop :=
  ∀ id ∈ store.revoked, ¬ Serves child id

/-- While the marker is clear, no revoked client is accepted. -/
def Kept (store : PanelStore W) (child : Option Config) : Prop :=
  store.rwReconcilePending = false → Refused store child

/-- The roster enables nobody who was revoked. -/
def Roster (store : PanelStore W) : Prop :=
  ∀ c ∈ store.rwClients, c.enabled = true → c.id ∉ store.revoked

theorem refused_none (store : PanelStore W) : Refused store none := by
  rintro id - ⟨cfg,hcfg,-⟩
  cases hcfg

variable {u : Panel W Dig} {store next : PanelStore W} {child : Option Config}
variable {saved : Option (PanelStore W)} {D : Disk Config Dig → Prop}

theorem granted_client {id : String} (h : Grant.client id∈granted (resolve host store)) :
    ∃ c∈store.rwClients, c.enabled=true ∧ c.id=id := by
  unfold resolve at h
  cases hshape : host.rwShape store.rest with
  | none =>
    rw [hshape] at h
    cases h
  | some shape =>
    cases hclients : store.rwClients.filter fun c => c.enabled with
    | nil =>
      rw [hshape,hclients] at h
      cases h
    | cons first others =>
      rw [hshape,hclients] at h
      have hclient : id=first.id ∨ ∃ c∈others, c.id=id := by
        simpa [granted,rwGrants,rwInboundBlock] using h
      have hlist : ∃ c∈first::others, c.id=id := by
        rcases hclient with hfst | ⟨c,hc,hid⟩
        · exact ⟨first,List.mem_cons_self,hfst.symm⟩
        · exact ⟨c,List.mem_cons_of_mem _ hc,hid⟩
      obtain ⟨c,hc,hid⟩ := hlist
      rw [← hclients,List.mem_filter] at hc
      exact ⟨c,hc.1,hc.2,hid⟩

theorem Roster.refused {cfg : Config} (h : Roster store)
    (hcfg : rwExcess (resolve host store) cfg=false) : Refused store (some cfg) := by
  rintro id hid ⟨other,hother,hserved⟩
  cases hother
  have hgranted : Grant.client id∈granted (resolve host store) := by
    simpa using List.any_eq_false.mp hcfg _ hserved
  obtain ⟨c,hc,hon,rfl⟩ := granted_client hgranted
  exact h c hc hon hid

/-- What every panel program upholds. `C` says that the open transaction, if there is one, has
given nobody back whom the database still counts as revoked. -/
structure Upheld (C : Prop) (s : Panel W Dig) : Prop where
  roster : Roster s.store
  savedRoster : ∀ saved, s.committed = some saved → Roster saved
  below : C → ∀ saved, s.committed = some saved → saved.revoked ⊆ s.store.revoked
  view : Kept s.store s.child
  base : C → ∀ saved, s.committed = some saved → Kept saved s.child

/-- The store changed in nothing a revocation depends on. -/
structure Neutral (store next : PanelStore W) : Prop where
  clients : next.rwClients = store.rwClients
  revoked : next.revoked = store.revoked
  marker : next.rwReconcilePending = store.rwReconcilePending

theorem Neutral.refl (store : PanelStore W) : Neutral store store := ⟨rfl,rfl,rfl⟩

section

variable (h : Neutral store next)

include h

theorem Neutral.roster (hr : Roster store) : Roster next := by
  intro c hc hon
  rw [h.revoked]
  exact hr c (h.clients ▸ hc) hon

theorem Neutral.refused (hr : Refused store child) : Refused next child := by
  intro id hid
  exact hr id (h.revoked ▸ hid)

theorem Neutral.kept (hk : Kept store child) : Kept next child :=
  fun hmarker => h.refused (hk (h.marker ▸ hmarker))

end

section

variable (h : Upheld C s)

include h

theorem Upheld.neutral (hcomm : t.committed=s.committed)
    (hchild : t.child=s.child) (hstore : Neutral s.store t.store) : Upheld C t where
  roster := hstore.roster h.roster
  savedRoster saved hsaved := h.savedRoster saved (hcomm ▸ hsaved)
  below hC saved hsaved := by
    rw [hstore.revoked]
    exact h.below hC saved (hcomm ▸ hsaved)
  view := by
    rw [hchild]
    exact hstore.kept h.view
  base hC saved hsaved := by
    rw [hchild]
    exact h.base hC saved (hcomm ▸ hsaved)

theorem Upheld.replaced {want : Bool} (hchild : Refused s.store child) :
    Upheld C { s with child := child, wantRunning := want } where
  roster := h.roster
  savedRoster := h.savedRoster
  below := h.below
  view _ := hchild
  base hC saved hsaved _ := fun id hid => hchild id (h.below hC saved hsaved hid)

theorem Upheld.cleared (hchild : Refused s.store s.child) :
    Upheld C { s with store := s.store.withPending false } :=
  ⟨h.roster,h.savedRoster,h.below,fun _ => hchild,h.base⟩

theorem Upheld.onlyDisk (ht : OnlyDisk D s t) : Upheld C t := by
  obtain ⟨d,-,rfl⟩ := ht
  exact h.neutral rfl rfl (Neutral.refl _)

theorem Upheld.onlyStore (ht : OnlyStore (Neutral s.store) s t) : Upheld C t := by
  obtain ⟨store,hstore,rfl⟩ := ht
  exact h.neutral rfl rfl hstore

theorem Upheld.begin : Upheld C s.begin where
  roster := h.roster
  savedRoster saved hsaved := by
    cases hsaved
    exact h.roster
  below _ saved hsaved := by
    cases hsaved
    exact fun _ hid => hid
  view := h.view
  base _ saved hsaved := by
    cases hsaved
    exact h.view

end

theorem upheld_settles : Settles fun s : Panel W Dig => Upheld C s where
  want _ _ h := h.neutral rfl rfl (Neutral.refl _)
  down _ h := h.replaced (refused_none _)

section Writes

/-- A write that a revocation does not depend on. -/
theorem writeStore_neutral {v : Panel W Dig} {change : PanelStore W → PanelStore W}
    (hchange : ∀ store, Neutral store (change store)) (ht : OnlyStore (Neutral v.store) v t) :
    Meets A (writeStore change) t (OnlyStore (Neutral v.store) v)
      (fun u => OnlyStore (Neutral v.store) v u ∧ Unwritten A)
      fun _ u => OnlyStore (Neutral v.store) v u := by
  refine .value (writeStore_onlyStore ht ?_) fun _ _ hu => hu.1
  obtain ⟨store,hstore,rfl⟩ := ht
  have hnext := hchange store
  exact ⟨hnext.clients.trans hstore.clients,hnext.revoked.trans hstore.revoked,
    hnext.marker.trans hstore.marker⟩

theorem onlyStore_refl (v : Panel W Dig) : OnlyStore (Neutral v.store) v v :=
  ⟨v.store,Neutral.refl _,rfl⟩

theorem recordSwitch_neutral (previousId : Option ℕ) (node : Node) (v : Panel W Dig) :
    Meets A (recordSwitch previousId node) v (OnlyStore (Neutral v.store) v)
      (fun u => OnlyStore (Neutral v.store) v u ∧ Unwritten A)
      fun _ u => OnlyStore (Neutral v.store) v u := by
  refine .bind (P := fun _ u => OnlyStore (Neutral v.store) v u) ?_ ?_
  · unfold recordPrevious
    split
    · exact writeStore_neutral (fun _ => ⟨rfl,rfl,rfl⟩) (onlyStore_refl v)
    · exact .pure (onlyStore_refl v)
  intro _ t ht
  refine .bind (writeStore_neutral (fun _ => ⟨rfl,rfl,rfl⟩) ht) fun _ t ht => ?_
  refine .bind (writeStore_neutral (fun _ => ⟨rfl,rfl,rfl⟩) ht) fun _ t ht => ?_
  exact writeStore_neutral (fun _ => ⟨rfl,rfl,rfl⟩) ht

/-- A transaction of such writes, on its own or inside another. -/
theorem transaction_neutral {body : PanelProg W Dig α} (h : Upheld C s)
    (hbody : ∀ v : Panel W Dig, Meets A body v (OnlyStore (Neutral v.store) v)
      (fun u => OnlyStore (Neutral v.store) v u ∧ Unwritten A)
      fun _ u => OnlyStore (Neutral v.store) v u) :
    Meets A (transaction body) s (Upheld C)
      (fun t => Upheld C t ∧ t.committed=s.committed ∧ Unwritten A) fun _ t =>
        Upheld C t ∧ t.committed=s.committed ∧ t.child=s.child ∧
          t.store.revoked=s.store.revoked ∧ (s.rollbackOnly=false → t.rollbackOnly=false) := by
  cases hsaved : s.committed with
  | some saved =>
    refine transaction_nested_meets hsaved (.mono (hbody s) (fun _ ht => h.onlyStore ht)
      (fun _ ht => ht) ?_) ?_
    · rintro - t ⟨store,hstore,rfl⟩
      exact ⟨h.neutral rfl rfl hstore,hsaved,rfl,hstore.revoked,fun h => h⟩
    · rintro t ⟨⟨store,hstore,rfl⟩,hunwritten⟩
      exact ⟨h.neutral rfl rfl hstore,hsaved,hunwritten⟩
  | none =>
    refine .mono (transaction_onlyStore (T := Neutral s.store) (U := fun _ _ => True)
      hsaved (.value (hbody s.begin) fun _ _ hu => ⟨hu,trivial⟩)) ?_ ?_ ?_
    · exact fun t ht => h.begin.onlyStore ht
    · rintro t ⟨rfl,hunwritten⟩
      exact ⟨h.neutral rfl rfl (Neutral.refl _),hsaved,hunwritten⟩
    · rintro - t ⟨-,store,hstore,rfl⟩
      exact ⟨h.neutral rfl rfl hstore,hsaved,rfl,hstore.revoked,fun _ => rfl⟩

/-- Dropping the marker once the child accepts no revoked client changes nothing else. -/
structure Completed (C : Prop) (s t : Panel W Dig) : Prop where
  upheld : Upheld C t
  refused : Refused t.store t.child
  committed : t.committed = s.committed
  clean : t.rollbackOnly = s.rollbackOnly

theorem Completed.start (h : Upheld C s) (hchild : Refused s.store s.child) : Completed C s s :=
  ⟨h,hchild,rfl,rfl⟩

theorem Completed.marked (h : Upheld C s) (hchild : Refused s.store s.child) :
    Completed C s { s with store := s.store.withPending false } :=
  ⟨h.cleared hchild,hchild,rfl,rfl⟩

end Writes

/-- Some reply of the class is not a success. -/
def Failing (A : Reply → Prop) : Prop := Faulty A ∨ Unwritten A

/-- Upheld, with the open transaction `saved`. -/
def Held (C : Prop) (saved : Option (PanelStore W)) (s : Panel W Dig) : Prop :=
  Upheld C s ∧ s.committed = saved

theorem held_settles : Settles fun s : Panel W Dig => Held C saved s where
  want t want ht := ⟨upheld_settles.want t want ht.1,ht.2⟩
  down t ht := ⟨upheld_settles.down t ht.1,ht.2⟩

theorem Held.onlyDisk (h : Held C saved s) (ht : OnlyDisk D s t) : Held C saved t := by
  refine ⟨h.1.onlyDisk ht,?_⟩
  obtain ⟨d,-,rfl⟩ := ht
  exact h.2

/-- How an apply leaves a panel: with a child that accepts no revoked client, or with the child
it found unless a command failed. -/
def ApplyKeeps (A : Reply → Prop) (C : Prop) (s : Panel W Dig) (result : ApplyResult)
    (t : Panel W Dig) : Prop :=
  Held C s.committed t ∧
    match result with
    | .ok () => Refused t.store t.child ∧ (s.rollbackOnly = false → t.rollbackOnly = false)
    | .error _ => t.child = s.child ∨ Failing A

/-- An exception of an apply leaves the child it found, unless a command failed. -/
def RaiseKeeps (A : Reply → Prop) (C : Prop) (s t : Panel W Dig) : Prop :=
  Held C s.committed t ∧ (t.child = s.child ∨ Failing A)

theorem Upheld.raiseKeeps (h : Upheld C s) : RaiseKeeps A C s s := ⟨⟨h,rfl⟩,.inl rfl⟩

/-- How a re-apply leaves a panel. -/
def ReapplyKeeps (A : Reply → Prop) (C : Prop) (s : Panel W Dig) (result : Option ApplyResult)
    (t : Panel W Dig) : Prop :=
  match result with
  | none => Held C s.committed t ∧ t.child = s.child ∧
      (s.rollbackOnly = false → t.rollbackOnly = false)
  | some result => ApplyKeeps A C s result t

/-- The invariant holds and nothing but the selection changed. -/
structure SameChild (C : Prop) (s t : Panel W Dig) : Prop where
  upheld : Upheld C t
  committed : t.committed = s.committed
  child : t.child = s.child
  clean : t.rollbackOnly = s.rollbackOnly

theorem SameChild.raise (h : SameChild C s t) (hu : RaiseKeeps A C t u) : RaiseKeeps A C s u :=
  ⟨⟨hu.1.1,hu.1.2.trans h.committed⟩,h.child ▸ hu.2⟩

theorem SameChild.reapply {result : Option ApplyResult} (h : SameChild C s t)
    (hu : ReapplyKeeps A C t result u) : ReapplyKeeps A C s result u := by
  match result with
  | none => exact ⟨⟨hu.1.1,hu.1.2.trans h.committed⟩,hu.2.1.trans h.child,h.clean ▸ hu.2.2⟩
  | some (.ok ()) => exact ⟨⟨hu.1.1,hu.1.2.trans h.committed⟩,hu.2.1,h.clean ▸ hu.2.2⟩
  | some (.error e) => exact ⟨⟨hu.1.1,hu.1.2.trans h.committed⟩,h.child ▸ hu.2⟩

theorem clearStaleActive_keeps (h : Upheld C s) :
    Meets A clearStaleActive s (Upheld C) (RaiseKeeps A C s) (ReapplyKeeps A C s) := by
  refine .bind (.mono (transaction_neutral h fun v => ?_) (fun _ ht => ht)
    (fun _ ht => ⟨⟨ht.1,ht.2.1⟩,.inr (.inr ht.2.2)⟩) fun _ _ ht => ht) ?_
  · refine .bind (writeStore_neutral (fun _ => ⟨rfl,rfl,rfl⟩) (onlyStore_refl v)) fun _ t ht => ?_
    refine .bind (writeStore_neutral (fun _ => ⟨rfl,rfl,rfl⟩) ht) fun _ t ht => ?_
    exact writeStore_neutral (fun _ => ⟨rfl,rfl,rfl⟩) ht
  · rintro - t ⟨ht,hcomm,hchild,-,hclean⟩
    refine .bind (netCall_meets ht fun _ => ⟨⟨ht,hcomm⟩,.inl hchild⟩) ?_
    rintro note u ⟨rfl,-⟩
    cases note with
    | none => exact .pure ⟨⟨ht,hcomm⟩,hchild,hclean⟩
    | some e => exact .pure ⟨⟨ht,hcomm⟩,.inl hchild⟩

theorem resume_meets (h : Upheld C s) : Meets A pendingOrActive s (SameChild C s) (SameChild C s)
      fun id t => SameChild C s t ∧ id=resumed s.store :=
  pendingOrActive_meets ⟨h,rfl,rfl,rfl⟩ ⟨h.neutral rfl rfl ⟨rfl,rfl,rfl⟩,rfl,rfl,rfl⟩

variable [DecidableEq Dig]

/-- Every restart is guarded, so what it brings up accepts no revoked client. -/
theorem startable_held (hdig : Function.Injective host.digest) :
    Startable host A (Held C saved) (fun t => Refused t.store t.child) True where
  settles := held_settles
  idle t _ hnone := hnone ▸ refused_none t.store
  guard := by
    intro t ht hnone
    have hall : GuardWrites host t.store fun _ : Disk Config Dig => True :=
      ⟨fun _ _ => trivial,fun _ _ _ _ => trivial,fun _ _ _ _ _ _ => trivial⟩
    refine .mono (rwStartGuard_meets hall trivial) (fun u hu => ht.onlyDisk hu) (fun _ h => h) ?_
    rintro ok u ⟨hu,hclean⟩
    have hheld := ht.onlyDisk hu
    obtain ⟨d,-,rfl⟩ := hu
    refine ⟨hheld,hnone,fun hok => ?_,fun _ => .inr trivial⟩
    have hspawned : Refused t.store (readBack d.live) := by
      cases hlive : readBack d.live with
      | none => exact refused_none _
      | some cfg => exact ht.1.roster.refused (hclean hok hdig cfg (readBack_eq_some.mp hlive))
    exact ⟨⟨hheld.1.replaced hspawned,ht.2⟩,hspawned,fun _ => trivial⟩

/-- A restart on a config in line with the store touches the process only. -/
theorem startable_fresh (h : Upheld C s) (hclean : NoExcess host s) :
    Startable host A (fun t => OnlyProcess s t ∧ Upheld C t) (fun t => Refused t.store t.child)
      (readBack s.disk.live=none) where
  settles := ⟨fun t want ht => ⟨(onlyProcess_settles s).want t want ht.1,
      ht.2.neutral rfl rfl (Neutral.refl _)⟩,
    fun t ht => ⟨(onlyProcess_settles s).down t ht.1,upheld_settles.down t ht.2⟩⟩
  idle t _ hnone := hnone ▸ refused_none t.store
  guard := by
    rintro t ⟨⟨child,want,rfl⟩,ht⟩ hnone
    refine .value (rwStartGuard_meets_clean hclean ⟨⟨child,want,rfl⟩,ht⟩) ?_
    rintro ok u ⟨rfl,hfault⟩
    have hspawned : Refused s.store (readBack s.disk.live) := by
      cases hlive : readBack s.disk.live with
      | none => exact refused_none _
      | some cfg => exact h.roster.refused (hclean cfg (readBack_eq_some.mp hlive))
    exact ⟨⟨⟨child,want,rfl⟩,ht⟩,hnone,
      fun _ => ⟨⟨⟨_,want,rfl⟩,ht.replaced hspawned⟩,hspawned,fun h => h⟩, fun h => .inl (hfault h)⟩

/-- The config half of an apply, reversible or not, changes files only. -/
theorem applyConfig_installs (node : Node) (irreversible : Bool) :
    Meets A (applyConfig host s.store node irreversible) s (OnlyDisk (fun _ => True) s)
      (OnlyDisk (fun _ => True) s) fun result t => OnlyDisk (fun _ => True) s t ∧
        (result.1=true → ∃ cfg, buildNodeConfig host s.store node = .ok cfg ∧
          t.disk.live = .holds cfg) := by
  cases irreversible with
  | false =>
    refine .mono applyConfig_meets ?_ ?_ ?_
    · rintro t ⟨d,-,rfl⟩
      exact ⟨d,trivial,rfl⟩
    · rintro t ⟨d,-,rfl⟩
      exact ⟨d,trivial,rfl⟩
    · rintro ⟨ok,out⟩ t ⟨hrefused,hdone⟩
      cases ok with
      | false =>
        rw [hrefused rfl]
        exact ⟨⟨s.disk,trivial,rfl⟩,nofun⟩
      | true =>
        obtain ⟨cfg,hcfg,d,⟨hlive,-⟩,rfl⟩ := hdone rfl
        exact ⟨⟨d,trivial,rfl⟩,fun _ => ⟨cfg,hcfg,hlive⟩⟩
  | true =>
    unfold applyConfig
    cases hbuild : buildNodeConfig host s.store node with
    | error e => exact .raise ⟨s.disk,trivial,rfl⟩
    | ok cfg =>
      dsimp only
      rw [if_pos rfl]
      refine .on (.mono (applyIrreversible_meets (D := fun _ => True)
        trivial trivial trivial) ?_ ?_ ?_)
      · exact fun d _ => ⟨d,trivial,rfl⟩
      · exact fun d _ => ⟨d,trivial,rfl⟩
      · rintro result d ⟨-,hdone,-⟩
        refine ⟨⟨d,trivial,rfl⟩,fun h => ⟨cfg,rfl,?_⟩⟩
        rw [hdone h]
        rfl

section

variable (hdig : Function.Injective host.digest)

include hdig

/-- The recovery of a failed apply restarts behind the guard or stops. -/
theorem recoverApply_keeps (h : Held C saved s) (previousNode : Option Node) (irreversible : Bool) :
    Meets A (recoverApply host previousNode irreversible) s (Held C saved) (Held C saved)
      fun _ t => Held C saved t := by
  have hconfig : Meets A (recoverConfig host irreversible) s (Held C saved) (Held C saved)
      fun _ t => Held C saved t := by
    unfold recoverConfig
    split
    · exact .pure h
    · have hrollback : Meets A (rollback host.digest) s.disk _ _ _ := rollback_meets
      have hd (d : Disk Config Dig) : Held C saved { s with disk := d } :=
        h.onlyDisk (D := fun _ => True) ⟨d,trivial,rfl⟩
      refine .seq (.attempt (X := Held C saved) (P := fun _ t => Held C saved t)
        (.on (.mono hrollback (fun d _ => hd d) (fun d _ => hd d) fun _ d _ => hd d)) ?_
        fun _ _ ht => .pure ht)
      intro promoted t ht
      cases promoted with
      | true => exact .pure ht
      | false => exact .pure ht
  refine .bind hconfig ?_
  rintro ⟨rolledBack,notes⟩ t ht
  refine .bind (P := fun _ u => Held C saved u) ?_ ?_
  · unfold restoreAfterRollback
    split
    · exact restorePrevious_meets (startable_held hdig) ht
    · exact .pure ht
  rintro ⟨restored,more⟩ u hu
  dsimp only
  split
  · exact .pure hu
  · exact .bind (failClosed_meets held_settles hu) fun _ _ hv => .pure hv

variable (h : Upheld C s)

include h

/-- `apply_node` from the moment its config is installed and the switch is noted. -/
theorem serve_keeps (hclean : NoExcess host s) (hlive : readBack s.disk.live≠none) (node : Node)
    (irreversible : Bool) (previousId : Option ℕ) (previousNode : Option Node)
    (text : String → List String → String) : Meets A (do
        match ← Prog.attempt (applyRuntime host) with
        | .ok () => do
          transaction (recordSwitch previousId node)
          rwCompletePending
          pure (.ok () : ApplyResult)
        | .error e => do
          let notes ← recoverApply host previousNode irreversible
          writeStore (PanelStore.withPendingNode none)
          pure (.error (text e notes))) s
      (Upheld C) (fun t => Held C s.committed t ∧ Failing A) (ApplyKeeps A C s) := by
  refine .seq (.attempt (.weaken (applyRuntime_meets (startable_fresh h hclean)
    ⟨OnlyProcess.refl s,h⟩) (fun _ ht => ht.2) fun _ ht => ht) ?_ ?_)
  · rintro - t ⟨⟨⟨child,want,rfl⟩,ht⟩,hresult⟩
    refine .bind (.mono (transaction_neutral ht
      (recordSwitch_neutral previousId node)) (fun _ hu => hu)
      (fun _ hu => ⟨⟨hu.1,hu.2.1⟩,.inr hu.2.2⟩) fun _ _ hu => hu) ?_
    rintro - u ⟨hu,hcomm,hchild,hrevoked,hpoison⟩
    have hserved : Refused u.store u.child := by
      intro id hid
      rw [hchild]
      exact hresult id (hrevoked ▸ hid)
    have hcompl : Meets A rwCompletePending u (Completed C u)
        (fun t => Held C s.committed t ∧ Failing A) fun _ v => Completed C u v :=
      rwCompletePending_meets (Completed.start hu hserved) (Completed.marked hu hserved)
    refine .bind (.weaken hcompl (fun _ hv => hv.upheld) fun _ hv => hv) ?_
    intro _ v hv
    refine .pure ⟨⟨hv.upheld,hv.committed.trans hcomm⟩,hv.refused,fun hs => ?_⟩
    rw [hv.clean]
    exact hpoison hs
  · rintro e t ⟨⟨⟨child,want,rfl⟩,ht⟩,hresult⟩
    have hfailed : Failing A := .inl (hresult.resolve_right hlive)
    refine .bind (.mono (recoverApply_keeps hdig ⟨ht,rfl⟩ previousNode
      irreversible) (fun _ hu => hu.1) (fun _ hu => ⟨hu,hfailed⟩) fun _ _ hu => hu) ?_
    intro notes u hu
    refine .bind (P := fun _ v => Held C s.committed v)
      (writeStore_meets hu.1 (fun _ => ⟨hu,hfailed⟩) ⟨hu.1.neutral rfl rfl ⟨rfl,rfl,rfl⟩,hu.2⟩) ?_
    exact fun _ v hv => .pure ⟨hv,.inr hfailed⟩

/-- `apply_node` upholds the invariant, and on success its child accepts no revoked client. -/
theorem applyNode_keeps (node : Node) (irreversible : Bool) :
    Meets A (applyNode host node irreversible) s (Upheld C) (RaiseKeeps A C s)
      (ApplyKeeps A C s) := by
  have hd (d : Disk Config Dig) : Upheld C { s with disk := d } :=
    h.neutral rfl rfl (Neutral.refl _)
  refine .seq (readStore_meets h (fun _ => h.raiseKeeps) ?_)
  refine .seq (.attempt (.weaken (applyConfig_installs node irreversible)
    (fun _ hu => h.onlyDisk hu) fun _ hu => hu) ?_ ?_)
  case refine_2 =>
    rintro e t ⟨d,-,rfl⟩
    exact .pure ⟨⟨hd d,rfl⟩,.inl rfl⟩
  rintro ⟨ok,out⟩ t ⟨⟨d,-,rfl⟩,hdone⟩
  cases ok with
  | false => exact .pure ⟨⟨hd d,rfl⟩,.inl rfl⟩
  | true =>
    obtain ⟨cfg,hbuild,hlive⟩ := hdone rfl
    have hpend : Upheld C { s with disk := d, store := s.store.withPendingNode (some node.id) } :=
      h.neutral rfl rfl ⟨rfl,rfl,rfl⟩
    have hclean : NoExcess host
        { s with disk := d, store := s.store.withPendingNode (some node.id) } := by
      intro other hother
      cases hlive.symm.trans hother
      exact rwExcess_buildNodeConfig hbuild
    have hreadable : readBack d.live≠none := by
      rw [readBack_eq_some.mpr hlive]
      simp
    refine .seq (writeStore_meets (hd d) (fun _ => ⟨⟨hd d,rfl⟩,.inl rfl⟩) ?_)
    have hserve := serve_keeps (A := A) hdig hpend hclean hreadable node irreversible
      s.store.activeNodeId (s.store.activeNodeId.bind s.store.getNode) fun e notes =>
        "apply failed after validation: " ++ e ++
          if notes=[] then "" else "; recovery: " ++ "; ".intercalate notes
    refine .mono hserve (fun _ hv => hv) (fun _ hv => ⟨hv.1,.inr hv.2⟩) ?_
    intro result v hv
    cases result with
    | ok value => exact hv
    | error e => exact hv

theorem reapplyActiveNode_keeps (irreversible : Bool) :
    Meets A (reapplyActiveNode host irreversible) s (Upheld C) (RaiseKeeps A C s)
      (ReapplyKeeps A C s) := by
  refine .bind (.mono (resume_meets h) (fun _ ht => ht.upheld)
    (fun _ ht => ⟨⟨ht.upheld,ht.committed⟩,.inl ht.child⟩) fun _ _ ht => ht.1) ?_
  intro id t ht
  cases id with
  | none => exact .pure ⟨⟨ht.upheld,ht.committed⟩,ht.child,ht.clean ▸ fun h => h⟩
  | some id =>
    refine .seq (readStore_meets ht.upheld (fun _ => ⟨⟨ht.upheld,ht.committed⟩,.inl ht.child⟩) ?_)
    cases t.store.getNode id with
    | none =>
      refine .mono (clearStaleActive_keeps ht.upheld) (fun _ hu => hu) (fun _ hu => ht.raise hu) ?_
      exact fun result _ hu => ht.reapply hu
    | some node =>
      refine .seq (.attempt (applyNode_keeps hdig ht.upheld node irreversible) ?_
        fun e u hu => .pure (ht.raise hu))
      intro result u hu
      have hsome : ReapplyKeeps A C t (some result) u := hu
      exact .pure (ht.reapply hsome)

end

theorem reapplyActiveNode_idle (h : Upheld C s) (hidle : resumed s.store=none)
    (irreversible : Bool) :
    Meets A (reapplyActiveNode host irreversible) s (Upheld C) (SameChild C s)
      fun result t => result=none ∧ SameChild C s t := by
  refine .bind (.weaken (resume_meets h) (fun _ ht => ht.upheld) fun _ ht => ht) ?_
  rintro id t ⟨ht,hid⟩
  rw [hid,hidle]
  exact .pure ⟨rfl,ht⟩

end PiGwPanel.RemoteAccessRevocation
