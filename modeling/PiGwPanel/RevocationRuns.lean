import PiGwPanel.RevocationInvariant

/-!
# Runs of the operations that grant, revoke and serve remote access

Each operation upholds the invariant whatever fails in it, with one exception:
a client that is given access again is served before that is committed. The
runs in which such a grant meets no failure keep every revoked client out of a
running xray as long as the marker is clear.
-/

namespace PiGwPanel.RemoteAccessRevocation

open AnsweredProgram ConfigBuilder ConfigManager RemoteAccessReconcile GatewayPanel List Prog

variable {W Dig α : Type} {host : Host W Dig} {A : Reply → Prop} {C : Prop}
variable {s t : Panel W Dig} {K : Panel W Dig → Prop}

section Push

variable {saved : Option (PanelStore W)}

variable {E : Panel W Dig → Prop}

theorem rwSupervisorRunning_meets {I : Panel W Dig → Prop} (hI : Settles I) (hs : I s) :
    Meets A rwSupervisorRunning s I E fun running t =>
      I t ∧ (running=some false → t.child=none) := by
  refine .ask_bind hs fun reply _ => ?_
  split
  · refine .bind (poll_meets hI hs) ?_
    rintro running t ⟨ht,hdown,-⟩
    refine .pure ⟨ht,fun h => hdown ?_⟩
    cases h
    rfl
  · exact .pure ⟨hs,nofun⟩

/-- The outcome is reconciled only when no revoked client is accepted. -/
def PushKeeps (C : Prop) (saved : Option (PanelStore W)) (how : RwOutcome) (t : Panel W Dig) :
    Prop :=
  Held C saved t ∧ (how.reconciled = true → Refused t.store t.child)

theorem rwFailSafeStop_keeps (h : Held C saved s) :
    Meets A rwFailSafeStop s (Held C saved) E (PushKeeps C saved) := by
  have hnet {t : Panel W Dig} (ht : Held C saved t) : Meets A (attempt netCall) t
      (Held C saved) E fun _ u => u=t :=
    .attempt (X := fun u => u=t) (netCall_meets ht fun _ => rfl) (fun _ _ hu => hu.1)
      fun _ _ hu => hu
  refine .seq (.attempt (supervisorStop_meets held_settles h) ?_ ?_)
  · rintro stopped t ⟨ht,hdown,-⟩
    refine .bind (hnet ht) ?_
    rintro - u rfl
    cases stopped with
    | true => exact .pure ⟨ht,fun _ => hdown rfl ▸ refused_none u.store⟩
    | false => exact .pure ⟨ht,nofun⟩
  · rintro e t ⟨ht,-⟩
    refine .bind (hnet ht) ?_
    rintro - u rfl
    exact .pure ⟨ht,nofun⟩

theorem invalidateRollback_keeps (h : Held C saved s) :
    Meets A (onDisk invalidateRollback) s (Held C saved) E fun _ t =>
      Held C saved t ∧ t.store=s.store ∧ t.child=s.child :=
  .on (.mono
    (invalidateProvenanceDurably_meets (D := fun _ => True) (E := fun _ => False) trivial trivial)
    (fun d _ => h.onlyDisk (D := fun _ => True) ⟨d,trivial,rfl⟩) (fun _ h => h.elim)
    fun _ d _ => ⟨h.onlyDisk (D := fun _ => True) ⟨d,trivial,rfl⟩, rfl,rfl⟩)

theorem openManager_meets (hK : K s) (hE : E s) : Meets A openManager s K E fun _ t => t=s := by
  refine .ask_bind hK fun setup _ => ?_
  split
  · exact .pure rfl
  · exact .raise hE

theorem rwClearReconcilePending_keeps (h : Held C saved s) (hchild : Refused s.store s.child) :
    Meets A rwClearReconcilePending s (Held C saved) E fun _ t => Held C saved t :=
  rwClearReconcilePending_meets h ⟨h.1.cleared hchild,h.2⟩

variable [DecidableEq Dig]

theorem rwWriteConfig_keeps (h : Held C saved s) :
    Meets A (rwWriteConfig host) s (Held C saved) E fun _ t =>
      Held C saved t ∧ t.child=s.child := by
  have hall : GuardWrites host s.store fun _ : Disk Config Dig => True :=
    ⟨fun _ _ => trivial,fun _ _ _ _ => trivial,fun _ _ _ _ _ _ => trivial⟩
  refine .mono (rwWriteConfig_meets hall trivial) (fun _ ht => h.onlyDisk ht) (fun _ ht => ht) ?_
  rintro ok t ⟨ht,-⟩
  have hheld := h.onlyDisk ht
  obtain ⟨d,-,rfl⟩ := ht
  exact ⟨hheld,rfl⟩

theorem rwDropUnsafeRollback_keeps (h : Held C saved s) :
    Meets A (rwDropUnsafeRollback host) s (Held C saved) E fun _ t =>
      Held C saved t ∧ t.store=s.store ∧ t.child=s.child := by
  have hdrop : Meets A (do let _ ← onDisk invalidateRollback : PanelProg W Dig Unit) s
      (Held C saved) E fun _ t => Held C saved t ∧ t.store=s.store ∧ t.child=s.child :=
    .bind (invalidateRollback_keeps h) fun _ _ ht => .pure ht
  refine .seq (.attempt (X := fun t => t=s) (openManager_meets h rfl) ?_ ?_)
  case refine_2 =>
    rintro e t rfl
    exact .pure ⟨h,rfl,rfl⟩
  rintro - t rfl
  refine .read_bind ?_
  cases rollbackTarget host.digest t.disk with
  | none => exact hdrop
  | some candidate =>
    refine .seq (.attempt (X := fun u => u=t) (rwExcessNow_meets h fun _ => rfl) ?_ ?_)
    · rintro excess u ⟨rfl,-⟩
      cases excess with
      | false => exact .pure ⟨h,rfl,rfl⟩
      | true => exact hdrop
    · rintro e u rfl
      exact hdrop

variable (hdig : Function.Injective host.digest)

include hdig

/-- A reload that worked left a child that accepts no revoked client. -/
theorem rwReloadIfRunning_keeps (h : Held C saved s) :
    Meets A (rwReloadIfRunning host) s (Held C saved) E fun reloaded t =>
      Held C saved t ∧ (reloaded≠some false → Refused t.store t.child) := by
  refine .seq (.attempt (X := Held C saved) (P := fun reloaded t => Held C saved t ∧
    (reloaded≠some false → Refused t.store t.child)) ?_ (fun _ _ ht => .pure ht)
    fun _ _ ht => .pure ⟨ht,fun hne => absurd rfl hne⟩)
  refine .bind (poll_meets held_settles h) ?_
  rintro running t ⟨ht,hdown,-⟩
  split
  · refine .bind (.mono (supervisorReload_meets (startable_held hdig) ht)
      (fun _ hu => hu) (fun _ hu => hu.1) fun _ _ hu => hu) ?_
    rintro ready u ⟨hu,hready,-⟩
    refine .pure ⟨hu,fun hne => (hready ?_).1⟩
    cases ready with
    | true => rfl
    | false => exact absurd rfl hne
  · next hrunning =>
    exact .pure ⟨ht,fun _ => hdown (by simpa using hrunning) ▸ refused_none t.store⟩

/-- A reload that counts as reconciled leaves no revoked client served. -/
theorem rwReloadOrStop_keeps (h : Held C saved s) (gone : RwOutcome) :
    Meets A (rwReloadOrStop host gone) s (Held C saved) E (PushKeeps C saved) := by
  refine .bind (rwReloadIfRunning_keeps hdig h) ?_
  rintro reloaded t ⟨ht,hreloaded⟩
  match reloaded with
  | some true => exact .pure ⟨ht,fun _ => hreloaded (by simp)⟩
  | none => exact .pure ⟨ht,fun _ => hreloaded (by simp)⟩
  | some false => exact rwFailSafeStop_keeps ht

/-- `_rw_push_to_runtime` reports a reconciled outcome only when no revoked client is accepted. -/
theorem rwPushToRuntime_keeps (h : Held C saved s)
    {running : Option Bool} (hrunning : running=some false → s.child=none) :
    Meets A (rwPushToRuntime host running) s (Held C saved) E (PushKeeps C saved) := by
  have hdown {t : Panel W Dig} (hchild : t.child=s.child) (hfalse : running=some false) :
      Refused t.store t.child := by
    rw [hchild,hrunning hfalse]
    exact refused_none _
  refine .read_bind ?_
  split
  · match running with
    | some false => exact .pure ⟨h,fun _ => hdown rfl rfl⟩
    | some true => exact rwReloadOrStop_keeps hdig h _
    | none => exact rwFailSafeStop_keeps h
  · refine .bind (rwWriteConfig_keeps h) ?_
    rintro clean t ⟨ht,hchild⟩
    match running, clean with
    | some true, true => exact rwReloadOrStop_keeps hdig ht _
    | some false, true => exact .pure ⟨ht,fun _ => hdown hchild rfl⟩
    | some true, false => exact rwFailSafeStop_keeps ht
    | some false, false => exact rwFailSafeStop_keeps ht
    | none, true => exact rwFailSafeStop_keeps ht
    | none, false => exact rwFailSafeStop_keeps ht

variable (h : Held C none s)

include h

/-- So does the push of a revocation as a whole. -/
theorem rwRevokeApply_keeps : Meets A (rwRevokeApply host) s (Upheld C) E (PushKeeps C none) := by
  have hpush {t : Panel W Dig} (ht : Held C none t) {running : Option Bool}
      (hrunning : running=some false → t.child=none) :
      Meets A (rwPushToRuntime host running) t (Upheld C) E (PushKeeps C none) :=
    .weaken (rwPushToRuntime_keeps (E := E) hdig ht hrunning) (fun _ hu => hu.1) fun _ hu => hu
  have hask {t : Panel W Dig} (ht : Held C none t) :
      Meets A rwSupervisorRunning t (Upheld C) E fun running u =>
        Held C none u ∧ (running=some false → u.child=none) :=
    .weaken (rwSupervisorRunning_meets (E := E) held_settles ht) (fun _ hu => hu.1) fun _ hu => hu
  refine .bind (hask h) ?_
  rintro running t ⟨ht,hrunning⟩
  match running with
  | none => exact hpush ht hrunning
  | some false => exact hpush ht hrunning
  | some true =>
    have hretry {u : Panel W Dig} (hu : Held C none u) : Meets A (do
        let running ← rwSupervisorRunning
        rwPushToRuntime host running) u (Upheld C) E (PushKeeps C none) :=
      .bind (hask hu) fun running v hv => hpush hv.1 hv.2
    refine .seq (.attempt (reapplyActiveNode_keeps (A := A) hdig ht.1 true) ?_
      fun e u hu => hretry ⟨hu.1.1,hu.1.2.trans ht.2⟩)
    intro result u hu
    match result with
    | none => exact hpush ⟨hu.1.1,hu.1.2.trans ht.2⟩ nofun
    | some (.ok ()) => exact .pure ⟨⟨hu.1.1,hu.1.2.trans ht.2⟩,fun _ => hu.2.1⟩
    | some (.error e) => exact hretry ⟨hu.1.1,hu.1.2.trans ht.2⟩

theorem rwRevoke_keeps :
    Meets A (rwRevoke host) s (Upheld C) (Held C none) fun _ t => Held C none t := by
  refine .seq (.attempt (rwRevokeApply_keeps (E := fun _ => False) hdig h) ?_ fun _ _ ht => ht.elim)
  rintro how t ⟨ht,hhow⟩
  refine .bind (openManager_meets ht.1 ht) ?_
  rintro - u rfl
  refine .bind (.weaken (invalidateRollback_keeps (E := Held C none) ht)
    (fun _ hv => hv.1) fun _ hv => hv) ?_
  rintro - v ⟨hv,hstore,hchild⟩
  dsimp only
  split
  · next hok =>
    have hrefused : Refused v.store v.child := by
      rw [hstore,hchild]
      exact hhow hok
    refine .bind (.weaken (rwClearReconcilePending_keeps (E := Held C none) hv
      hrefused) (fun _ hw => hw.1) fun _ hw => hw) ?_
    exact fun _ _ hw => .pure hw
  · exact .pure hv

theorem rwReconcilePending_keeps : Meets A (rwReconcilePending host) s (Held C none) (Held C none)
      fun _ t => Held C none t := by
  refine .bind (rwReconcileIsPending_meets h) ?_
  rintro pending t ⟨ht,-⟩
  obtain rfl : s=t := ht.symm
  split
  · refine orFalse_meets (X := Held C none) (.bind (rwReconcileIsPending_meets h) ?_) fun _ ht => ht
    rintro again t ⟨ht,-⟩
    obtain rfl : s=t := ht.symm
    split
    · refine .bind (rwSupervisorRunning_meets held_settles h) ?_
      rintro running t ⟨ht,hrunning⟩
      refine .bind (rwPushToRuntime_keeps hdig ht hrunning) ?_
      rintro how u ⟨hu,hhow⟩
      refine .bind (rwDropUnsafeRollback_keeps hu) ?_
      rintro - v ⟨hv,hstore,hchild⟩
      split
      · next hok =>
        refine rwClearReconcilePending_keeps hv ?_
        rw [hstore,hchild]
        exact hhow hok
      · exact .pure hv
    · exact .pure h
  · exact .pure h

end Push

section Roster

variable {store : PanelStore W} {id : String}

variable (h : Roster store)

include h

theorem roster_suspend : Roster (setClientEnabled id false store) := by
  intro c hc hon
  obtain ⟨old,hold,rfl⟩ := mem_map.mp hc
  by_cases hid : old.id=id
  · simp [hid] at hon
  · rw [if_neg hid] at hon ⊢
    have hkept := h old hold hon
    simpa [setClientEnabled,hid] using hkept

theorem roster_delete : Roster (deleteClient id store) := by
  intro c hc hon
  obtain ⟨hold,hid⟩ := mem_filter.mp hc
  have hkept := h c hold hon
  have hother : c.id≠id := by simpa using hid
  simpa [deleteClient,hother] using hkept

theorem roster_resume : Roster (setClientEnabled id true store) := by
  intro c hc hon
  obtain ⟨old,hold,rfl⟩ := mem_map.mp hc
  by_cases hid : old.id=id
  · simp [setClientEnabled,hid]
  · rw [if_neg hid] at hon ⊢
    have hkept := h old hold hon
    simpa [setClientEnabled,hid] using hkept

theorem roster_append {email : String} : Roster (appendClient id email store) := by
  intro c hc hon
  rcases mem_append.mp hc with hold | hnew
  · have hkept := h c hold hon
    simp only [appendClient,mem_filter]
    exact fun hin => hkept hin.1
  · have hc : c=⟨id,email,true⟩ := by simpa using hnew
    simp [appendClient,hc]

end Roster

variable {m : PanelProg W Dig α} {child : Option Config}

section Operations

/-- A panel between two operations. -/
abbrev Safe (s : Panel W Dig) : Prop := Held True none s

/-- Whatever dies, the roster stays in order. -/
structure Rostered (s : Panel W Dig) : Prop where
  view : Roster s.store
  base : ∀ saved, s.committed = some saved → Roster saved

theorem Upheld.rostered (h : Upheld C s) : Rostered s := ⟨h.roster,h.savedRoster⟩

theorem safe_of_kept (hclosed : s.committed=none) (hroster : Roster s.store)
    (hkept : Kept s.store s.child) : Safe s := by
  have hnone {P : PanelStore W → Prop} (saved : PanelStore W) (h : s.committed=some saved) :
      P saved := by
    rw [hclosed] at h
    cases h
  exact ⟨⟨hroster,hnone,fun _ => hnone,hkept,fun _ => hnone⟩, hclosed⟩

/-- A dead panel takes its xray along. -/
theorem Rostered.crash (h : Rostered s) : Safe s.crash := by
  refine safe_of_kept rfl ?_ fun _ => refused_none _
  cases hs : s.committed with
  | none =>
    have hstore : s.crash.store=s.store := by simp [Panel.crash,Panel.abandon,hs]
    rw [hstore]
    exact h.view
  | some saved =>
    have hstore : s.crash.store=saved := by simp [Panel.crash,Panel.abandon,hs]
    rw [hstore]
    exact h.base saved hs

/-- A transaction given up falls back on what was committed. -/
theorem safe_abandon {saved : PanelStore W} (hsaved : s.committed=some saved)
    (hroster : Roster saved) (hkept : Kept saved s.child) : Safe s.abandon := by
  have hstore : s.abandon.store=saved := by simp [Panel.abandon,hsaved]
  refine safe_of_kept rfl ?_ ?_
  · rw [hstore]
    exact hroster
  · rw [hstore]
    exact hkept

/-- A transaction opened in `s` can be undone. -/
def Undoable (s t : Panel W Dig) : Prop := t.committed = some s.store ∧ Kept s.store t.child

/-- A transaction opened in `s` can be committed, and undone if a command may fail. -/
structure Granted (A : Reply → Prop) (s t : Panel W Dig) : Prop where
  saved : t.committed = some s.store
  clean : t.rollbackOnly = false
  roster : Roster t.store
  view : Kept t.store t.child
  undo : Failing A → Kept s.store t.child

theorem Kept.fewer {store next : PanelStore W} (h : Kept store child)
    (hmarker : next.rwReconcilePending=store.rwReconcilePending)
    (hfewer : next.revoked ⊆ store.revoked) : Kept next child :=
  fun hclear id hid => h (hmarker ▸ hclear) id (hfewer hid)

theorem Safe.meets (hm : Meets A m s Safe Safe fun _ => Safe) :
    Meets A m s Rostered Safe fun _ => Safe :=
  .weaken hm (fun _ ht => ht.1.rostered) fun _ ht => ht

section

variable (h : Safe s)

include h

theorem Undoable.safe (ht : Undoable s t) : Safe t.abandon :=
  safe_abandon ht.1 h.1.roster ht.2

/-- A transaction that grants access ends safely, committed or undone. -/
theorem grant_meets {body : PanelProg W Dig α}
    (hbody : Meets A body s.begin Rostered (Undoable s) fun _ t => Granted A s t) :
    Meets A (transaction body) s Rostered Safe fun _ => Safe := by
  refine transaction_meets h.2 hbody ?_ ?_ ?_ ?_ ?_
  · exact fun t ht => ht.safe h
  · intro _ t ht hpoisoned
    cases ht.clean.symm.trans hpoisoned
  · intro _ t ht
    refine ⟨ht.roster,fun saved hsaved => ?_⟩
    cases ht.saved.symm.trans hsaved
    exact h.1.roster
  · exact fun _ t ht hunwritten => Undoable.safe h ⟨ht.saved,ht.undo (.inr hunwritten)⟩
  · exact fun _ t ht _ => safe_of_kept rfl ht.roster ht.view

theorem Safe.begin : Rostered s.begin ∧ Undoable s s.begin := by
  refine ⟨⟨h.1.roster,fun saved hsaved => ?_⟩,rfl,h.1.view⟩
  cases hsaved
  exact h.1.roster

theorem refuse_meets (result : ApplyResult) : Meets A (refuse result) s K Safe fun _ => Safe := by
  match result with
  | .ok () => exact .pure h
  | .error e => exact .raise h

theorem xrayStop_meets : Meets A xrayStop s Rostered Safe fun _ => Safe := by
  refine Safe.meets (.bind (P := fun _ => Safe) (.mono
    (supervisorStop_meets held_settles h) (fun _ ht => ht) (fun _ ht => ht.1)
    fun _ _ ht => ht.1) ?_)
  intro stopped t ht
  refine .bind (netCall_meets ht fun _ => ht) ?_
  rintro note u ⟨rfl,-⟩
  cases note with
  | some e => exact .raise ht
  | none =>
    dsimp only
    split
    · exact .pure ht
    · exact .raise ht

end

variable [DecidableEq Dig] (hdig : Function.Injective host.digest) (h : Safe s)

include hdig h

/-- The re-apply of a grant. Whoever the database still counts as revoked is served before the
commit, which is only safe when nothing is started or no command fails. -/
theorem reapplyOr502_grants
    {store : PanelStore W} (hroster : Roster store) (hview : Kept store s.child)
    (hC : s.store.revoked ⊆ store.revoked ∨ resumed store=none ∨ ¬ Failing A) :
    Meets A (reapplyOr502 host) { s.begin with store := store } Rostered (Undoable s)
      fun _ t => Granted A s t := by
  have hstart : Upheld (s.store.revoked ⊆ store.revoked) { s.begin with store := store } := by
    refine ⟨hroster,fun saved hsaved => ?_,fun hC saved hsaved => ?_,hview,
      fun _ saved hsaved => ?_⟩
    · cases hsaved
      exact h.1.roster
    · cases hsaved
      exact hC
    · cases hsaved
      exact h.1.view
  by_cases hidle : resumed store=none
  · refine .bind (.mono (reapplyActiveNode_idle hstart hidle false)
      (fun _ ht => ht.rostered) ?_ fun _ _ ht => ht) ?_
    · exact fun t ht => ⟨ht.committed,fun hmarker => ht.child ▸ h.1.view hmarker⟩
    · rintro result t ⟨rfl,ht⟩
      exact .pure ⟨ht.committed,ht.clean,ht.upheld.roster,ht.upheld.view,
        fun _ hmarker => ht.child ▸ h.1.view hmarker⟩
  · have hundo {t : Panel W Dig} (ht : Held (s.store.revoked ⊆ store.revoked) (some s.store) t)
        (hreason : t.child=s.child ∨ Failing A) : Kept s.store t.child := by
      rcases hC with hsub | hnone | hsmooth
      · exact ht.1.base hsub s.store ht.2
      · exact absurd hnone hidle
      · rcases hreason with hchild | hfailed
        · rw [hchild]
          exact h.1.view
        · exact absurd hfailed hsmooth
    refine .bind (.mono (reapplyActiveNode_keeps hdig hstart false)
      (fun _ ht => ht.rostered) (fun t ht => ⟨ht.1.2,hundo ht.1 ht.2⟩) fun _ _ ht => ht) ?_
    intro result t ht
    match result with
    | none =>
      exact .pure ⟨ht.1.2,ht.2.2 rfl,ht.1.1.roster,ht.1.1.view, fun _ => hundo ht.1 (.inl ht.2.1)⟩
    | some (.ok ()) =>
      exact .pure ⟨ht.1.2,ht.2.2 rfl,ht.1.1.roster,ht.1.1.view,
        fun hfailed => hundo ht.1 (.inr hfailed)⟩
    | some (.error e) => exact .raise ⟨ht.1.2,hundo ht.1 ht.2⟩

/-- Access is given again where no failure can leave a revoked client served. -/
theorem resumeClient_meets (id : String) (hC : hasClient s.store id=true →
      id∉s.store.revoked ∨ resumed s.store=none ∨ ¬ Failing A) :
    Meets A (resumeClient host id) s Rostered Safe fun _ => Safe := by
  obtain ⟨hopen,hundo⟩ := Safe.begin h
  refine grant_meets h (.seq (readStore_meets hopen (fun _ => hundo) ?_))
  split
  next hknown =>
    refine .seq (writeStore_meets hopen (fun _ => hundo) ?_)
    refine reapplyOr502_grants hdig h (roster_resume h.1.roster)
      (Kept.fewer h.1.view rfl (filter_subset_self _)) ?_
    rcases hC hknown with hfresh | hrest
    · refine .inl fun other hother => mem_filter.mpr ⟨hother,?_⟩
      have hne : other≠id := fun heq => hfresh (heq ▸ hother)
      simpa using hne
    · exact .inr hrest
  · exact .raise hundo

theorem addRwClient_meets (id email : String) (hfresh : id∉s.store.revoked) :
    Meets A (addRwClient host id email) s Rostered Safe fun _ => Safe := by
  obtain ⟨hopen,hundo⟩ := Safe.begin h
  refine grant_meets h (.bind (P := fun _ t =>
      ∃ name, t = { s.begin with store := appendClient id name s.store }) ?_ ?_)
  · refine .seq (readStore_meets hopen (fun _ => hundo) ?_)
    cases clientIssue s.begin.store (PyText.stripText email) with
    | some issue => exact .raise hundo
    | none => exact writeStore_meets hopen (fun _ => hundo) ⟨_,rfl⟩
  · rintro - t ⟨name,rfl⟩
    refine reapplyOr502_grants hdig h (roster_append h.1.roster)
      (Kept.fewer h.1.view rfl (filter_subset_self _)) (.inl fun other hother => ?_)
    have hne : other≠id := fun heq => hfresh (heq ▸ hother)
    exact mem_filter.mpr ⟨hother,by simpa using hne⟩

theorem revokeClient_meets (id : String)
    {change : PanelStore W → PanelStore W} (hchange : Roster (change s.store)) :
    Meets A (revokeClient host id change) s Rostered Safe fun _ => Safe := by
  obtain ⟨hopen,hundo⟩ := Safe.begin h
  have hbase (saved : PanelStore W) (hsaved : some s.store=some saved) : Roster saved := by
    cases hsaved
    exact h.1.roster
  refine .bind (P := fun _ => Safe) (transaction_meets (X := Undoable s)
    (P := fun _ t => t = { s.begin with store := (change s.store).withPending true }) h.2
    (.seq (readStore_meets hopen (fun _ => hundo) ?_)) ?_ ?_ ?_ ?_ ?_) ?_
  · split
    · refine .seq (writeStore_meets hopen (fun _ => hundo) ?_)
      exact writeStore_meets ⟨hchange,hbase⟩ (fun _ => ⟨rfl,h.1.view⟩) rfl
    · exact .raise hundo
  · exact fun t ht => ht.safe h
  · rintro - t rfl hpoisoned
    cases hpoisoned
  · rintro - t rfl
    exact ⟨hchange,hbase⟩
  · rintro - t rfl -
    exact Undoable.safe h ⟨rfl,h.1.view⟩
  · rintro - t rfl -
    exact safe_of_kept rfl hchange nofun
  · intro _ t ht
    refine .bind (.weaken (rwRevoke_keeps hdig ht) (fun _ hu => hu.rostered) fun _ hu => hu) ?_
    exact fun _ _ hu => .pure hu

theorem putRw_meets (rest : W) : Meets A (putRw host rest) s Rostered Safe fun _ => Safe := by
  obtain ⟨hopen,hundo⟩ := Safe.begin h
  refine .bind (P := fun _ => Safe) (grant_meets h ?_) ?_
  · refine .seq (readStore_meets hopen (fun _ => hundo) ?_)
    refine .seq (writeStore_meets hopen (fun _ => hundo) ?_)
    split
    · refine .bind (P := fun _ t => Granted A s t)
        (writeStore_meets ⟨h.1.roster,hopen.base⟩ (fun _ => ⟨rfl,h.1.view⟩)
          ⟨rfl,rfl,h.1.roster,nofun,fun _ => h.1.view⟩) ?_
      exact fun _ _ ht => .pure ht
    · exact .bind (reapplyOr502_grants hdig h h.1.roster h.1.view
        (.inl fun _ hid => hid)) fun _ _ ht => .pure ht
  · intro narrows t ht
    split
    · refine .bind (.weaken (rwRevoke_keeps hdig ht) (fun _ hu => hu.rostered) fun _ hu => hu) ?_
      exact fun _ _ hu => .pure hu
    · exact .pure ht

theorem reapply_meets (irreversible : Bool) :
    Meets A (reapplyActiveNode host irreversible) s Rostered Safe fun _ => Safe := by
  refine .mono (reapplyActiveNode_keeps hdig h.1 irreversible)
    (fun _ ht => ht.rostered) (fun _ ht => ⟨ht.1.1,ht.1.2.trans h.2⟩) ?_
  intro result t ht
  match result with
  | none => exact ⟨ht.1.1,ht.1.2.trans h.2⟩
  | some (.ok ()) => exact ⟨ht.1.1,ht.1.2.trans h.2⟩
  | some (.error e) => exact ⟨ht.1.1,ht.1.2.trans h.2⟩

theorem connect_meets (id : ℕ) : Meets A (connect host id) s Rostered Safe fun _ => Safe := by
  refine .seq (readStore_meets h.1.rostered (fun _ => h) ?_)
  cases s.store.getNode id with
  | none => exact .raise h
  | some node =>
    refine .bind (P := fun _ => Safe) (.mono
      (applyNode_keeps hdig h.1 node false) (fun _ ht => ht.rostered)
      (fun _ ht => ⟨ht.1.1,ht.1.2.trans h.2⟩) fun _ _ ht => ⟨ht.1.1,ht.1.2.trans h.2⟩) ?_
    exact fun result t ht => refuse_meets ht result

theorem rollbackRoute_meets : Meets A (rollbackRoute host) s Rostered Safe fun _ => Safe := by
  refine .read_bind ?_
  cases htgt : rollbackTarget host.digest s.disk with
  | none => exact .pure h
  | some candidate =>
    refine .bind (P := fun _ => Safe) (Safe.meets (.mono
      (rwGuardPromotion_meets htgt) (fun _ ht => h.onlyDisk ht)
      (fun _ ht => h.onlyDisk ht.1) fun _ _ ht => h.onlyDisk ht)) ?_
    intro _ t ht
    refine .bind (P := fun _ => Safe) (readStore_meets ht.1.rostered (fun _ => ht) ht) ?_
    intro store u hu
    refine .bind (P := fun _ => Safe) ?_ ?_
    · unfold rollbackRuntime
      split
      · exact Safe.meets (.mono (rollbackOntoPrevious_meets (startable_held hdig) hu)
          (fun _ hv => hv) (fun _ hv => hv.1) fun _ _ hv => hv)
      · exact Safe.meets (.mono (rollbackOntoNothing_meets held_settles hu)
          (fun _ hv => hv) (fun _ hv => hv.1) fun _ _ hv => hv)
    intro _ v hv
    refine .bind (P := fun _ => Safe) (.mono (transaction_neutral hv.1
      fun w => ?_) (fun _ hx => hx.rostered) (fun _ hx => ⟨hx.1,hx.2.1.trans hv.2⟩)
      fun _ _ hx => ⟨hx.1,hx.2.1.trans hv.2⟩) fun _ _ hx => .pure hx
    refine .bind (writeStore_neutral (fun _ => ⟨rfl,rfl,rfl⟩) (onlyStore_refl w)) fun _ x hx => ?_
    exact writeStore_neutral (fun _ => ⟨rfl,rfl,rfl⟩) hx

theorem supervisorStart_safe : Meets A (supervisorStart host) s Safe Safe fun _ => Safe :=
  .mono (supervisorStart_meets (startable_held hdig) h) (fun _ ht => ht)
    (fun _ ht => ht.elim) fun _ _ ht => ht.1

theorem xrayStart_meets : Meets A (xrayStart host) s Rostered Safe fun _ => Safe := by
  refine .bind (reapply_meets hdig h false) ?_
  intro result t ht
  cases result with
  | some result => exact refuse_meets ht result
  | none =>
    have hall : GuardWrites host t.store fun _ : Disk Config Dig => True :=
      ⟨fun _ _ => trivial,fun _ _ _ _ => trivial,fun _ _ _ _ _ _ => trivial⟩
    refine Safe.meets (.bind (P := fun _ => Safe) (.bind (P := fun _ => Safe)
      (.mono (rwReconcileBeforeServing_meets hall trivial) (fun _ hu => ht.onlyDisk hu)
        (fun _ hu => ht.onlyDisk hu) fun _ _ hu => ht.onlyDisk hu.1) ?_) ?_)
    · intro ok u hu
      split
      · exact .pure hu
      · exact .raise hu
    · exact fun _ u hu => supervisorStart_safe hdig hu

theorem watchdog_meets : Meets A (watchdog host) s Rostered Safe fun _ => Safe := by
  refine Safe.meets (.bind (poll_meets held_settles h) ?_)
  rintro running t ⟨ht,-,-⟩
  split
  · exact .pure ht
  · refine .read_bind ?_
    split
    · exact supervisorStart_safe hdig ht
    · exact .pure ht

theorem boot_meets : Meets A (boot host) s Rostered Safe fun _ => Safe := by
  refine .update_bind (.bind (P := fun _ => Safe)
    (Safe.meets (rwReconcilePending_keeps hdig h.1.rostered.crash)) ?_)
  intro _ t ht
  exact .bind (reapply_meets hdig ht false) fun _ _ hu => .pure hu

end Operations

section Runs

/-- An operation that upholds the invariant wherever it ends leaves a safe panel. -/
theorem perform_safe {replies : List Reply}
    (hm : Meets A m s Rostered Safe fun _ => Safe) (hA : ∀ reply∈replies, A reply) :
    Safe (perform m replies s) := by
  exact perform_meets hm hA fun _ hend => hend.crash

/-- The operations that grant, revoke or serve remote access. -/
inductive Event (W : Type) where
  | suspend (id : String)
  | resume (id : String)
  | remove (id : String)
  /-- A new client under the id the panel drew for it. -/
  | enroll (id email : String)
  /-- A save of the road-warrior settings, narrowing or widening. -/
  | save (rest : W)
  | connect (id : ℕ)
  | rollback
  | start
  | stop
  | watchdog
  | reconcile
  | boot

variable [DecidableEq Dig]

/-- The program behind an event, its result forgotten. -/
def Event.program (host : Host W Dig) : Event W → PanelProg W Dig Unit
  | .suspend id => suspendClient host id
  | .resume id => resumeClient host id
  | .remove id => deleteRwClient host id
  | .enroll id email => addRwClient host id email
  | .save rest => putRw host rest
  | .connect id => GatewayPanel.connect host id
  | .rollback => do let _ ← rollbackRoute host
  | .start => xrayStart host
  | .stop => xrayStop
  | .watchdog => RemoteAccessRevocation.watchdog host
  | .reconcile => do let _ ← rwReconcilePending host
  | .boot => RemoteAccessRevocation.boot host

/-- One operation with the answers it gets. -/
def step (host : Host W Dig) (s : Panel W Dig) (event : Event W × List Reply) : Panel W Dig :=
  perform (event.1.program host) event.2 s

/-- A revoked client that is still listed is given access again without a failure, or while nothing
would be restarted; a new client gets an id that was never revoked. -/
def Covered (s : Panel W Dig) (event : Event W × List Reply) : Prop :=
  match event.1 with
  | .resume id => hasClient s.store id = true → id ∉ s.store.revoked ∨ resumed s.store = none ∨
      ∀ reply ∈ event.2, reply.took = true ∧ reply.said = true
  | .enroll id _ => id ∉ s.store.revoked
  | _ => True

/-- Every operation keeps the revoked out. -/
theorem step_safe (hdig : Function.Injective host.digest) (s : Panel W Dig)
    (event : Event W × List Reply) (hcovered : Covered s event) (h : Safe s) :
    Safe (step host s event) := by
  obtain ⟨operation,replies⟩ := event
  have hany : ∀ reply∈replies, (fun _ : Reply => True) reply := fun _ _ => trivial
  cases operation with
  | suspend id =>
    exact perform_safe (revokeClient_meets hdig h id (roster_suspend h.1.roster)) hany
  | resume id =>
    by_cases hharmless : hasClient s.store id=true → id∉s.store.revoked ∨ resumed s.store=none
    · exact perform_safe (resumeClient_meets hdig h id fun hknown =>
        (hharmless hknown).imp_right .inl) hany
    · obtain ⟨hknown,hbad⟩ := Classical.not_imp.mp hharmless
      have hgood := (or_assoc.mpr (hcovered hknown)).resolve_left hbad
      refine perform_safe (A := fun reply => reply.took=true ∧ reply.said=true)
        (resumeClient_meets hdig h id fun _ => .inr (.inr ?_)) hgood
      rintro (⟨reply,⟨-,hsaid⟩,hfalse⟩ | ⟨reply,⟨htook,-⟩,hfalse⟩)
      · cases hsaid.symm.trans hfalse
      · cases htook.symm.trans hfalse
  | remove id =>
    exact perform_safe (revokeClient_meets hdig h id (roster_delete h.1.roster)) hany
  | enroll id email => exact perform_safe (addRwClient_meets hdig h id email hcovered) hany
  | save rest => exact perform_safe (putRw_meets hdig h rest) hany
  | connect id => exact perform_safe (connect_meets hdig h id) hany
  | rollback =>
    exact perform_safe (.bind (rollbackRoute_meets hdig h) fun _ _ ht => .pure ht) hany
  | start => exact perform_safe (xrayStart_meets hdig h) hany
  | stop => exact perform_safe (xrayStop_meets h) hany
  | watchdog => exact perform_safe (watchdog_meets hdig h) hany
  | reconcile =>
    exact perform_safe (.bind (Safe.meets (rwReconcilePending_keeps hdig h))
      fun _ _ ht => .pure ht) hany
  | boot => exact perform_safe (boot_meets hdig h) hany

/-- From a panel without a running xray and without revocations, after every run of covered
operations: while the marker is clear, no running xray accepts a revoked client. -/
theorem revoked_clients_are_refused (hdig : Function.Injective host.digest)
    {events : List (Event W × List Reply)} (hclosed : s.committed = none) (hdown : s.child = none)
    (hnobody : s.store.revoked = []) (hcovered : EveryStep (step host) Covered s events) :
    Kept (run (step host) s events).store (run (step host) s events).child := by
  have hroster : Roster s.store := by
    intro c _ _
    rw [hnobody]
    exact not_mem_nil
  have hstart : Safe s := safe_of_kept hclosed hroster fun _ => hdown ▸ refused_none _
  have hend : Safe (run (step host) s events) :=
    run_keeps_of (I := Safe) (step_safe hdig) hcovered hstart
  exact hend.1.view

end Runs

section Samples

open RoutingPriority

/-- One client's id. -/
def phone : String := "11111111-1111-4111-8111-111111111111"

/-- A panel with one node and one client. -/
def samplePanel : Panel Unit Config :=
  freshPanel ⟨[sampleNode], none, none, none, false, [⟨phone, "phone", true⟩], (), []⟩

/-- An operation whose every command succeeds. -/
def smoothly (operation : Event Unit) : Event Unit × List Reply :=
  (operation, List.replicate 60 Reply.good)

theorem serves_of_any {id : String}
    (h : (child.any fun cfg => Grant.client id∈liveGrants cfg)=true) : Serves child id := by
  cases child with
  | none => cases h
  | some cfg => exact ⟨cfg,rfl,by simpa using h⟩

/-- Connect, suspend the client, then give it access again with a commit that fails: the store
counts the client as suspended and the marker is clear, while the running xray accepts it. -/
theorem failed_resume_serves_suspended_client :
    let s := run (step accessHost) samplePanel [smoothly (.connect 1), smoothly (.suspend phone),
       (.resume phone, List.replicate 21 Reply.good ++ [Reply.bad])]
    s.store.rwReconcilePending = false ∧ phone ∈ s.store.revoked ∧ Serves s.child phone := by
  intro s
  have hmarker : s.store.rwReconcilePending=false := by decide +kernel
  have hrevoked : phone∈s.store.revoked := by decide +kernel
  have hserved : (s.child.any fun cfg => Grant.client phone∈liveGrants cfg)=true := by
    decide +kernel
  exact ⟨hmarker,hrevoked,serves_of_any hserved⟩

/-- A client suspended, given access again and suspended once more is refused by the xray that
still runs. -/
theorem revoked_clients_are_refused_sample :
    let s := run (step accessHost) samplePanel
      [smoothly (.connect 1), smoothly (.suspend phone), smoothly (.resume phone),
       smoothly (.suspend phone)]
    s.store.rwReconcilePending = false ∧ phone ∈ s.store.revoked ∧ s.child ≠ none ∧
      Kept s.store s.child := by
  intro s
  have hgood : ∀ reply∈(smoothly (.resume phone)).2, reply.took=true ∧ reply.said=true := by
    intro reply h
    obtain rfl := eq_of_mem_replicate h
    exact ⟨rfl,rfl⟩
  have hmarker : s.store.rwReconcilePending=false := by decide +kernel
  have hrevoked : phone∈s.store.revoked := by decide +kernel
  have hrunning : s.child≠none := by decide +kernel
  exact ⟨hmarker,hrevoked,hrunning,revoked_clients_are_refused Function.injective_id rfl rfl rfl
    ⟨trivial,trivial,fun _ => .inr (.inr hgood),trivial,trivial⟩⟩

end Samples

end PiGwPanel.RemoteAccessRevocation
