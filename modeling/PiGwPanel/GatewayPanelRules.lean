import PiGwPanel.GatewayPanel

/-!
# What each panel program can do

One specification per program, for an arbitrary class of replies. A program that
raises or refuses names the kind of reply that made it do so: a write that did
not happen, or an answer of xray or of the network that was not a success. A
class of replies without such a reply is one under which the program goes
through, so the same specification serves runs with failures and runs without.
-/

namespace PiGwPanel.GatewayPanel

open AnsweredProgram ConfigBuilder ConfigManager Prog

variable {W Dig α : Type} {A : Reply → Prop} {s : Panel W Dig}
variable {K E I : Panel W Dig → Prop}

/-- Some reply of the class is a write that did not happen. -/
def Unwritten (A : Reply → Prop) : Prop := ∃ reply, A reply ∧ reply.took = false

/-- Some reply of the class is not a success. -/
def Faulty (A : Reply → Prop) : Prop := ∃ reply, A reply ∧ reply.said = false

/-- A file may stay where it was to be removed. -/
def Stuck (A : Reply → Prop) : Prop := ∃ reply, A reply ∧ reply.gone = false

/-- An operation and the crash that may end it, as one step. -/
theorem perform_meets {m : PanelProg W Dig α} {replies : List Reply}
    (hm : Meets A m s K I fun _ => I) (hA : ∀ reply∈replies, A reply)
    (hcrash : ∀ {t}, (m replies s).outcome = .killed → K t → I t.crash) :
    I (perform m replies s) := by
  have hend := (hm replies hA).2
  unfold perform
  split at hend
  next hdone => simpa only [hdone] using hend
  next hraised => simpa only [hraised] using hend
  next hkilled => simpa only [hkilled] using hcrash hkilled hend

section Store

theorem readStore_meets {Q : PanelStore W → Panel W Dig → Prop} (hK : K s) (hE : Faulty A → E s)
    (hQ : Q s.store s) : Meets A readStore s K E Q := by
  refine .ask_bind hK fun reply hreply => ?_
  split
  · exact .read_bind (.pure hQ)
  · next hsaid => exact .raise (hE ⟨reply,hreply,by simpa using hsaid⟩)

variable {body : PanelProg W Dig α} {X : Panel W Dig → Prop} {T : PanelStore W → Prop}
variable {Q : α → Panel W Dig → Prop} {change : PanelStore W → PanelStore W}

theorem writeStore_meets {Q : Unit → Panel W Dig → Prop} (hK : K s) (hE : Unwritten A → E s)
    (hQ : Q () { s with store := change s.store }) : Meets A (writeStore change) s K E Q := by
  refine .ask_bind hK fun reply hreply => ?_
  split
  · exact .update hQ
  · next htook => exact .raise (hE ⟨reply,hreply,by simpa using htook⟩)

/-- Only the store changed, and it is in `T`. -/
def OnlyStore (T : PanelStore W → Prop) (s t : Panel W Dig) : Prop :=
  ∃ store, T store ∧ t = { s with store := store }

/-- A write inside `T` keeps the store there, and stops only when it does not happen. -/
theorem writeStore_onlyStore {t : Panel W Dig} (ht : OnlyStore T s t) (hchange : T (change t.store)) :
    Meets A (writeStore change) t (OnlyStore T s) (fun u => OnlyStore T s u ∧ Unwritten A)
      fun _ u => OnlyStore T s u ∧ u.store=change t.store := by
  refine writeStore_meets ht (fun h => ⟨ht,h⟩) ⟨?_,rfl⟩
  obtain ⟨store,-,rfl⟩ := ht
  exact ⟨change store,hchange,rfl⟩

/-- The outermost block: its writes take effect together or not at all. -/
theorem transaction_meets {P : α → Panel W Dig → Prop} (hnone : s.committed=none)
    (hbody : Meets A body s.begin K X P) (hraise : ∀ t, X t → E t.abandon)
    (hpoison : ∀ value t, P value t → t.rollbackOnly=true → E t.abandon)
    (hkilled : ∀ value t, P value t → K t)
    (hdenied : ∀ value t, P value t → Unwritten A → E t.abandon)
    (hcommit : ∀ value t, P value t → t.rollbackOnly=false → Q value t.commit) :
    Meets A (transaction body) s K E Q := by
  refine .read_bind ?_
  rw [hnone]
  refine .update_bind (.seq (.attempt hbody (fun value t ht => .read_bind ?_)
    fun _ t ht => .update_bind (.raise (hraise t ht))))
  split
  · next hpoisoned => exact .update_bind (.raise (hpoison value t ht hpoisoned))
  · next hclean =>
    refine .ask_bind (hkilled value t ht) fun reply hreply => ?_
    split
    · exact .update_bind (.pure (hcommit value t ht (by simpa using hclean)))
    · next htook =>
      refine .update_bind (.raise (hdenied value t ht ?_))
      exact ⟨reply,hreply,by simpa using htook⟩

/-- An outermost block that writes the store and nothing else. -/
theorem transaction_onlyStore {U : α → PanelStore W → Prop} (hnone : s.committed=none)
    (hbody : Meets A body s.begin (OnlyStore T s.begin)
      (fun t => OnlyStore T s.begin t ∧ Unwritten A)
      fun value t => OnlyStore T s.begin t ∧ U value t.store) :
    Meets A (transaction body) s (OnlyStore T s.begin)
      (fun t => t = { s with rollbackOnly := false } ∧ Unwritten A)
      fun value t => U value t.store ∧ OnlyStore T { s with rollbackOnly := false } t := by
  have hundone {t : Panel W Dig} (ht : OnlyStore T s.begin t) :
      t.abandon = { s with rollbackOnly := false } := by
    obtain ⟨store,-,rfl⟩ := ht
    simp [Panel.abandon,Panel.begin,hnone]
  refine transaction_meets hnone hbody ?_ ?_ ?_ ?_ ?_
  · exact fun t ht => ⟨hundone ht.1,ht.2⟩
  · rintro value t ⟨⟨store,-,rfl⟩,-⟩ hpoisoned
    cases hpoisoned
  · exact fun _ _ ht => ht.1
  · exact fun _ t ht hunwritten => ⟨hundone ht.1,hunwritten⟩
  · rintro value t ⟨⟨store,hstore,rfl⟩,hU⟩ -
    refine ⟨hU,store,hstore,?_⟩
    simp [Panel.commit,Panel.begin,hnone]

theorem transaction_nested_meets {saved : PanelStore W} (hsaved : s.committed=some saved)
    (hbody : Meets A body s K X Q) (hraise : ∀ t, X t → E t.poison) :
    Meets A (transaction body) s K E Q := by
  refine .read_bind ?_
  rw [hsaved]
  exact .seq (.attempt hbody (fun _ _ ht => .pure ht) fun _ t ht => .update_bind (.raise (hraise t ht)))

theorem rwClearReconcilePending_meets (hs : I s)
    (hcleared : I { s with store := s.store.withPending false }) :
    Meets A rwClearReconcilePending s I E fun _ t => I t := by
  refine .seq (.attempt (X := I) (P := fun _ t => I t)
    (writeStore_meets hs (fun _ => hs) hcleared) (fun _ t ht => ?_) fun _ _ ht => .pure ht)
  exact .seq (.attempt (X := I) (P := fun _ t => I t) (readStore_meets ht (fun _ => ht) ht)
    (fun _ _ ht => .pure ht) fun _ _ ht => .pure ht)

theorem rwReconcileIsPending_meets (hs : K s) : Meets A rwReconcileIsPending s K E fun pending t =>
      t=s ∧ (pending=true → s.store.rwReconcilePending=true) := by
  refine .seq (.attempt (X := fun t => t=s) (P := fun store t => t=s ∧ store=s.store)
    (readStore_meets hs (fun _ => rfl) ⟨rfl,rfl⟩) ?_ fun _ _ ht => .pure ⟨ht,nofun⟩)
  rintro store t ⟨rfl,rfl⟩
  exact .pure ⟨rfl,fun h => h⟩

/-- A completed apply may drop the marker; nothing else changes and nothing is raised. -/
theorem rwCompletePending_meets (hs : I s)
    (hcleared : I { s with store := s.store.withPending false }) :
    Meets A rwCompletePending s I E fun _ t => I t := by
  refine .bind (rwReconcileIsPending_meets hs) ?_
  rintro pending t ⟨rfl,-⟩
  split
  · exact .bind (rwClearReconcilePending_meets hs hcleared) fun _ _ ht => .pure ht
  · exact .pure hs

/-- The node `_pending_or_active` settles on. -/
def resumed (store : PanelStore W) : Option ℕ :=
  match store.pendingActiveNodeId with
  | none => store.activeNodeId
  | some pending =>
    if store.activeNodeId = some pending then store.activeNodeId
    else if (store.getNode pending).isSome then some pending
    else store.activeNodeId

theorem getNode_of_resumed {store : PanelStore W} {id : ℕ} (h : resumed store=some id)
    (hact : store.activeNodeId≠some id) : (store.getNode id).isSome := by
  unfold resumed at h
  split at h
  · exact absurd h hact
  · split at h
    · exact absurd h hact
    · split at h
      · next hsome => exact Option.some.inj h ▸ hsome
      · exact absurd h hact

theorem pendingOrActive_meets (hs : I s)
    (hcleared : I { s with store := s.store.withPendingNode none }) :
    Meets A pendingOrActive s I I fun id t => I t ∧ id=resumed s.store := by
  refine .seq (readStore_meets hs (fun _ => hs) ?_)
  unfold resumed
  cases s.store.pendingActiveNodeId with
  | none => exact .pure ⟨hs,rfl⟩
  | some pending =>
    dsimp only
    split
    · exact .pure ⟨hs,rfl⟩
    · split
      · exact .pure ⟨hs,rfl⟩
      · refine .bind (P := fun _ t => I t) (writeStore_meets hs (fun _ => hs) hcleared) ?_
        exact fun _ _ ht => .pure ⟨ht,rfl⟩

end Store

section Process

/-- The property does not depend on what the supervisor wants and survives the end of xray. -/
structure Settles (I : Panel W Dig → Prop) : Prop where
  want : ∀ s want, I s → I { s with wantRunning := want }
  down : ∀ s, I s → I { s with child := none }

theorem netCall_meets (hK : K s) (hE : Faulty A → E s) :
    Meets A netCall s K E fun note t => t=s ∧ (note.isSome → Faulty A) := by
  refine .ask_bind hK fun reply hreply => ?_
  split
  · exact .pure ⟨rfl,nofun⟩
  · next hsaid =>
    have hfault : Faulty A := ⟨reply,hreply,by simpa using hsaid⟩
    split
    · exact .raise (hE hfault)
    · exact .pure ⟨rfl,fun _ => hfault⟩

variable (hI : Settles I)

include hI

variable (hs : I s)

include hs

/-- A child reported as not running is gone, and there was one that is reported as running. -/
theorem poll_meets : Meets A poll s I E fun running t =>
      I t ∧ (running=false → t.child=none) ∧ (running=true → t=s ∧ s.child≠none) := by
  refine .read_bind ?_
  cases hchild : s.child with
  | none => exact .pure ⟨hs,fun _ => hchild,nofun⟩
  | some cfg =>
    refine .ask_bind hs fun reply _ => ?_
    split
    · exact .pure ⟨hs,nofun,fun _ => ⟨rfl,by simp⟩⟩
    · exact .update_bind (.pure ⟨hI.down s hs,fun _ => rfl,nofun⟩)

theorem stopChild_meets : Meets A stopChild s I (fun t => I t ∧ Faulty A) fun stopped t =>
      I t ∧ (stopped=true → t.child=none) ∧ (stopped=false → Faulty A) := by
  refine .bind (poll_meets hI hs) ?_
  rintro running t ⟨ht,hdown,-⟩
  split
  · refine .ask_bind ht fun reply hreply => ?_
    split
    · exact .update_bind (.pure ⟨hI.down t ht,fun _ => rfl,nofun⟩)
    · next hsaid =>
      have hfault : Faulty A := ⟨reply,hreply,by simpa using hsaid⟩
      split
      · exact .pure ⟨ht,nofun,fun _ => hfault⟩
      · exact .raise ⟨ht,hfault⟩
  · next hrunning =>
    exact .pure ⟨ht,fun _ => hdown (by simpa using hrunning),nofun⟩

theorem supervisorStop_meets : Meets A supervisorStop s I (fun t => I t ∧ Faulty A) fun stopped t =>
      I t ∧ (stopped=true → t.child=none) ∧ (stopped=false → Faulty A) :=
  .update_bind (stopChild_meets hI (hI.want s false hs))

/-- A bounded stop never raises, and a note means that something failed. -/
theorem boundedStop_meets : Meets A boundedStop s I E fun note t =>
      I t ∧ (note.isSome → Faulty A) := by
  refine .seq (.attempt (supervisorStop_meets hI hs) ?_ fun _ _ ht => .pure ⟨ht.1,fun _ => ht.2⟩)
  rintro stopped t ⟨ht,-,hfault⟩
  cases stopped with
  | false => exact .pure ⟨ht,fun _ => hfault rfl⟩
  | true => exact .pure ⟨ht,nofun⟩

/-- The end of a failed apply touches the process only, and raises only with the network. -/
theorem failClosed_meets : Meets A failClosed s I I fun _ t => I t := by
  refine .bind (P := fun _ t => I t)
    (.attempt (supervisorStop_meets hI hs) (fun _ _ h => h.1) fun _ _ h => h.1) ?_
  intro stopped t ht
  refine .bind (netCall_meets ht fun _ => ht) ?_
  rintro note u ⟨rfl,-⟩
  cases note with
  | none => exact .pure ht
  | some e => exact .pure ht

theorem waitReady_meets : Meets A waitReady s I (fun t => I t ∧ Faulty A) fun ready t =>
      I t ∧ (ready=true → t=s ∧ s.child≠none) ∧ (ready=false → s.child=none ∨ Faulty A) := by
  refine .read_bind ?_
  cases hchild : s.child with
  | none => exact .pure ⟨hs,nofun,fun _ => .inl rfl⟩
  | some cfg =>
    refine .ask_bind hs fun reply hreply => ?_
    split
    · exact .pure ⟨hs,fun _ => ⟨rfl,by simp⟩, nofun⟩
    · next hsaid =>
      have hfault : Faulty A := ⟨reply,hreply,by simpa using hsaid⟩
      refine .bind (stopChild_meets hI hs) ?_
      rintro stopped t ⟨ht,-,-⟩
      exact .pure ⟨ht,nofun,fun _ => .inr hfault⟩

theorem rollbackOntoNothing_meets :
    Meets A rollbackOntoNothing s I (fun t => I t ∧ Faulty A) fun _ t => I t := by
  refine .bind (boundedStop_meets hI hs) ?_
  rintro stop t ⟨ht,hstop⟩
  refine .bind (netCall_meets ht fun hfault => ⟨ht,hfault⟩) ?_
  rintro note u ⟨rfl,hfault⟩
  cases note with
  | some e =>
    refine .bind (netCall_meets ht fun hfault => ⟨ht,hfault⟩) ?_
    rintro guard v ⟨rfl,-⟩
    exact .raise ⟨ht,hfault rfl⟩
  | none =>
    cases stop with
    | none => exact .pure ht
    | some detail => exact .raise ⟨ht,hstop rfl⟩

end Process

section Files

variable {d : Disk Config Dig} {D : Disk Config Dig → Prop} {K E : Disk Config Dig → Prop}

theorem writeAtomic_meets {replace : Disk Config Dig → Disk Config Dig}
    {Q : Bool → Disk Config Dig → Prop} (hK : K d)
    (hE : Unwritten A → E d) (hQ : ∀ durable, (durable=false → Faulty A) →
      Q durable (replace d)) : Meets A (writeAtomic replace) d K E Q := by
  refine .ask_bind hK fun reply hreply => ?_
  split
  · refine .update_bind (.pure (hQ _ fun hsaid => ?_))
    exact ⟨reply,hreply,hsaid⟩
  · next htook => exact .raise (hE ⟨reply,hreply,by simpa using htook⟩)

theorem validateConfig_meets (hK : K d) (hE : Unwritten A → E d) :
    Meets A validateConfig d K E fun verdict t => t=d ∧ (verdict.1=false → Faulty A) := by
  refine .ask_bind hK fun reply hreply => ?_
  split
  · exact .pure ⟨rfl,fun hsaid => ⟨reply,hreply,hsaid⟩⟩
  · next htook => exact .raise (hE ⟨reply,hreply,by simpa using htook⟩)

/-- The files an irreversible write of `cfg` passes through. -/
def neutralised (d : Disk Config Dig) : Disk Config Dig := d.withMarker (some .invalidated)

/-- A durable invalidation neutralises the marker; any other one leaves it or not. -/
theorem invalidateProvenanceDurably_meets {E : Disk Config Dig → Prop} (hd : D d)
    (hneutral : D (neutralised d)) : Meets A invalidateProvenanceDurably d D E fun durable t =>
      (durable=true → t=neutralised d) ∧ D t ∧ t.live=d.live ∧
        (durable=false → Faulty A ∨ Unwritten A) := by
  refine .seq (.attempt (X := fun t => t=d ∧ Unwritten A)
    (P := fun durable t => t=neutralised d ∧ (durable=false → Faulty A))
    (writeAtomic_meets hd (fun h => ⟨rfl,h⟩) fun durable h => ⟨rfl,h⟩) ?_ ?_)
  · rintro durable t ⟨rfl,hfault⟩
    exact .pure ⟨fun _ => rfl,hneutral,rfl,fun h => .inl (hfault h)⟩
  · rintro e t ⟨rfl,hunwritten⟩
    exact .pure ⟨nofun,hd,rfl,fun _ => .inr hunwritten⟩

variable {cfg : Config} {digest : Config → Dig}

/-- An irreversible write neutralises the marker, then replaces the live config, or stops on
the way. -/
theorem applyIrreversible_meets (hd : D d) (hneutral : D (neutralised d))
    (hlive : D ((neutralised d).withLive .irreversible cfg)) :
    Meets A (applyIrreversible cfg) d D (fun t => D t ∧ t.live=d.live ∧ Unwritten A)
      fun result t => D t ∧ (result.1=true → t=(neutralised d).withLive .irreversible cfg) ∧
        (result.1=false → t.live=d.live ∧ (Faulty A ∨ Unwritten A)) := by
  refine .bind (validateConfig_meets hd fun h => ⟨hd,rfl,h⟩) ?_
  rintro ⟨ok,out⟩ t ⟨ht,hverdict⟩
  obtain rfl : d=t := ht.symm
  dsimp only at hverdict ⊢
  split
  · next hok =>
    have hfault : Faulty A := hverdict (by simpa using hok)
    exact .pure ⟨hd,nofun,fun _ => ⟨rfl,.inl hfault⟩⟩
  · refine .bind (invalidateProvenanceDurably_meets hd hneutral) ?_
    rintro durable t ⟨hstate,ht,hsame,hfault⟩
    cases durable with
    | false => exact .pure ⟨ht,nofun,fun _ => ⟨hsame,hfault rfl⟩⟩
    | true =>
      rw [hstate rfl]
      refine .bind (P := fun _ t => t=(neutralised d).withLive .irreversible cfg)
        (writeAtomic_meets hneutral (fun h => ⟨hneutral,rfl,h⟩) fun _ _ => rfl) ?_
      rintro _ t rfl
      exact .pure ⟨hlive,fun _ => rfl,nofun⟩

/-- Dropping the pairing happens, or leaves everything alone where a removal may fail. -/
theorem invalidateProvenance_meets (hK : K d) :
    Meets A invalidateProvenance d K E fun _ t => t=d.withMarker none ∨ t=d ∧ Stuck A := by
  refine .ask_bind hK fun reply hreply => ?_
  split
  · exact .update (.inl rfl)
  · next hgone => exact .pure (.inr ⟨rfl,reply,hreply,by simpa using hgone⟩)

variable [DecidableEq Dig]

/-- What an apply over `before` leaves to roll back to: nothing but the config it replaced, and
that one unless it could not be read. -/
structure Filed (A : Reply → Prop) (digest : Config → Dig) (before : FileText Config)
    (t : Disk Config Dig) : Prop where
  target : ∀ cfg, rollbackTarget digest t = some cfg → before = .holds cfg ∨ Stuck A
  held : ∀ cfg, before = .holds cfg → rollbackTarget digest t = some cfg ∨ Unwritten A

variable {before : FileText Config} {t : Disk Config Dig}

theorem filed_of_dropped (ht : t=d.withMarker none ∨ t=d ∧ Stuck A)
    (hread : ∀ cfg, before = .holds cfg → Unwritten A) :
    Filed A digest before (t.withLive .apply cfg) where
  target other hother := by
    rcases ht with rfl | ⟨-,hstuck⟩
    · simp [rollbackTarget,Disk.withLive,Disk.withMarker] at hother
    · exact .inr hstuck
  held other hother := .inr (hread other hother)

/-- The snapshot leaves the live config alone and files it as the rollback target of `cfg`. -/
theorem snapshotLive_meets : Meets A (snapshotLive digest cfg) d (fun t => t.live=d.live)
      (fun t => t.live=d.live ∧ t.history=d.history ∧ Unwritten A) fun _ t =>
        t.live=d.live ∧ t.history=d.history ∧ Filed A digest d.live (t.withLive .apply cfg) := by
  have hdrop (hread : ∀ cfg, d.live = .holds cfg → Unwritten A) :
      Meets A invalidateProvenance d (fun t => t.live=d.live)
        (fun t => t.live=d.live ∧ t.history=d.history ∧ Unwritten A) fun _ t =>
          t.live=d.live ∧ t.history=d.history ∧ Filed A digest d.live (t.withLive .apply cfg) := by
    refine .value (invalidateProvenance_meets rfl) fun _ t ht => ?_
    have hfiled : Filed A digest d.live (t.withLive .apply cfg) := filed_of_dropped ht hread
    rcases ht with rfl | ⟨rfl,-⟩
    · exact ⟨rfl,rfl,hfiled⟩
    · exact ⟨rfl,rfl,hfiled⟩
  refine .read_bind ?_
  cases hlive : d.live with
  | absent =>
    rw [hlive] at hdrop
    exact hdrop nofun
  | damaged =>
    rw [hlive] at hdrop
    exact hdrop nofun
  | holds previous =>
    refine .ask_bind hlive fun reply hreply => ?_
    split
    · refine .bind (P := fun _ t => t=d.withLastgood previous)
        (writeAtomic_meets hlive (fun h => ⟨hlive,rfl,h⟩) fun _ _ => rfl) ?_
      rintro - t rfl
      refine .bind (P := fun _ t => t=(d.withLastgood previous).withMarker
        (some (.pairing (digest previous) (digest cfg))))
        (writeAtomic_meets hlive (fun h => ⟨hlive,rfl,h⟩) fun _ _ => rfl) ?_
      rintro - t rfl
      have htgt : rollbackTarget digest (((d.withLastgood previous).withMarker
          (some (.pairing (digest previous) (digest cfg)))).withLive .apply cfg)=some previous := by
        simp [rollbackTarget,Disk.withLive,Disk.withMarker,Disk.withLastgood]
      refine .pure ⟨hlive,rfl,⟨fun other h => .inl ?_,fun other h => .inl ?_⟩⟩
      · rw [htgt] at h
        exact congrArg _ (Option.some.inj h)
      · exact htgt.trans (congrArg _ (FileText.holds.inj h))
    · next htook =>
      rw [hlive] at hdrop
      exact hdrop fun _ _ => ⟨reply,hreply,by simpa using htook⟩

/-- An apply leaves the live config alone or replaces it by `cfg`, and then the config it
replaced can be rolled back to. -/
theorem apply_meets : Meets A (ConfigManager.apply digest cfg) d (fun t => t.live=d.live)
      (fun t => t.live=d.live ∧ t.history=d.history ∧ Unwritten A) fun result t =>
        (result.1=false → t=d ∧ Faulty A) ∧
          (result.1=true → t.live = .holds cfg ∧ Filed A digest d.live t) := by
  refine .bind (validateConfig_meets rfl fun h => ⟨rfl,rfl,h⟩) ?_
  rintro ⟨ok,out⟩ t ⟨ht,hverdict⟩
  obtain rfl : d=t := ht.symm
  dsimp only at hverdict ⊢
  split
  · next hok =>
    exact .pure ⟨fun _ => ⟨rfl,hverdict (by simpa using hok)⟩, nofun⟩
  · refine .bind snapshotLive_meets ?_
    rintro - t ⟨hsame,hhistory,hfiled⟩
    refine .bind (P := fun _ u => u=t.withLive .apply cfg)
      (writeAtomic_meets hsame (fun h => ⟨hsame,hhistory,h⟩) fun _ _ => rfl) ?_
    rintro - u rfl
    exact .pure ⟨nofun,fun _ => ⟨rfl,hfiled⟩⟩

/-- A rollback promotes the rollback target, or leaves the live config alone. -/
theorem rollback_meets : Meets A (ConfigManager.rollback digest) d
      (fun t => t.live=d.live ∨ ∃ cfg, rollbackTarget digest d=some cfg ∧ t.live = .holds cfg)
      (fun t => (t.live=d.live ∨
        ∃ cfg, rollbackTarget digest d=some cfg ∧ t.live = .holds cfg) ∧ Unwritten A)
      fun ok t => (ok=false → t=d ∧ rollbackTarget digest d=none) ∧
        (ok=true → ∃ cfg, rollbackTarget digest d=some cfg ∧ t.live = .holds cfg) := by
  refine .read_bind ?_
  cases htgt : rollbackTarget digest d with
  | none => exact .pure ⟨fun _ => ⟨rfl,rfl⟩, nofun⟩
  | some cfg =>
    refine .bind (P := fun _ t => t=d.withLive .rollback cfg)
      (writeAtomic_meets (.inl rfl) (fun h => ⟨.inl rfl,h⟩) fun _ _ => rfl) ?_
    rintro - t rfl
    refine .bind (P := fun _ t => t.live = .holds cfg)
      (writeAtomic_meets (.inr ⟨cfg,rfl,rfl⟩) (fun h => ⟨.inr ⟨cfg,rfl,rfl⟩,h⟩) fun _ _ => rfl) ?_
    intro _ t ht
    exact .pure ⟨nofun,fun _ => ⟨cfg,rfl,ht⟩⟩

end Files

end PiGwPanel.GatewayPanel
