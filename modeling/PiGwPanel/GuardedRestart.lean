import PiGwPanel.GatewayPanelRules

/-!
# Restarts behind the remote-access guard

Every start of xray first compares the grants of the config file with what the
store grants, and rewrites or rebuilds a file in excess. What the guard may
write is a parameter of its specification, so a restart keeps whatever property
of the files those writes keep.
-/

namespace PiGwPanel.GatewayPanel

open AnsweredProgram Models ConfigBuilder ConfigManager RemoteAccessReconcile Prog

variable {W Dig : Type} {A : Reply → Prop} {s : Panel W Dig}
variable {K E I : Panel W Dig → Prop} {node : Node}

section Guard

variable {host : Host W Dig} {D : Disk Config Dig → Prop}

/-- Nothing but the config files changed, and they are in `D`. -/
def OnlyDisk (D : Disk Config Dig → Prop) (s t : Panel W Dig) : Prop :=
  ∃ d, D d ∧ t = { s with disk := d }

/-- The live config grants nothing the store does not. -/
def NoExcess (host : Host W Dig) (s : Panel W Dig) : Prop :=
  ∀ cfg, s.disk.live = .holds cfg → rwExcess (resolve host s.store) cfg = false

/-- What the guard may do to the config files leaves them in `D`. -/
structure GuardWrites (host : Host W Dig) (store : PanelStore W)
    (D : Disk Config Dig → Prop) : Prop where
  neutralise : ∀ d, D d → D (neutralised d)
  sanitize : ∀ d old, D d → d.live = .holds old →
    D (d.withLive .irreversible (rwReconciled host.settings (resolve host store) old))
  rebuild : ∀ d node cfg, D d → rwRebuildNode store = some node →
    buildNodeConfig host store node = .ok cfg → D (d.withLive .irreversible cfg)

variable {cfg : Config}

theorem readBack_eq_some {text : FileText Config} : readBack text=some cfg ↔ text = .holds cfg := by
  cases text <;> simp [readBack]

theorem rwExcess_buildNodeConfig {store : PanelStore W}
    (h : buildNodeConfig host store node = .ok cfg) : rwExcess (resolve host store) cfg=false := by
  unfold buildNodeConfig at h
  cases hopts : host.buildOptions store.rest node with
  | error e => simp [hopts,bind,Except.bind] at h
  | ok options =>
    rw [hopts] at h
    exact rwExcess_buildConfig h

theorem orFalse_meets {m : PanelProg W Dig Bool} {X : Panel W Dig → Prop}
    {Q : Bool → Panel W Dig → Prop} (hm : Meets A m s K X Q)
    (herror : ∀ t, X t → Q false t) : Meets A (orFalse m) s K E Q := by
  exact .seq (.attempt hm (fun _ _ ht => .pure ht) fun _ t ht => .pure (herror t ht))

/-- The grants of a config are compared with the store's without changing anything. -/
theorem rwExcessNow_meets (hK : K s) (hE : Faulty A → E s) :
    Meets A (rwExcessNow host cfg) s K E fun excess t =>
      t=s ∧ excess=rwExcess (resolve host s.store) cfg := by
  unfold rwExcessNow
  split
  · next hnone => exact .pure ⟨rfl,by simp [rwExcess,hnone]⟩
  · exact .seq (readStore_meets hK hE (.pure ⟨rfl,rfl⟩))

/-- A live file without an excess either cannot be read or grants no more than the store. -/
theorem rwLiveExcess_meets (hK : K s) (hE : Faulty A → E s) :
    Meets A (rwLiveExcess host) s K E fun excess t =>
      t=s ∧ (excess=false ↔ NoExcess host s) := by
  refine .read_bind ?_
  cases hlive : readBack s.disk.live with
  | none =>
    refine .pure ⟨rfl,fun _ cfg hcfg => ?_,fun _ => rfl⟩
    rw [readBack_eq_some.mpr hcfg] at hlive
    cases hlive
  | some cfg =>
    rw [readBack_eq_some] at hlive
    refine .value (rwExcessNow_meets hK hE) ?_
    rintro excess t ⟨rfl,rfl⟩
    refine ⟨rfl,fun h other hother => ?_,fun h => h cfg hlive⟩
    cases hlive.symm.trans hother
    exact h

/-- A cleaned candidate is installed or not; a refusal names the answer that caused it. -/
theorem promoteClean_meets (hclean : rwExcess (resolve host s.store) cfg=false) :
    Meets A (promoteClean host cfg) s
      (OnlyDisk (fun d => d.live=s.disk.live ∨ d.live = .holds cfg) s)
      (fun t => t=s ∧ Faulty A) fun ok t =>
        (ok=true → OnlyDisk (fun d => d.live = .holds cfg) s t) ∧
        (ok=false → OnlyDisk (fun d => d.live=s.disk.live) s t ∧ (Faulty A ∨ Unwritten A)) := by
  refine .bind (rwExcessNow_meets ⟨s.disk,.inl rfl,rfl⟩ fun h => ⟨rfl,h⟩) ?_
  rintro excess t ⟨ht,rfl⟩
  obtain rfl : s=t := ht.symm
  rw [hclean,if_neg Bool.false_ne_true]
  refine orFalse_meets (X := fun t => OnlyDisk (fun d => d.live=s.disk.live) s t ∧ Unwritten A)
    (.bind (P := fun result t =>
      (result.1=true → OnlyDisk (fun d => d.live = .holds cfg) s t) ∧
      (result.1=false → OnlyDisk (fun d => d.live=s.disk.live) s t ∧
        (Faulty A ∨ Unwritten A))) (.on (.mono (applyIrreversible_meets
      (D := fun d => d.live=s.disk.live ∨ d.live = .holds cfg) (.inl rfl) (.inl rfl) (.inr rfl))
      ?_ ?_ ?_)) ?_) ?_
  · exact fun d hd => ⟨d,hd,rfl⟩
  · rintro d ⟨-,hsame,hunwritten⟩
    exact ⟨⟨d,hsame,rfl⟩,hunwritten⟩
  · rintro result d ⟨-,hdone,hrefused⟩
    refine ⟨fun h => ⟨d,?_,rfl⟩, fun h => ⟨⟨d,(hrefused h).1,rfl⟩,(hrefused h).2⟩⟩
    rw [hdone h]
    rfl
  · rintro ⟨ok,out⟩ t ht
    exact .pure ht
  · exact fun t ht => ⟨nofun,fun _ => ⟨ht.1,.inr ht.2⟩⟩

variable [DecidableEq Dig]

/-- A producer of a clean config leaves the files alone, or writes that config. -/
theorem installClean_meets {old : Option Config} (hs : D s.disk) (hneutral : D (neutralised s.disk))
    (hlive : D ((neutralised s.disk).withLive .irreversible cfg)) :
    Meets A (installClean host old (some cfg)) s (OnlyDisk D s)
      (fun t => OnlyDisk D s t ∧ t.disk.live=s.disk.live) fun ok t => OnlyDisk D s t ∧
        (ok=true → t.disk.live = .holds cfg ∨ t=s ∧ old.map host.digest=some (host.digest cfg)) ∧
        (ok=false → t.disk.live=s.disk.live) := by
  unfold installClean
  dsimp only
  split
  · next hsame =>
    exact .pure ⟨⟨s.disk,hs,rfl⟩,fun _ => .inr ⟨rfl,hsame⟩, nofun⟩
  · refine .bind (P := fun result t => OnlyDisk D s t ∧ (result.1=true → t.disk.live = .holds cfg) ∧
      (result.1=false → t.disk.live=s.disk.live)) ?_ ?_
    · refine .on (.mono (applyIrreversible_meets hs hneutral hlive) ?_ ?_ ?_)
      · intro d hd
        exact ⟨d,hd,rfl⟩
      · rintro d ⟨hd,hsame,-⟩
        exact ⟨⟨d,hd,rfl⟩,hsame⟩
      · rintro result d ⟨hd,hdone,hrefused⟩
        refine ⟨⟨d,hd,rfl⟩,fun h => ?_,fun h => (hrefused h).1⟩
        rw [hdone h]
        rfl
    · rintro ⟨ok,out⟩ t ⟨ht,hdone,hrefused⟩
      exact .pure ⟨ht,fun h => .inl (hdone h),hrefused⟩

section

variable (hD : GuardWrites host s.store D)

include hD

variable (hs : D s.disk)

include hs

/-- The config on disk is replaced by its reconciled form, or stays. -/
theorem sanitizeLive_meets : Meets A (sanitizeLive host (readBack s.disk.live)) s (OnlyDisk D s)
      (fun t => OnlyDisk D s t ∧ t.disk.live=s.disk.live) fun ok t => OnlyDisk D s t ∧
        (ok=true → Function.Injective host.digest → NoExcess host t) ∧
        (ok=false → t.disk.live=s.disk.live) := by
  have hstay : OnlyDisk D s s := ⟨s.disk,hs,rfl⟩
  refine .seq (readStore_meets hstay (fun _ => ⟨hstay,rfl⟩) ?_)
  cases hold : readBack s.disk.live with
  | none => exact .pure ⟨hstay,nofun,fun _ => rfl⟩
  | some old =>
    have hlive : s.disk.live = .holds old := readBack_eq_some.mp hold
    refine .value (installClean_meets hs (hD.neutralise _ hs)
      (hD.sanitize _ old (hD.neutralise _ hs) hlive)) ?_
    rintro ok t ⟨⟨d,hd,rfl⟩,hdone,hrefused⟩
    refine ⟨⟨d,hd,rfl⟩,fun hok hinj cfg hcfg => ?_,hrefused⟩
    rcases hdone hok with hwritten | ⟨hsame,hdig⟩
    · cases hwritten.symm.trans hcfg
      exact rwExcess_rwReconciled old
    · rw [hsame] at hcfg
      cases hlive.symm.trans hcfg
      have heq := hinj (Option.some.inj hdig)
      rw [heq]
      exact rwExcess_rwReconciled old

/-- The live config is rebuilt from the store, or stays. -/
theorem rebuildLive_meets {node : Option Node}
    (hnode : ∀ n, node=some n → rwRebuildNode s.store=some n) :
    Meets A (rebuildLive host (readBack s.disk.live) node) s (OnlyDisk D s) (OnlyDisk D s)
      fun ok t => OnlyDisk D s t ∧
        (ok=true → Function.Injective host.digest → NoExcess host t) := by
  have hstay : OnlyDisk D s s := ⟨s.disk,hs,rfl⟩
  cases node with
  | none => exact .pure ⟨hstay,nofun⟩
  | some node =>
    refine .seq (readStore_meets hstay (fun _ => hstay) ?_)
    cases hbuild : buildNodeConfig host s.store node with
    | error e => exact .raise hstay
    | ok cfg =>
      have hneutral := hD.neutralise _ hs
      refine .mono (installClean_meets hs hneutral
        (hD.rebuild _ node cfg hneutral (hnode node rfl) hbuild)) (fun _ h => h) (fun _ h => h.1) ?_
      rintro ok t ⟨⟨d,hd,rfl⟩,hdone,-⟩
      refine ⟨⟨d,hd,rfl⟩,fun hok hinj other hother => ?_⟩
      rcases hdone hok with hwritten | ⟨hsame,hdig⟩
      · cases hwritten.symm.trans hother
        exact rwExcess_buildNodeConfig hbuild
      · rw [hsame] at hother
        rw [readBack_eq_some.mpr hother] at hdig
        rw [hinj (Option.some.inj hdig)]
        exact rwExcess_buildNodeConfig hbuild

/-- `_rw_write_config` never raises, and what it vouches for grants no more than the store. -/
theorem rwWriteConfig_meets :
    Meets A (rwWriteConfig host) s (OnlyDisk D s) E fun ok t => OnlyDisk D s t ∧
      (ok=true → Function.Injective host.digest → NoExcess host t) := by
  have hstay : OnlyDisk D s s := ⟨s.disk,hs,rfl⟩
  refine .ask_bind hstay fun setup _ => ?_
  split
  · exact .pure ⟨hstay,nofun⟩
  · refine .bind (P := fun r t => t=s ∧ ∀ store, r = .ok store → store=s.store)
      (.attempt (X := fun t => t=s) (P := fun store t => t=s ∧ store=s.store)
        (readStore_meets hstay (fun _ => rfl) ⟨rfl,rfl⟩) ?_ ?_) ?_
    · rintro store t ⟨rfl,rfl⟩
      exact ⟨rfl,fun _ h => by cases h; rfl⟩
    · rintro e t rfl
      exact ⟨rfl,nofun⟩
    · rintro r t ⟨ht,hr⟩
      obtain rfl : s=t := ht.symm
      refine .read_bind (.bind (orFalse_meets (sanitizeLive_meets hD hs) fun t ht =>
          ⟨ht.1,nofun,fun _ => ht.2⟩) ?_)
      rintro ok t ⟨⟨d,hd,rfl⟩,hdone,hrefused⟩
      split
      · next hok => exact .pure ⟨⟨d,hd,rfl⟩,fun _ => hdone hok⟩
      · next hok =>
        have hlive : d.live=s.disk.live := hrefused (by simpa using hok)
        rw [← hlive]
        refine .mono (orFalse_meets (E := E)
          (rebuildLive_meets (s := { s with disk := d }) hD hd ?_) ?_) ?_ (fun _ h => h) ?_
        · intro node hnode
          cases r with
          | error e => cases hnode
          | ok store =>
            rw [hr store rfl] at hnode
            exact hnode
        · intro t ht
          exact ⟨ht,nofun⟩
        · rintro t ⟨e,he,rfl⟩
          exact ⟨e,he,rfl⟩
        · rintro again t ⟨⟨e,he,rfl⟩,hagain⟩
          exact ⟨⟨e,he,rfl⟩,hagain⟩

/-- The guard touches only the config files, and lets through only a config that grants no
more than the store. -/
theorem rwReconcileBeforeServing_meets :
    Meets A (rwReconcileBeforeServing host) s (OnlyDisk D s) (OnlyDisk D s) fun ok t =>
      OnlyDisk D s t ∧ (ok=true → Function.Injective host.digest → NoExcess host t) := by
  have hstay : OnlyDisk D s s := ⟨s.disk,hs,rfl⟩
  refine .bind (rwLiveExcess_meets hstay fun _ => hstay) ?_
  rintro excess t ⟨ht,hexcess⟩
  obtain rfl : s=t := ht.symm
  split
  · exact rwWriteConfig_meets hD hs
  · next hfalse =>
    exact .pure ⟨hstay,fun _ _ => hexcess.mp (by simpa using hfalse)⟩

theorem rwStartGuard_meets :
    Meets A (rwStartGuard host) s (OnlyDisk D s) E fun ok t => OnlyDisk D s t ∧
      (ok=true → Function.Injective host.digest → NoExcess host t) :=
  orFalse_meets (rwReconcileBeforeServing_meets hD hs) fun _ ht => ⟨ht,nofun⟩

end

theorem rwStartGuard_meets_clean (hclean : NoExcess host s) (hK : K s) :
    Meets A (rwStartGuard host) s K E fun ok t => t=s ∧ (ok=false → Faulty A) := by
  refine orFalse_meets (X := fun t => t=s ∧ Faulty A) ?_ fun t ht => ⟨ht.1,fun _ => ht.2⟩
  refine .bind (rwLiveExcess_meets hK fun h => ⟨rfl,h⟩) ?_
  rintro excess t ⟨ht,hexcess⟩
  obtain rfl : s=t := ht.symm
  rw [hexcess.mpr hclean]
  exact .pure ⟨rfl,nofun⟩

/-- The candidate itself, or its form without what the store no longer grants. -/
def Promotable (host : Host W Dig) (store : PanelStore W) (candidate cfg : Config) : Prop :=
  cfg = candidate ∨ cfg = rwReconciled host.settings (resolve host store) candidate

/-- The live config is as it was, or a promotable one. -/
def MaybePromoted (host : Host W Dig) (s : Panel W Dig) (candidate : Config)
    (d : Disk Config Dig) : Prop :=
  d.live = s.disk.live ∨ ∃ cfg, d.live = .holds cfg ∧ Promotable host s.store candidate cfg

/-- The live config is promotable and grants no more than the store. -/
def Promoted (host : Host W Dig) (s : Panel W Dig) (candidate : Config)
    (d : Disk Config Dig) : Prop :=
  ∃ cfg, d.live = .holds cfg ∧ Promotable host s.store candidate cfg ∧
    rwExcess (resolve host s.store) cfg = false

/-- The promotion guard installs a promotable config that grants no more than the store, or
leaves the live config alone for a reason. -/
theorem rwGuardPromotion_meets {candidate : Config}
    (htgt : rollbackTarget host.digest s.disk=some candidate) :
    Meets A (rwGuardPromotion host candidate) s (OnlyDisk (MaybePromoted host s candidate) s)
      (fun t => OnlyDisk (MaybePromoted host s candidate) s t ∧ (Faulty A ∨ Unwritten A))
      fun _ t => OnlyDisk (Promoted host s candidate) s t := by
  have hstay : OnlyDisk (MaybePromoted host s candidate) s s := ⟨s.disk,.inl rfl,rfl⟩
  have hlive {d : Disk Config Dig} (hd : d.live=s.disk.live) :
      OnlyDisk (MaybePromoted host s candidate) s { s with disk := d } := ⟨d,.inl hd,rfl⟩
  refine .bind (rwExcessNow_meets hstay fun h => ⟨hstay,.inl h⟩) ?_
  rintro excess t ⟨ht,hexcess⟩
  obtain rfl : s=t := ht.symm
  split
  · next hfalse =>
    have hmoved {d : Disk Config Dig} (hd : d.live=s.disk.live ∨
        ∃ cfg, rollbackTarget host.digest s.disk=some cfg ∧ d.live = .holds cfg) :
        OnlyDisk (MaybePromoted host s candidate) s { s with disk := d } := by
      rcases hd with hsame | ⟨cfg,hcfg,hholds⟩
      · exact hlive hsame
      · cases htgt.symm.trans hcfg
        exact ⟨d,.inr ⟨candidate,hholds,.inl rfl⟩,rfl⟩
    have hrollback : Meets A (rollback host.digest) s.disk _ _ _ := rollback_meets
    refine .bind (P := fun ok t => ok=true ∧ OnlyDisk (Promoted host s candidate) s t)
      (.on (.mono hrollback (fun d hd => hmoved hd) (fun d hd => ⟨hmoved hd.1,.inr hd.2⟩) ?_)) ?_
    · rintro ok d ⟨hnone,hsome⟩
      cases ok with
      | false => cases htgt.symm.trans (hnone rfl).2
      | true =>
        obtain ⟨cfg,hcfg,hholds⟩ := hsome rfl
        cases htgt.symm.trans hcfg
        refine ⟨rfl,d,⟨candidate,hholds,.inl rfl,?_⟩,rfl⟩
        rw [← hexcess]
        simpa using hfalse
    · rintro ok t ⟨rfl,ht⟩
      exact .pure ht
  · refine .seq (readStore_meets hstay (fun h => ⟨hstay,.inl h⟩) ?_)
    have hclean : rwExcess (resolve host s.store)
        (rwReconciled host.settings (resolve host s.store) candidate)=false :=
      rwExcess_rwReconciled candidate
    refine .bind (.mono (promoteClean_meets hclean) ?_ ?_ fun _ _ h => h) ?_
    · rintro t ⟨d,hsame | hholds,rfl⟩
      · exact hlive hsame
      · exact ⟨d,.inr ⟨_,hholds,.inr rfl⟩,rfl⟩
    · rintro t ⟨rfl,hfault⟩
      exact ⟨hstay,.inl hfault⟩
    · rintro ok t ⟨hdone,hrefused⟩
      split
      · next hok =>
        obtain ⟨d,hholds,rfl⟩ := hdone hok
        exact .pure ⟨d,⟨_,hholds,.inr rfl,hclean⟩,rfl⟩
      · next hok =>
        obtain ⟨⟨d,hsame,rfl⟩,hreason⟩ := hrefused (by simpa using hok)
        exact .raise ⟨hlive hsame,hreason⟩

end Guard

section Reload

variable {host : Host W Dig} {S : Panel W Dig → Prop} {bad : Prop}

/-- Only the xray process changed. -/
def OnlyProcess (s t : Panel W Dig) : Prop :=
  ∃ child want, t = { s with child := child, wantRunning := want }

theorem OnlyProcess.refl (s : Panel W Dig) : OnlyProcess s s := ⟨s.child,s.wantRunning,rfl⟩

theorem onlyProcess_settles (s : Panel W Dig) : Settles (OnlyProcess s) where
  want := by
    rintro t want ⟨child,_,rfl⟩
    exact ⟨child,want,rfl⟩
  down := by
    rintro t ⟨_,want,rfl⟩
    exact ⟨none,want,rfl⟩

/-- Nothing but the config files and the process changed, and the files are in `D`. -/
def OnlyRuntime (D : Disk Config Dig → Prop) (s t : Panel W Dig) : Prop :=
  ∃ d child want, D d ∧ t = { s with disk := d, child := child, wantRunning := want }

variable {D : Disk Config Dig → Prop}

theorem onlyRuntime_settles (s : Panel W Dig) : Settles (OnlyRuntime D s) where
  want := by
    rintro t want ⟨d,child,_,hd,rfl⟩
    exact ⟨d,child,want,hd,rfl⟩
  down := by
    rintro t ⟨d,_,want,hd,rfl⟩
    exact ⟨d,none,want,hd,rfl⟩

/-- What a restart needs: `I` survives the guard and the spawn, and what is spawned meets `S`.
A spawn that is refused or serves nothing has a reason, `bad` or a failed answer. -/
structure Startable [DecidableEq Dig] (host : Host W Dig) (A : Reply → Prop)
    (I S : Panel W Dig → Prop) (bad : Prop) : Prop where
  settles : Settles I
  idle : ∀ t, I t → t.child = none → S t
  guard : ∀ t, I t → t.child = none →
    Prog.Meets A (rwStartGuard host) t I (fun _ => False) fun ok u => I u ∧ u.child = none ∧
      (ok = true → I { u with child := readBack u.disk.live } ∧
        S { u with child := readBack u.disk.live } ∧ (readBack u.disk.live = none → bad)) ∧
      (ok = false → Faulty A ∨ bad)

variable [DecidableEq Dig]

/-- A child that runs serves the live config. -/
def Serving (t : Panel W Dig) : Prop := t.child = none ∨ t.child = readBack t.disk.live

/-- A restart on a config that grants no more than the store touches the process only. -/
theorem startable_of_noExcess (hclean : NoExcess host s) :
    Startable host A (OnlyProcess s) Serving (readBack s.disk.live=none) where
  settles := onlyProcess_settles s
  idle _ _ hnone := .inl hnone
  guard := by
    rintro t ⟨child,want,rfl⟩ hnone
    refine .value (rwStartGuard_meets_clean hclean ⟨child,want,rfl⟩) ?_
    rintro ok u ⟨rfl,hfault⟩
    exact ⟨⟨child,want,rfl⟩,hnone,fun _ => ⟨⟨_,want,rfl⟩,.inr rfl,fun h => h⟩,
      fun h => .inl (hfault h)⟩

/-- A restart on any config touches the process and what the guard may write. -/
theorem startable_of_guardWrites (hD : GuardWrites host s.store D) :
    Startable host A (OnlyRuntime D s) Serving True where
  settles := onlyRuntime_settles s
  idle _ _ hnone := .inl hnone
  guard := by
    rintro t ⟨d,child,want,hd,rfl⟩ hnone
    refine .mono (rwStartGuard_meets
      (s := { s with disk := d, child := child, wantRunning := want }) hD hd) ?_ (fun _ h => h) ?_
    · rintro t ⟨e,he,rfl⟩
      exact ⟨e,child,want,he,rfl⟩
    · rintro ok t ⟨⟨e,he,rfl⟩,-⟩
      exact ⟨⟨e,child,want,he,rfl⟩,hnone,
        fun _ => ⟨⟨e,_,want,he,rfl⟩,.inr rfl,fun _ => trivial⟩, fun _ => .inr trivial⟩

section

variable (h : Startable host A I S bad)

include h

variable (hs : I s)

include hs

/-- A start without a child spawns what the guard lets through, or has a reason not to. -/
theorem supervisorStart_meets : Meets A (supervisorStart host) s I (fun _ => False) fun _ t => I t ∧
      (s.child=none → S t ∧ (t.child=none → Faulty A ∨ bad)) := by
  refine .update_bind (.bind (poll_meets h.settles (h.settles.want s true hs)) ?_)
  rintro running t ⟨ht,hdown,hup⟩
  split
  · next hrunning => exact .pure ⟨ht,fun hnone => absurd hnone (hup hrunning).2⟩
  · next hrunning =>
    have hnone : t.child=none := hdown (by simpa using hrunning)
    refine .bind (h.guard t ht hnone) ?_
    rintro ok u ⟨hu,hunone,hlet,hrefuse⟩
    split
    · next hok =>
      obtain ⟨hI,hS,hbad⟩ := hlet hok
      refine .ask_bind hu fun reply hreply => ?_
      split
      · exact .update ⟨hI,fun _ => ⟨hS,fun hempty => .inr (hbad hempty)⟩⟩
      · next hsaid =>
        have hfault : Faulty A := ⟨reply,hreply,by simpa using hsaid⟩
        exact .pure ⟨hu,fun _ => ⟨h.idle u hu hunone,fun _ => .inl hfault⟩⟩
    · next hok =>
      exact .pure ⟨hu,fun _ => ⟨h.idle u hu hunone,fun _ => hrefuse (by simpa using hok)⟩⟩

theorem supervisorReload_meets :
    Meets A (supervisorReload host) s I (fun t => I t ∧ Faulty A) fun ready t => I t ∧
      (ready=true → S t ∧ t.child≠none) ∧ (ready=false → Faulty A ∨ bad) := by
  refine .bind (supervisorStop_meets h.settles hs) ?_
  rintro stopped t ⟨ht,hdown,hfault⟩
  split
  · next hstopped =>
    refine .bind (.mono (supervisorStart_meets h ht) (fun _ h => h)
      (fun _ h => h.elim) fun _ _ h => h) ?_
    rintro - u ⟨hu,hspawned⟩
    obtain ⟨hS,hreason⟩ := hspawned (hdown hstopped)
    refine .value (waitReady_meets h.settles hu) ?_
    rintro ready v ⟨hv,hready,hnot⟩
    refine ⟨hv,fun hyes => ?_,fun hno => ?_⟩
    · obtain ⟨rfl,hup⟩ := hready hyes
      exact ⟨hS,hup⟩
    rcases hnot hno with hnone | hfailed
    · exact hreason hnone
    · exact .inl hfailed
  · next hstopped =>
    exact .pure ⟨ht,nofun,fun _ => .inl (hfault (by simpa using hstopped))⟩

theorem applyRuntime_meets :
    Meets A (applyRuntime host) s I (fun t => I t ∧ (Faulty A ∨ bad)) fun _ t => I t ∧ S t := by
  refine .bind (.mono (supervisorReload_meets h hs) (fun _ h => h)
    (fun _ h => ⟨h.1,.inl h.2⟩) fun _ _ h => h) ?_
  rintro ready t ⟨ht,hready,hnot⟩
  split
  · next hfalse => exact .raise ⟨ht,hnot (by simpa using hfalse)⟩
  · next htrue =>
    refine .bind (netCall_meets ht fun hfault => ⟨ht,.inl hfault⟩) ?_
    rintro note u ⟨rfl,hfault⟩
    cases note with
    | none => exact .pure ⟨ht,(hready (by simpa using htrue)).1⟩
    | some e => exact .raise ⟨ht,.inl (hfault rfl)⟩

/-- Bringing the previous tunnel back changes what a reload changes, and never raises. -/
theorem restorePrevious_meets : Meets A (restorePrevious host) s I E fun _ t => I t := by
  refine .seq (.attempt (X := I) (P := fun _ t => I t) ?_ (fun _ _ h => .pure h) fun _ _ h => .pure h)
  refine .bind (.mono (supervisorReload_meets h hs) (fun _ h => h) (fun _ h => h.1) fun _ _ h => h) ?_
  rintro ready t ⟨ht,-,-⟩
  split
  · exact .pure ht
  · refine .bind (netCall_meets ht fun _ => ht) ?_
    rintro note u ⟨rfl,-⟩
    cases note with
    | none => exact .pure ht
    | some e => exact .pure ht

/-- The restart of a rollback onto a previous node fails only with xray or the network. -/
theorem rollbackOntoPrevious_meets :
    Meets A (rollbackOntoPrevious host) s I (fun t => I t ∧ (Faulty A ∨ bad)) fun _ t => I t := by
  have hclose {t : Panel W Dig} (ht : I t) (hreason : Faulty A ∨ bad) (detail : String) :
      Meets A (do
        let stop ← boundedStop
        let guard ← netCall
        (raise (withDetails detail guard stop) : PanelProg W Dig Unit)) t I
        (fun t => I t ∧ (Faulty A ∨ bad)) fun _ t => I t := by
    refine .bind (boundedStop_meets h.settles ht) ?_
    rintro stop u ⟨hu,-⟩
    refine .bind (netCall_meets hu fun _ => ⟨hu,hreason⟩) ?_
    rintro guard v ⟨rfl,-⟩
    exact .raise ⟨hu,hreason⟩
  refine .bind (.mono (supervisorReload_meets h hs) (fun _ h => h)
    (fun _ h => ⟨h.1,.inl h.2⟩) fun _ _ h => h) ?_
  rintro ready t ⟨ht,-,hnot⟩
  split
  · refine .bind (netCall_meets ht fun hfault => ⟨ht,.inl hfault⟩) ?_
    rintro note u ⟨rfl,hfault⟩
    cases note with
    | none => exact .pure ht
    | some e => exact hclose ht (.inl (hfault rfl)) e
  · next hready => exact hclose ht (hnot (by simpa using hready)) _

end

/-- The config half of a reversible apply leaves the live config alone, or installs the config
built for the node and can return to the one it replaced. -/
theorem applyConfig_meets : Meets A (applyConfig host s.store node false) s
      (OnlyDisk (fun d => d.live=s.disk.live) s)
      (OnlyDisk (fun d => d.live=s.disk.live ∧ d.history=s.disk.history) s)
      fun result t => (result.1=false → t=s) ∧ (result.1=true →
        ∃ cfg, buildNodeConfig host s.store node = .ok cfg ∧
          OnlyDisk (fun d => d.live = .holds cfg ∧ Filed A host.digest s.disk.live d) s t) := by
  unfold applyConfig
  cases hbuild : buildNodeConfig host s.store node with
  | error e => exact .raise ⟨s.disk,⟨rfl,rfl⟩,rfl⟩
  | ok cfg =>
    have happly : Meets A (apply host.digest cfg) s.disk _ _ _ := apply_meets
    dsimp only
    rw [if_neg Bool.false_ne_true]
    refine .on (.mono happly ?_ ?_ ?_)
    · exact fun d hd => ⟨d,hd,rfl⟩
    · exact fun d hd => ⟨d,⟨hd.1,hd.2.1⟩,rfl⟩
    · rintro result d ⟨hrefused,hdone⟩
      refine ⟨fun h => ?_,fun h => ⟨cfg,rfl,d,hdone h,rfl⟩⟩
      rw [(hrefused h).1]

end Reload

end PiGwPanel.GatewayPanel
