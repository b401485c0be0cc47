import PiGwPanel.SegmentTracking
import PiGwPanel.ProvisioningPass

/-!
# Which links a provisioning run deletes

A deletion is issued for a name in the link ledger, or for the interface of an
undo record that says the panel created it. Neither ever stands for a device of
others, as long as the create step sees the devices that are there and nobody
puts a device up under a name that one of the two records holds.
-/

namespace PiGwPanel.LinkDeletions

open AnsweredProgram DurableRecords SegmentHost SegmentRuleset SegmentLinks SegmentOwnership List
  Option Prog
open SegmentReconcile SegmentCover SegmentTracking ProvisioningPass PyText

variable {setup : Setup} {watched : List String} {s t u : Site} {α : Type} {name : String}
variable {m : SiteProg α}

section Invariant

/-- A record licenses the deletion of a link. -/
def Licenses (ip : InterfaceText) (records : Records) (name : String) : Prop :=
  records.links.Holds name ∨ ∃ candidate, undoCandidateOf ip records.undo = some candidate ∧
    candidate.iface = name ∧ candidate.vlan = true ∧ candidate.prior = .absent

/-- No deletion met a device of others, and none that a record licenses would, as long as the create
step missed no device of others. -/
structure Honest (setup : Setup) (watched : List String) (s : Site) : Prop where
  iface : legalIface (setup.iface s.records.rows) = true
  before : ∀ records, s.saved = some records → legalIface (setup.iface records.rows) = true
  deleted : s.host.unseen = [] → ∀ entry ∈ s.host.deleted, entry.2 ≠ some .other
  licensed : s.host.unseen = [] → ∀ name, Licenses setup.ip s.records name →
    s.host.links name ≠ some .other
  licensedBefore : s.host.unseen = [] → ∀ records, s.saved = some records → ∀ name,
    Licenses setup.ip records name → s.host.links name ≠ some .other
  /-- Names whose devices are watched beside the records. -/
  watches : ∀ name ∈ watched, s.host.links name ≠ some .other

/-- What a step may do without breaking that. -/
structure LinkStep (setup : Setup) (watched : List String) (s t : Site) : Prop where
  saved : t.saved = s.saved
  iface : legalIface (setup.iface s.records.rows) = true →
    legalIface (setup.iface t.records.rows) = true
  unseen : t.host.unseen = [] → s.host.unseen = []
  links : ∀ name, t.host.links name = some .other → s.host.links name = some .other
  deleted : ∀ entry ∈ t.host.deleted, entry ∈ s.host.deleted ∨
    ((Licenses setup.ip s.records entry.1 ∨ entry.1 ∈ watched) ∧
      (entry.2 = some .other → s.host.links entry.1 = some .other))
  licenses : t.host.unseen = [] → ∀ name, Licenses setup.ip t.records name →
    Licenses setup.ip s.records name ∨ s.host.links name ≠ some .other

/-- Such a step keeps the account. -/
theorem Honest.step (h : Honest setup watched s) (hstep : LinkStep setup watched s t) :
    Honest setup watched t where
  iface := hstep.iface h.iface
  before := by
    rw [hstep.saved]
    exact h.before
  deleted := by
    intro hseen entry hentry
    have hseen' := hstep.unseen hseen
    rcases hstep.deleted entry hentry with hold | ⟨hlicensed,hother⟩
    · exact h.deleted hseen' entry hold
    · rcases hlicensed with hheld | hwatched
      · exact fun hentry => h.licensed hseen' _ hheld (hother hentry)
      · exact fun hentry => h.watches _ hwatched (hother hentry)
  licensed := by
    intro hseen name hname hother
    rcases hstep.licenses hseen name hname with hold | hfree
    · exact h.licensed (hstep.unseen hseen) name hold (hstep.links name hother)
    · exact hfree (hstep.links name hother)
  licensedBefore := by
    intro hseen records hsaved name hname hother
    rw [hstep.saved] at hsaved
    exact h.licensedBefore (hstep.unseen hseen) records hsaved name hname (hstep.links name hother)
  watches := fun name hname hother => h.watches name hname (hstep.links name hother)

/-- Nothing that the invariant is about changed. -/
theorem LinkStep.same (hsaved : t.saved=s.saved)
    (hiface : setup.iface t.records.rows=setup.iface s.records.rows)
    (hledger : t.records.links=s.records.links) (hundo : t.records.undo=s.records.undo)
    (hlinks : t.host.links=s.host.links) (hdel : t.host.deleted=s.host.deleted)
    (hunseen : t.host.unseen=s.host.unseen) : LinkStep setup watched s t where
  saved := hsaved
  iface := fun h => hiface ▸ h
  unseen := fun h => hunseen ▸ h
  links := fun name h => hlinks ▸ h
  deleted := fun entry h => .inl (hdel ▸ h)
  licenses := by
    intro _ name hname
    unfold Licenses at hname ⊢
    rw [hledger,hundo] at hname
    exact .inl hname

theorem LinkStep.refl : LinkStep setup watched s s :=
  .same rfl rfl rfl rfl rfl rfl rfl

/-- Wherever the program stops the invariant holds. -/
abbrev Safe (setup : Setup) (watched : List String) (m : SiteProg α) : Prop :=
  Prog.Keeps (Honest setup watched) m

theorem safe_of_steps (hm : ∀ s, Meets (fun _ => True) m s
    (LinkStep setup watched s) (LinkStep setup watched s) fun _ t => LinkStep setup watched s t) :
    Safe setup watched m :=
  fun s h => Prog.Meets.mono (hm s) (fun _ ht => h.step ht) (fun _ ht => h.step ht)
    fun _ _ ht => ⟨h.step ht,trivial⟩

end Invariant

section Steps

variable {seg : String} {link : LinkSide} {m : OwnProg α}

/-- Retiring links issues deletions for names of the ledger only. -/
theorem LinkStep.retired (hlink : Retired s.link link) :
    LinkStep setup watched s (s.withLink link) where
  saved := rfl
  iface := fun h => h
  unseen := fun hseen => (hlink.unseen.symm.trans hseen : s.host.unseen=[])
  links := by
    intro name hother
    rcases hlink.links name with hsame | hnone
    · exact hsame.symm.trans hother
    · have habs : link.host.links name=some .other := hother
      rw [hnone] at habs
      cases habs
  deleted := fun entry hentry => (hlink.log entry hentry).imp id
    fun hnew => ⟨.inl (.inl hnew.1),hnew.2⟩
  licenses := fun _ name hname => .inl (hname.imp (hlink.only name) id)

/-- The create step records a link only when the host shows none of others under its name. -/
theorem LinkStep.ensured (hseg : legalIface seg=true) (hlink : Ensured seg s.link link) :
    LinkStep setup watched s (s.withLink link) where
  saved := rfl
  iface := fun h => h
  unseen := by
    intro hseen
    have hseen : link.host.unseen=[] := hseen
    refine eq_nil_iff_forall_not_mem.mpr fun name hname => ?_
    have hmem := hlink.unseen name hname
    rw [hseen] at hmem
    cases hmem
  links := by
    intro name hother
    rcases hlink.links name with hsame | ⟨rfl,-,hpanel⟩
    · exact hsame.symm.trans hother
    · have hboth : some Origin.panel=some .other := hpanel.symm.trans hother
      cases hboth
  deleted := fun entry hentry => .inl (hlink.deleted ▸ hentry)
  licenses := by
    intro hseen name hname
    rcases hname with hheld | hundo
    · rcases hlink.only hseg name hheld with hold | ⟨rfl,hmissed⟩
      · exact .inl (.inl hold)
      · refine .inr fun hother => ?_
        have hmem : name∈link.host.unseen := hmissed hother
        rw [show link.host.unseen=[] from hseen] at hmem
        cases hmem
    · exact .inl (.inr hundo)

variable {candidate : Candidate}

/-- What the undo of a link may have done to the devices of the host. -/
theorem linkUndone_effects {host after : Host}
    (h : LinkUndone candidate host after) : after.unseen=host.unseen ∧
      (∀ name, after.links name=some .other → host.links name=some .other) ∧
      ∀ entry∈after.deleted, entry∈host.deleted ∨ (entry.1=candidate.iface ∧
        candidate.vlan=true ∧ candidate.prior = .absent ∧ entry.2=host.links entry.1) := by
  cases h with
  | kept => exact ⟨rfl,fun _ h => h,fun _ h => .inl h⟩
  | issued hvlan hprior =>
    refine ⟨rfl,fun _ h => h,fun entry hentry => ?_⟩
    rcases mem_cons.mp hentry with rfl | hold
    · exact .inr ⟨rfl,hvlan,hprior,rfl⟩
    · exact .inl hold
  | removed hvlan hprior =>
    refine ⟨rfl,fun name hother => ?_,fun entry hentry => ?_⟩
    · have hupdated : Function.update host.links candidate.iface none name=some .other := hother
      by_cases hname : name=candidate.iface
      · rw [hname,Function.update_self] at hupdated
        cases hupdated
      · rw [Function.update_of_ne hname] at hupdated
        exact hupdated
    · rcases mem_cons.mp hentry with rfl | hold
      · exact .inr ⟨rfl,hvlan,hprior,rfl⟩
      · exact .inl hold

/-- The undo of a link issues a deletion only for the interface its record licenses. -/
theorem LinkStep.undone {host : Host} (hlicensed : candidate.vlan=true → candidate.prior = .absent →
      Licenses setup.ip s.records candidate.iface ∨ candidate.iface∈watched)
    (hstep : LinkUndone candidate s.host host) : LinkStep setup watched s { s with host := host } := by
  obtain ⟨hunseen,hlinks,hdel⟩ := linkUndone_effects hstep
  refine ⟨rfl,fun h => h,fun hseen => hunseen ▸ hseen,hlinks,fun entry hentry => ?_,
    fun _ _ hname => .inl hname⟩
  refine (hdel entry hentry).imp id ?_
  rintro ⟨hname,hvlan,hprior,hfound⟩
  exact ⟨hname ▸ hlicensed hvlan hprior,fun hother => hfound ▸ hother⟩

theorem LinkStep.settled (h : Settled s t) : LinkStep setup watched s t := by
  have hsame (candidate : Candidate)
      (hcand : undoCandidateOf setup.ip t.records.undo=some candidate) :
      t.records.undo=s.records.undo := h.undoCandidateOf hcand
  obtain ⟨undo,rfl,-⟩ := h
  refine ⟨rfl,fun h => h,fun h => h,fun _ h => h,fun _ h => .inl h,fun _ name hname => .inl ?_⟩
  rcases hname with hheld | ⟨candidate,hcand,hrest⟩
  · exact .inl hheld
  · exact .inr ⟨candidate,hsame candidate hcand ▸ hcand,hrest⟩

/-- The names a candidate puts under watch: its interface, when the probe showed it absent. -/
def watchOf : Option CandidateData → List String
  | none => []
  | some data => if data.linkState = .absent then [data.iface] else []

variable {data : CandidateData}

theorem checkedCandidate_legal {proven : Candidate}
    (hlegal : legalIface data.iface=true) (h : checkedCandidate setup.ip data.fields=some proven) :
    proven.iface=data.iface ∧ proven.prior=data.linkState := by
  rw [checkedCandidate_fields] at h
  obtain ⟨iface,hiface,h⟩ := bind_eq_some_iff.mp h
  obtain ⟨addr4,-,h⟩ := bind_eq_some_iff.mp h
  obtain ⟨addr6,-,h⟩ := bind_eq_some_iff.mp h
  obtain rfl := some.inj h
  unfold readIface at hiface
  rw [stripText_of_legalIface hlegal,if_neg (ne_blank_of_legalIface hlegal),if_pos hlegal] at hiface
  exact ⟨(some.inj hiface).symm,rfl⟩

/-- A candidate is recorded under a name whose device is watched. -/
theorem LinkStep.candidateWritten (hlegal : legalIface data.iface=true)
    (hwatch : data.linkState = .absent → s.host.links data.iface≠some .other)
    (h : CandidateWritten setup.ip data s t) : LinkStep setup watched s t := by
  rcases h with rfl | ⟨proven,hproven,rfl⟩
  · exact .refl
  · refine ⟨rfl,fun h => h,fun h => h,fun _ h => h,fun _ h => .inl h,fun _ name hname => ?_⟩
    rcases hname with hheld | ⟨candidate,hcand,rfl,-,hprior⟩
    · exact .inl (.inl hheld)
    · obtain rfl := undoCandidateOf_recorded hproven hcand
      obtain ⟨hiface,hstate⟩ := checkedCandidate_legal hlegal hproven
      rw [hiface]
      exact .inr (hwatch (hstate ▸ hprior))

theorem outside_safe : Safe setup watched (outside : SiteProg Unit) :=
  safe_of_steps fun _ => outside_meets.mono (fun _ ht => ht ▸ .refl) (fun _ ht => ht ▸ .refl)
    fun _ _ ht => ht ▸ .refl

theorem onOwn_safe {R : OwnSide → OwnSide → Prop}
    (hm : ∀ own, Meets (fun _ => True) m own (R own) (R own) fun _ after => R own after)
    (hR : ∀ own after, R own after → after.host.links=own.host.links ∧
      after.host.deleted=own.host.deleted ∧ after.host.unseen=own.host.unseen) :
    Safe setup watched (onOwn m) := by
  refine safe_of_steps fun s => ?_
  have hstep (own : OwnSide) (hown : R s.own own) : LinkStep setup watched s (s.withOwn own) := by
    obtain ⟨hlinks,hdel,hunseen⟩ := hR _ _ hown
    exact .same rfl rfl rfl rfl hlinks hdel hunseen
  exact .within (hm s.own) hstep hstep fun _ => hstep

theorem onOwn_looks (hm : ∀ own, Meets (fun _ => True) m own
    (fun after => after=own) (fun after => after=own) fun _ after => after=own) :
    Safe setup watched (onOwn m) :=
  onOwn_safe (R := fun own after => after=own) hm fun _ _ hown => by rw [hown]; exact ⟨rfl,rfl,rfl⟩

theorem reconcile_safe (plan : SegmentPlan) :
    Safe setup watched (onOwn (reconcileSegmentAddresses setup.ip plan)) :=
  onOwn_safe (R := Reconciled setup.ip plan) (fun _ => reconcile_meets.value fun _ _ hown => hown.1)
    fun _ _ hown => ⟨hown.links,hown.deleted,hown.unseen⟩

theorem clearManagedAddresses_safe : Safe setup watched (onOwn (clearManagedAddresses setup.ip)) :=
  onOwn_safe (R := fun s t => t.host = { s.host with addrs := t.host.addrs })
    (fun _ => clearManagedAddresses_meets) fun _ _ hown => by rw [hown]; exact ⟨rfl,rfl,rfl⟩

theorem retire_safe {m : LinkProg α} (hm : ∀ link, Meets (fun _ => True) m link (Retired link)
    (Retired link) fun _ t => Retired link t) : Safe setup watched (onLink m) :=
  safe_of_steps fun _ => .within (hm _) (fun _ => .retired) (fun _ => .retired) fun _ _ => .retired

theorem ensureSegmentLink_safe (hseg : legalIface seg=true) :
    Safe setup watched (onLink (ensureSegmentLink seg)) :=
  safe_of_steps fun _ => .within ensureSegmentLink_meets (fun _ => .ensured hseg)
    (fun _ => .ensured hseg) fun _ _ => .ensured hseg

/-- A host command that touches no device. -/
theorem onSiteHost_safe {m : HostProg α} {R : Host → Host → Prop}
    (hm : ∀ host, Meets (fun _ => True) m host (R host) (R host) fun _ after => R host after)
    (hR : ∀ host after, R host after → after.links=host.links ∧
      after.deleted=host.deleted ∧ after.unseen=host.unseen) :
    Safe setup watched (onSiteHost m) := by
  refine safe_of_steps fun s => ?_
  have hstep (host : Host) (hhost : R s.host host) :
      LinkStep setup watched s { s with host := host } := by
    obtain ⟨hlinks,hdel,hunseen⟩ := hR _ _ hhost
    exact .same rfl rfl rfl rfl hlinks hdel hunseen
  exact .within (hm s.host) hstep hstep fun _ => hstep

theorem linkUp_safe {iface : String} : Safe setup watched (onSiteHost (linkUp iface)) :=
  onSiteHost_safe (R := fun host after => after=host ∨ after=host.lift iface)
    (fun _ => linkUp_meets.mono (fun _ ht => .inl ht) (fun _ ht => ht) fun _ _ ht => .inr ht)
    fun _ _ hhost => by obtain rfl | rfl := hhost <;> exact ⟨rfl,rfl,rfl⟩

theorem drainEach_looks {pairs : List Pair} {seen : List (String × LinkState)} {host : Host} :
    Meets (fun _ => True) (drainEach pairs seen) host (fun t => t=host) (fun t => t=host)
      fun _ t => t=host := by
  induction pairs generalizing seen with
  | nil => exact .pure rfl
  | cons pair rest ih =>
    have hprobe : Meets (fun _ => True) (probeOnce pair.1 seen) host (fun t => t=host)
        (fun t => t=host) fun _ t => t=host := by
      unfold probeOnce
      split
      · exact .pure rfl
      · exact probeLink_meets.bind fun _ t ht => .pure ht.1
    have hstill (link : LinkState) : Meets (fun _ => True) (stillThere pair link) host
        (fun t => t=host) (fun t => t=host) fun _ t => t=host := by
      unfold stillThere
      split
      · exact .pure rfl
      · exact probeAddr_meets.bind fun _ t ht => .pure ht.1
    refine hprobe.bind fun result t ht => ?_
    subst ht
    refine (hstill result.1).bind fun kept u hu => ?_
    subst hu
    exact ih.bind fun _ v hv => .pure hv

theorem onSurvivors_safe (m : Prog Answer Ledger Raised α) :
    Safe setup watched (onSurvivors m) := by
  refine safe_of_steps fun s => ?_
  have hstep (ledger : Ledger) : LinkStep setup watched s (s.withSurvivors ledger) :=
    .same rfl rfl rfl rfl rfl rfl rfl
  exact .within .anything (fun ledger _ => hstep ledger) (fun ledger _ => hstep ledger)
    fun _ ledger _ => hstep ledger

theorem drain_safe : Safe setup watched (drainEnforcementCover setup.ip) := by
  refine (onSurvivors_safe _).bind fun got => ?_
  cases got with
  | none => exact .pure _
  | some pairs =>
    refine .bind (onSiteHost_safe (R := fun host after => after=host) (fun _ => drainEach_looks)
      fun _ _ hhost => by rw [hhost]; exact ⟨rfl,rfl,rfl⟩) fun keep => onSurvivors_safe _

theorem writeRow_safe {key : NetKey} {text : String} (hkey : key≠.segmentIface) :
    Safe setup watched (writeRecord (rowSlot key) text) := by
  refine safe_of_steps fun s => ?_
  have hstep (t : Site) (ht : Written (rowSlot key) text s t) : LinkStep setup watched s t := by
    obtain rfl | rfl := ht
    · exact .refl
    · refine .same rfl ?_ rfl rfl rfl rfl rfl
      change rowOr (Function.update s.records.rows key text .segmentIface) _=_
      rw [Function.update_of_ne hkey.symm]
      rfl
  exact writeRecord_meets.mono hstep hstep fun _ t ht => hstep t ht.1

end Steps

section Pass

theorem generatePrefix6_safe : Safe setup watched generatePrefix6 := by
  refine .ask_bind fun reply => (writeRow_safe (by decide)).bind fun why => ?_
  cases why with
  | some why => exact .raise _
  | none => exact .pure _

theorem ensureSegmentPrefix6_safe : Safe setup watched (ensureSegmentPrefix6 setup) :=
  .read_bind fun _ => .ite (.pure _) generatePrefix6_safe

theorem effectiveSegmentPrefix6_safe : Safe setup watched (effectiveSegmentPrefix6 setup) :=
  .read_bind fun _ => .ite (.pure _) <| .ite ensureSegmentPrefix6_safe <|
    .ask_bind fun _ => .ite (.pure _) (.raise _)

theorem renderPlan_safe (h : Honest setup watched s) : SafeTo (Honest setup watched)
    (renderPlan setup) s fun plan _ => legalIface plan.iface=true := by
  refine .bind (outside_safe s h) fun _ t ht _ => ?_
  refine .bind (ensureSegmentPrefix6_safe t ht) fun _ u hu _ => ?_
  refine .bind (outside_safe u hu) fun _ v hv _ => ?_
  refine .bind (effectiveSegmentPrefix6_safe v hv) fun prefix6 w hw _ => ?_
  exact .read_bind (.pure hw hw.iface)

variable {cover : Cover} {iface : String} {names : List String}

theorem supersededState_safe : Safe setup watched (supersededState setup.ip iface) :=
  .bind (onOwn_looks fun _ => readOwnership_meets.bind fun _ _ ht => .pure ht.1) fun _ =>
    .last (retire_safe fun _ => .within (readLinks_meets (E := fun _ => False))
      (fun _ hl => hl ▸ .refl) (fun _ hl => hl.elim) fun _ _ hl => hl.1 ▸ .refl)

theorem pendingCandidate_safe (h : Honest setup watched s) :
    SafeTo (Honest setup watched) (pendingCandidate setup.ip) s fun pending t =>
      pending=unreadablePending [] ∨
        ∃ text, t.records.undo=some text ∧ pending=decodeUndo setup.ip text :=
  Prog.Meets.mono (pendingCandidate_meets (E := fun _ => False)) (fun _ ht => ht ▸ h)
    (fun _ ht => ht.elim) fun _ _ ht => ⟨ht.1 ▸ h,ht.1 ▸ ht.2⟩

theorem enforcementCover_safe : Safe setup watched (enforcementCover setup.ip iface) :=
  (onSurvivors_safe _).bind fun _ => supersededState_safe.bind fun _ =>
    .last fun _ h => (pendingCandidate_safe h).mono fun _ _ _ _ => trivial

theorem installRuleset_safe : Safe setup watched (installRuleset names cover) := by
  refine .ask_bind fun reply => .last (.update fun s h => ?_)
  split
  · exact h.step (.same rfl rfl rfl rfl rfl rfl rfl)
  · exact h

theorem tearsDown_safe : Safe setup watched tearsDown :=
  .ask_bind fun _ => .read_bind fun _ => .ite (.pure _) (.raise _)

theorem syncNetPlan_safe : Safe setup watched (syncNetPlan names cover) := by
  refine tearsDown_safe.bind fun down => ?_
  cases down with
  | true => exact installRuleset_safe
  | false => exact installRuleset_safe

theorem attempt_safe {β : Type} (hm : Safe setup watched m)
    {next : Except Raised α → SiteProg β} (hok : ∀ value, Safe setup watched (next (.ok value)))
    (herror : ∀ e, Safe setup watched (next (.error e))) :
    Safe setup watched (Prog.attempt m >>= next) := by
  refine hm.attempt.bind fun result => ?_
  cases result with
  | ok value => exact hok value
  | error e => exact herror e

theorem applyEnforcement_safe : Safe setup watched (applyEnforcement names cover) :=
  attempt_safe syncNetPlan_safe (fun _ => .pure _) fun _ => .pure _

theorem enforcementPlan_safe : Safe setup watched (enforcementPlan setup) := by
  refine outside_safe.bind fun _ => .read_bind fun s => enforcementCover_safe.bind fun cover => ?_
  split
  · exact .pure _
  · exact .raise _

theorem installCovered_safe : Safe setup watched (installCovered setup) :=
  enforcementPlan_safe.bind fun _ => installRuleset_safe

theorem syncNet_safe : Safe setup watched (syncNet setup) := by
  refine attempt_safe (tearsDown_safe.bind fun down => ?_) (fun _ => .pure _) fun _ => .pure _
  cases down with
  | true => exact installRuleset_safe
  | false => exact installCovered_safe

theorem clearPdPrefix_safe : Safe setup watched clearPdPrefix := .ask_bind fun _ => .pure _

theorem settlePd_safe : Safe setup watched settlePd :=
  .read_bind fun _ => .ite outside_safe.last clearPdPrefix_safe

section

variable (plan : SegmentPlan)

include plan

theorem activateSegment_safe : Safe setup watched (activateSegment plan) :=
  outside_safe.bind fun _ => linkUp_safe.bind fun _ => outside_safe.bind fun _ =>
    retire_safe fun _ => retireSupersededLinks_meets

theorem narrow_safe (superseded remaining : Cover) :
    Safe setup watched (narrowRuleset plan superseded remaining) := by
  refine .ite (.pure _) (.ite (applyEnforcement_safe.bind fun installed => ?_) (.pure _))
  cases installed with
  | true => exact .pure _
  | false => exact .pure _

theorem finishMove_safe (superseded : Cover) (reasons : List Why) :
    Safe setup watched (finishMove setup plan superseded reasons) := by
  refine (activateSegment_safe plan).bind fun links => supersededState_safe.bind fun managed => ?_
  refine enforcementCover_safe.bind fun remaining => ?_
  have hdropIn : Safe setup watched (narrowDropIn superseded managed) := .ite outside_safe (.pure _)
  exact hdropIn.bind fun _ => (narrow_safe plan superseded remaining).bind fun _ =>
    settlePd_safe.last

theorem placeSegment_safe (superseded : Cover) :
    Safe setup watched (placeSegment setup plan superseded) := by
  refine (reconcile_safe plan).bind fun addrs => ?_
  cases addrs.applied with
  | true => exact finishMove_safe plan superseded addrs.reasons
  | false => exact .pure _

theorem stageSegment_safe (superseded cover : Cover) :
    Safe setup watched (stageSegment setup plan superseded cover) := by
  refine .ite (placeSegment_safe plan superseded)
    (.ite (applyEnforcement_safe.bind fun staged => ?_) (.pure _))
  cases staged with
  | true => exact placeSegment_safe plan superseded
  | false => exact .pure _

end

theorem provisionSegment_safe : Safe setup watched (provisionSegment setup) := by
  refine fun s h => .bind (renderPlan_safe h) fun plan t ht hplan => ?_
  refine (supersededState_safe.bind fun superseded => enforcementCover_safe.bind fun cover => ?_) t ht
  exact .ite ((ensureSegmentLink_safe hplan).bind fun _ =>
    stageSegment_safe plan superseded cover) (.pure _)

theorem releaseSegment_safe : Safe setup watched (releaseSegment setup) :=
  clearPdPrefix_safe.bind fun _ => outside_safe.bind fun _ =>
    clearManagedAddresses_safe.bind fun _ =>
      (retire_safe fun _ => clearManagedLink_meets).bind fun _ => outside_safe.last

theorem hostProvision_safe : Safe setup watched (hostProvision setup) := by
  have hpass : Safe setup watched (passOnce setup) := drain_safe.bind fun _ =>
    outside_safe.bind fun _ => .read_bind fun _ => .ite provisionSegment_safe releaseSegment_safe
  have hback : Safe setup watched (handBack setup) := by
    refine .ask_bind fun deny => ?_
    cases deny.took with
    | false => exact .pure _
    | true => exact syncNet_safe
  exact attempt_safe hpass (fun _ => hback.last) fun _ => hback.last

theorem pdChanged_safe : Safe setup watched (pdChanged setup) :=
  .ask_bind fun _ => .read_bind fun _ =>
    .ite ((reconcile_safe _).bind fun _ => outside_safe) (.pure _)

end Pass

section Changes

variable {candidate : Option CandidateData} {data : CandidateData}
variable {writes : List (NetKey × String)}

/-- The interface names in these rows are names, or blank. -/
def ValidIfaces (writes : List (NetKey × String)) : Prop :=
  ∀ text, (NetKey.segmentIface, text) ∈ writes → text = "" ∨ legalIface text = true

theorem Honest.unwatch (h : Honest setup watched s) : Honest setup [] s :=
  { h with watches := nofun }

theorem Honest.begin (h : Honest setup watched s) : Honest setup watched (Site.begin s) where
  iface := h.iface
  before := by
    rintro records ⟨⟩
    exact h.iface
  deleted := h.deleted
  licensed := h.licensed
  licensedBefore := by
    rintro hseen records ⟨⟩
    exact h.licensed hseen
  watches := h.watches

theorem Honest.commit (h : Honest setup watched s) : Honest setup watched (Site.commit s) :=
  { h with
    before := nofun
    licensedBefore := nofun }

theorem Honest.rollBack (h : Honest setup watched s) : Honest setup watched (Site.rollBack s) := by
  have hrecords (P : Records → Prop) (hnow : P s.records)
      (hpre : ∀ records, s.saved=some records → P records) : P (Site.rollBack s).records := by
    unfold Site.rollBack
    cases hsaved : s.saved with
    | none => exact hnow
    | some records => exact hpre records hsaved
  refine ⟨hrecords (fun r => legalIface (setup.iface r.rows)=true) h.iface h.before,
    nofun,h.deleted,fun hseen => ?_,
    nofun,h.watches⟩
  exact hrecords (fun r => ∀ name, Licenses setup.ip r name → s.host.links name≠some .other)
    (h.licensed hseen) (h.licensedBefore hseen)

theorem unwatch (hm : Safe setup watched m) (h : Honest setup watched s) :
    SafeTo (Honest setup []) m s fun _ _ => True :=
  Prog.Meets.mono (hm s h) (fun _ ht => ht.unwatch) (fun _ ht => ht.unwatch)
    fun _ _ ht => ⟨ht.1.unwatch,trivial⟩

theorem inTransaction_safe {body : SiteProg Attempted} (hbody : Safe setup watched body) :
    Safe setup watched (inTransaction body) := by
  have hend (tried : Attempted) : Safe setup watched (endTransaction tried) := by
    unfold endTransaction
    cases tried.ok with
    | false => exact .last (.update fun _ => .rollBack)
    | true =>
      refine .ask_bind fun reply => ?_
      cases reply.took with
      | true => exact .last (.update fun _ => .commit)
      | false => exact .last (.update fun _ => .rollBack)
  exact .bind (.update fun _ => .begin) fun _ => attempt_safe hbody hend fun _ => hend _

theorem writeRows_safe (hsetup : legalIface setup.segmentIface=true)
    (hvalid : ValidIfaces writes) : Safe setup watched (writeRows writes) := by
  induction writes with
  | nil => exact .pure _
  | cons write rest ih =>
    obtain ⟨key,text⟩ := write
    have hstep (s t : Site) (ht : Written (rowSlot key) text s t) : LinkStep setup watched s t := by
      obtain rfl | rfl := ht
      · exact .refl
      · refine { LinkStep.refl (s := s) with iface := fun hold => ?_ }
        change legalIface (rowOr (Function.update s.records.rows key text .segmentIface) _)=true
        by_cases hkey : key = .segmentIface
        · subst hkey
          unfold rowOr
          split
          · exact hsetup
          · next hne => exact (hvalid text mem_cons_self).resolve_left hne
        · rw [Function.update_of_ne fun hsame => hkey hsame.symm]
          exact hold
    refine .bind (safe_of_steps fun s => setSetting_meets.mono (hstep s) (hstep s) fun _ => hstep s)
      fun said => ?_
    cases said with
    | true => exact ih fun text htext => hvalid text (mem_cons_of_mem _ htext)
    | false => exact .raise _

theorem managedField_looks {slot : Slot OwnSide String} {own : OwnSide} :
    Meets (fun _ => True) (managedField slot) own (fun t => t=own) (fun t => t=own)
      fun _ t => t=own := by
  refine storeGet_meets.bind fun got t ht => ?_
  match got with
  | none => exact .raise ht.1
  | some none => exact .pure ht.1
  | some (some text) => exact .pure ht.1

theorem changeBody_safe (hsetup : legalIface setup.segmentIface=true)
    (hvalid : ValidIfaces writes) : Safe setup watched (changeBody setup writes) := by
  have hstate : Safe setup watched (onOwn managedHostState) := by
    refine onOwn_looks fun own => managedField_looks.bind fun iface t ht => ht ▸ ?_
    refine managedField_looks.bind fun addr4 t ht => ht ▸ ?_
    exact managedField_looks.bind fun addr6 t ht => .pure ht
  refine (writeRows_safe hsetup hvalid).bind fun _ => hostProvision_safe.bind fun ok =>
    hstate.bind fun installed => ?_
  cases ok with
  | false => exact .pure _
  | true => exact syncNet_safe.last

theorem clearProvisionCandidate_safe : Safe setup watched clearProvisionCandidate :=
  safe_of_steps fun _ => clearProvisionCandidate_meets.mono (fun _ => .settled) (fun _ => .settled)
    fun _ _ => .settled

theorem settleCandidate_safe : Safe setup watched (settleCandidate candidate) := by
  cases candidate with
  | none => exact .pure _
  | some data => exact clearProvisionCandidate_safe

theorem settleUndo_safe (unresolved : List Why) : Safe setup watched (settleUndo unresolved) := by
  unfold settleUndo
  split
  · exact clearProvisionCandidate_safe
  · exact .pure _

theorem readManagedState_safe (h : Honest setup watched s) :
    SafeTo (Honest setup watched) (onOwn readManagedState) s fun _ t => t=s := by
  have hsame (own : OwnSide) (hown : own=s.own) : s.withOwn own=s := by rw [hown]; rfl
  refine .within (readRecord_meets.bind fun iface t ht => ht.1 ▸ ?_)
    (fun own hown => (hsame own hown).symm ▸ h) (fun own hown => (hsame own hown).symm ▸ h)
    fun _ own hown => ⟨(hsame own hown).symm ▸ h,hsame own hown⟩
  refine readRecord_meets.bind fun addr4 t ht => ht.1 ▸ ?_
  refine readRecord_meets.bind fun addr6 t ht => ?_
  split
  · exact .pure ht.1
  · exact .pure ht.1

/-- The undo deletes a link only where it was absent before and is licensed or watched. -/
theorem undoCandidate_safe {found : Candidate} {installed : Option Candidate}
    (h : Honest setup watched s) (hlicensed : found.vlan=true → found.prior = .absent →
      Licenses setup.ip s.records found.iface ∨ found.iface∈watched) :
    SafeTo (Honest setup watched) (undoCandidate setup.ip found installed) s fun _ _ => True := by
  refine .bind (readManagedState_safe h) fun got t _ ht => ht ▸ ?_
  cases got with
  | none => exact .pure h trivial
  | some restored =>
    have hstep (host : Host) (hhost : LinkUndone found s.host host) :
        Honest setup watched { s with host := host } := h.step (.undone hlicensed hhost)
    have hlink : SafeTo (Honest setup watched) (onSiteHost (undoCandidateLink found restored)) s
        fun _ _ => True :=
      .within undoCandidateLink_meets hstep hstep fun _ host hhost =>
        ⟨hstep host hhost,trivial⟩
    refine .bind hlink fun result u hu _ => ?_
    cases result.deleted with
    | true => exact (onSurvivors_safe _).last u hu
    | false =>
      refine ((onSurvivors_safe _).bind fun remembered => ?_) u hu
      cases remembered with
      | true => exact .pure _
      | false => exact .pure _

variable {doc : List (NetKey × String)} {installed : Option (List (String × FieldValue))}

/-- The undo of a change deletes the candidate's link only if the probe had shown it absent. -/
theorem undoChange_safe (hlegal : ∀ data, candidate=some data → legalIface data.iface=true) :
    Safe setup (watchOf candidate) (undoChange setup candidate installed) := by
  cases candidate with
  | none => exact .pure _
  | some data =>
    have hundo : Safe setup (watchOf (some data))
        (undoProvisionCandidate setup.ip data installed) := by
      unfold undoProvisionCandidate
      split
      · next found supplied hfound hsupplied =>
        obtain ⟨hiface,hprior⟩ := checkedCandidate_legal (hlegal data rfl) hfound
        refine fun s h => undoCandidate_safe h fun _ habs => .inr ?_
        change found.iface∈if data.linkState = .absent then [data.iface] else []
        rw [if_pos (hprior ▸ habs),hiface]
        exact mem_singleton.mpr rfl
      · exact .pure _
    exact hundo.bind settleUndo_safe

theorem recoverChange_safe (hlegal : ∀ data, candidate=some data → legalIface data.iface=true) :
    Safe setup (watchOf candidate) (recoverChange setup candidate installed) :=
  hostProvision_safe.bind fun _ => (undoChange_safe hlegal).bind fun _ => syncNet_safe.last

theorem runChange_safe (hsetup : legalIface setup.segmentIface=true)
    (hlegal : ∀ data, candidate=some data → legalIface data.iface=true)
    (hvalid : ValidIfaces writes) :
    Safe setup (watchOf candidate) (runChange setup candidate writes) := by
  refine (inTransaction_safe (changeBody_safe hsetup hvalid)).bind fun tried => ?_
  cases tried.ok with
  | true => exact settleCandidate_safe
  | false => exact recoverChange_safe hlegal

variable {data : List (NetKey × String)}

theorem valid_of_lookup {text : String} (hvalid : ValidIfaces data)
    (hlook : data.lookup .segmentIface=some text) : text = "" ∨ legalIface text=true := by
  obtain ⟨before,after,rfl,-⟩ := lookup_eq_some_iff.mp hlook
  exact hvalid text (by simp)

/-- A candidate is under the configured name or the requested one. -/
theorem candidateOf_legal {rows : NetKey → String}
    {state : LinkState} (hrows : legalIface (setup.iface rows)=true) (hvalid : ValidIfaces data) :
    legalIface (setup.candidateOf rows data state).iface=true := by
  change legalIface (rowOr ((data.lookup .segmentIface).getD "") (setup.iface rows))=true
  unfold rowOr
  cases hlook : data.lookup .segmentIface with
  | none => exact hrows
  | some text =>
    split
    · exact hrows
    · next hne => exact (valid_of_lookup hvalid hlook).resolve_left hne

/-- `provision_candidate` puts the interface it found absent under watch. -/
theorem provisionCandidate_safe (hvalid : ValidIfaces data)
    (h : Honest setup [] s) : SafeTo (Honest setup []) (provisionCandidate setup data) s
      fun candidate t => Honest setup (watchOf candidate) t ∧
        ∀ data, candidate=some data → legalIface data.iface=true := by
  refine .bind (outside_safe s h) fun _ t ht _ => .read_bind ?_
  split
  · have hprobe : Meets (fun _ => True) (onSiteHost (candidateLinkProbe
        (setup.candidateOf t.records.rows data .unknown).iface)) t (Honest setup [])
        (Honest setup []) fun state u => u=t ∧ (state = .absent →
          t.host.links (setup.candidateOf t.records.rows data .unknown).iface=none) := by
      have hlooks : Meets (fun _ => True) (candidateLinkProbe
          (setup.candidateOf t.records.rows data .unknown).iface) t.host
          (fun host => host=t.host) (fun host => host=t.host) fun state host =>
            host=t.host ∧ (state = .absent →
              t.host.links (setup.candidateOf t.records.rows data .unknown).iface=none) := by
        unfold candidateLinkProbe
        split
        · exact .pure ⟨rfl,nofun⟩
        · exact probeLink_meets.value fun state host hhost => ⟨hhost.1,hhost.2.1⟩
      refine .within hlooks ?_ ?_ fun state host hhost => ⟨by rw [hhost.1],hhost.2⟩
      · intro host hhost
        rw [hhost]
        exact ht
      · intro host hhost
        rw [hhost]
        exact ht
    refine hprobe.bind fun state u hu => ?_
    obtain ⟨rfl,habs⟩ := hu
    refine .pure ⟨ht,⟨{ ht with watches := fun name hname => ?_ },fun found hfound => ?_⟩⟩
    · change name∈if state = .absent then [_] else [] at hname
      split at hname
      · next hstate =>
        rw [mem_singleton.mp hname]
        intro hother
        have hnone := habs hstate
        exact absurd (hnone.symm.trans hother) (by simp)
      · cases hname
    · obtain rfl := some.inj hfound
      exact candidateOf_legal ht.iface hvalid
  · exact .pure ht ⟨ht,nofun⟩

/-- Recording a candidate under watch. -/
theorem recordProvisionCandidate_safe (h : Honest setup (watchOf candidate) s)
    {written : Option CandidateData}
    (hlegal : ∀ data, written=some data → legalIface data.iface=true)
    (hwatch : ∀ data, written=some data → data.linkState = .absent →
      s.host.links data.iface≠some .other) : SafeTo (Honest setup (watchOf candidate))
        (recordProvisionCandidate setup.ip written) s fun _ _ => True := by
  cases written with
  | none => exact .pure h trivial
  | some data =>
    have hstep (t : Site) (ht : CandidateWritten setup.ip data s t) :
        Honest setup (watchOf candidate) t :=
      h.step (.candidateWritten (hlegal data rfl) (hwatch data rfl) ht)
    exact recordProvisionCandidate_meets.mono hstep hstep fun _ t ht => ⟨hstep t ht.1,trivial⟩

theorem recordCandidate_safe (hlegal : ∀ data, candidate=some data → legalIface data.iface=true) :
    Safe setup (watchOf candidate) (recordProvisionCandidate setup.ip candidate) := by
  refine fun s h => recordProvisionCandidate_safe h hlegal ?_
  rintro data rfl habs
  refine h.watches data.iface ?_
  change data.iface∈if data.linkState = .absent then [data.iface] else []
  rw [if_pos habs]
  exact mem_singleton.mpr rfl

theorem importedRows_valid (hvalid : ValidIfaces doc) : ValidIfaces (importedRows doc) := by
  intro text htext
  have htext : text=(doc.lookup .segmentIface).getD "" := by simpa [importedRows] using htext
  rw [htext]
  cases hlook : doc.lookup .segmentIface with
  | none => exact .inl rfl
  | some found => exact valid_of_lookup hvalid hlook

section

variable (hsetup : legalIface setup.segmentIface=true)

include hsetup

theorem putNetwork_safe (hvalid : ValidIfaces data) : Safe setup [] (putNetwork setup data) := by
  refine fun s h => .bind (provisionCandidate_safe hvalid h) fun candidate t _ ht => ?_
  obtain ⟨ht,hlegal⟩ := ht
  exact unwatch ((recordCandidate_safe hlegal).bind fun _ => runChange_safe hsetup hlegal hvalid) ht

theorem restoreData_valid (hvalid : ValidIfaces doc) : ValidIfaces (setup.restoreData doc) := by
  intro text htext
  have htext : text=rowOr (stripText ((doc.lookup .segmentIface).getD "")) setup.segmentIface := by
    simpa [Setup.restoreData] using htext
  rw [htext]
  unfold rowOr
  split
  · exact .inr hsetup
  · next hne =>
    cases hlook : doc.lookup .segmentIface with
    | none =>
      rw [hlook,getD_none] at hne
      exact absurd (by decide) hne
    | some found =>
      rw [hlook,getD_some] at hne
      rw [getD_some]
      rcases valid_of_lookup hvalid hlook with rfl | hlegal
      · exact absurd (by decide) hne
      · rw [stripText_of_legalIface hlegal]
        exact .inr hlegal

theorem armRestore_safe (hlegal : ∀ data, candidate=some data → legalIface data.iface=true)
    (hvalid : ValidIfaces doc) :
    Safe setup (watchOf candidate) (armRestore setup candidate doc) := by
  refine attempt_safe (recordCandidate_safe hlegal) (fun _ => ?_) fun _ => settleCandidate_safe
  refine (inTransaction_safe (changeBody_safe hsetup (importedRows_valid hvalid))).bind
    fun tried => ?_
  cases tried.ok with
  | true => exact settleCandidate_safe
  | false =>
    exact (writeRows_safe hsetup fun text htext => by simp at htext).bind fun _ =>
      recoverChange_safe hlegal

theorem disconnectRestore_safe (hlegal : ∀ data, candidate=some data → legalIface data.iface=true)
    (hvalid : ValidIfaces doc) :
    Safe setup (watchOf candidate) (disconnectRestore setup candidate doc) := by
  have hplan : Safe setup (watchOf candidate) (disconnectedGuardPlan setup) :=
    .read_bind fun _ => .ite enforcementPlan_safe.last (.pure _)
  refine attempt_safe hplan (fun plan => ?_) fun _ => settleCandidate_safe
  have hstop : Safe setup (watchOf candidate) (stopForRestore plan) := by
    refine .bind (.ask_bind fun _ => .ite (.pure _) (.raise _)) fun stopped => ?_
    cases stopped with
    | false => exact .pure _
    | true =>
      match plan with
      | none => exact installRuleset_safe
      | some (names, cover) => exact syncNetPlan_safe
  refine hstop.bind fun enforced => ?_
  cases enforced with
  | false => exact settleCandidate_safe
  | true => exact armRestore_safe hsetup hlegal hvalid

theorem restoreBackup_safe (hvalid : ValidIfaces doc) :
    Safe setup [] (restoreBackup setup doc) := by
  refine fun s h => .bind (provisionCandidate_safe (restoreData_valid hsetup hvalid) h)
    fun candidate t _ ht => ?_
  obtain ⟨ht,hlegal⟩ := ht
  refine unwatch (.bind (fun u hu => recordProvisionCandidate_safe hu ?_ ?_) fun _ =>
    disconnectRestore_safe hsetup hlegal hvalid) ht
  · rintro data hdata
    obtain ⟨found,hfound,rfl⟩ := map_eq_some_iff.mp hdata
    exact hlegal found hfound
  · rintro data hdata habs
    obtain ⟨found,-,rfl⟩ := map_eq_some_iff.mp hdata
    cases habs

end

theorem resumePendingProvisionUndo_safe : Safe setup [] (resumePendingProvisionUndo setup.ip) := by
  refine fun s h => .bind (pendingCandidate_safe h) fun pending t ht hpend => ?_
  match hunusable : pending.unusable, hcand : pending.candidate with
  | true, _ => exact clearProvisionCandidate_safe t ht
  | false, none => exact .pure ht trivial
  | false, some found =>
    have hfound : undoCandidateOf setup.ip t.records.undo=some found := by
      rcases hpend with rfl | ⟨text,htext,rfl⟩
      · cases hcand
      · rw [htext]
        exact hcand
    have hundo : SafeTo (Honest setup []) (undoCandidate setup.ip found none) t fun _ _ => True :=
      undoCandidate_safe ht fun hvlan habs => .inl (.inr ⟨found,hfound,rfl,hvlan,habs⟩)
    refine .bind (.attempt (W := fun _ _ => True) hundo (fun _ _ _ _ => trivial)
      fun _ _ _ => trivial) fun result u hu _ => ?_
    cases result with
    | ok unresolved => exact settleUndo_safe unresolved u hu
    | error e => exact .pure hu trivial

theorem boot_safe : Safe setup [] (boot setup) := by
  have hguard : Safe setup [] (bootGuard setup) := .read_bind fun _ =>
    .ite (attempt_safe installCovered_safe (fun _ => .pure _) fun _ => .pure _) (.pure _)
  refine hguard.bind fun guarded => .ask_bind fun deny => ?_
  cases guarded || deny.said with
  | false => exact .pure _
  | true => exact resumePendingProvisionUndo_safe.bind fun _ => hostProvision_safe.last

end Changes

section Runs

/-- Requests carry legal names, and nobody puts a device up under a name whose deletion a record
licenses. -/
def Undisturbed (setup : Setup) (s : Site) : Event × List Answer → Prop
  | (.put data, _) => ValidIfaces data
  | (.restore doc, _) => ValidIfaces doc
  | (.reboot others, _) => ∀ name, Licenses setup.ip s.records name → others name = false
  | (.created name, _) => ¬ Licenses setup.ip s.records name
  | _ => True

/-- Between events no transaction is open. -/
def Settles (setup : Setup) (s : Site) : Prop := Honest setup [] s ∧ s.saved = none

theorem perform_settles (hm : Safe setup [] m) (h : Settles setup s)
    (replies : List Answer) : Settles setup (perform m replies s) :=
  ⟨((hm s h.1).state replies).rollBack,rfl⟩

theorem Settles.host {host : Host} (h : Settles setup s) (hunseen : host.unseen=s.host.unseen)
    (hdel : host.deleted=s.host.deleted) (hlinks : ∀ name, host.links name=some .other →
      s.host.links name=some .other ∨ ¬ Licenses setup.ip s.records name) :
    Settles setup { s with host := host } := by
  refine ⟨⟨h.1.iface,h.1.before,?_,?_,?_,nofun⟩,h.2⟩
  · intro hseen entry hentry
    rw [hdel] at hentry
    exact h.1.deleted (hunseen ▸ hseen) entry hentry
  · intro hseen name hname hother
    rcases hlinks name hother with hold | hfree
    · exact h.1.licensed (hunseen ▸ hseen) name hname hold
    · exact hfree hname
  · intro _ records hsaved
    rw [h.2] at hsaved
    cases hsaved

/-- Every event of the site keeps the account of deletions. -/
theorem step_settles (hsetup : legalIface setup.segmentIface=true) (s : Site)
    (event : Event × List Answer) (hevent : Undisturbed setup s event) (h : Settles setup s) :
    Settles setup (step setup s event) := by
  obtain ⟨event,replies⟩ := event
  cases event with
  | provision => exact perform_settles hostProvision_safe h replies
  | delegated => exact perform_settles pdChanged_safe h replies
  | put data => exact perform_settles (putNetwork_safe hsetup hevent) h replies
  | restore doc => exact perform_settles (restoreBackup_safe hsetup hevent) h replies
  | boot => exact perform_settles boot_safe h replies
  | reboot others =>
    refine h.host rfl rfl fun name hother => .inr fun hname => ?_
    change (if others name then some Origin.other else none)=some .other at hother
    rw [hevent name hname,if_neg Bool.false_ne_true] at hother
    cases hother
  | created name =>
    change Settles setup { s with host := createdByOthers name s.host }
    unfold createdByOthers
    split
    · refine h.host rfl rfl fun other hother => ?_
      by_cases hname : other=name
      · exact .inr (hname ▸ hevent)
      · have hkept : Function.update s.host.links name (some .other) other=some .other := hother
        rw [Function.update_of_ne hname] at hkept
        exact .inl hkept
    · exact h
  | removed name =>
    refine h.host rfl rfl fun other hother => .inl ?_
    have hkept : Function.update s.host.links name none other=some .other := hother
    by_cases hname : other=name
    · rw [hname,Function.update_self] at hkept
      cases hkept
    · rw [Function.update_of_ne hname] at hkept
      exact hkept

/-- A panel that has no record of a link yet and has deleted none. -/
structure Fresh (setup : Setup) (s : Site) : Prop where
  iface : legalIface (setup.iface s.records.rows) = true
  saved : s.saved = none
  deleted : s.host.deleted = []
  records : ∀ name, ¬ Licenses setup.ip s.records name

theorem Fresh.settles (h : Fresh setup s) : Settles setup s := by
  refine ⟨⟨h.iface,fun records hsaved => ?_,fun _ entry hentry => ?_,
    fun _ name hname => absurd hname (h.records name),fun _ records hsaved => ?_,
    nofun⟩, h.saved⟩
  · rw [h.saved] at hsaved
    cases hsaved
  · rw [h.deleted] at hentry
    cases hentry
  · rw [h.saved] at hsaved
    cases hsaved

/-- After every undisturbed run in which the create step saw the devices that were there, each
`ip link delete` was issued for a link that the panel created, or that was gone. -/
theorem deletions_meet_panel_links (hsetup : legalIface setup.segmentIface = true)
    {events : List (Event × List Answer)} (hstart : Fresh setup s)
    (hrun : EveryStep (step setup) (Undisturbed setup) s events)
    (hseen : (run (step setup) s events).host.unseen = []) :
    ∀ entry ∈ (run (step setup) s events).host.deleted, entry.2 = some .panel ∨ entry.2 = none := by
  have hend : Settles setup (run (step setup) s events) :=
    run_keeps_of (I := Settles setup) (step_settles hsetup) hrun hstart.settles
  intro entry hentry
  have hforeign := hend.1.deleted hseen entry hentry
  rcases hfound : entry.2 with _ | origin
  · exact .inr rfl
  · cases origin with
    | panel => exact .inl rfl
    | other => exact absurd hfound hforeign

theorem fresh_sampleSite : Fresh sampleSetup sampleSite := by
  refine ⟨by decide +kernel,rfl,rfl,fun name hname => ?_⟩
  rcases hname with (hheld | hjour) | ⟨candidate,hcand,-⟩
  · exact absurd hheld not_mem_nil
  · exact absurd hjour not_mem_nil
  · cases hcand

/-- A move from one VLAN to another deletes the one the panel had created. -/
theorem deletions_meet_panel_links_sample :
    let s := run (step sampleSetup) sampleSite
      [smoothly .provision, smoothly (.put [(.segmentIface, "eth0.9")])]
    s.host.deleted ≠ [] ∧ ∀ entry ∈ s.host.deleted, entry.2 = some .panel ∨ entry.2 = none := by
  intro s
  have hdel : s.host.deleted≠[] := by decide +kernel
  have hseen : s.host.unseen=[] := by decide +kernel
  have hvalid : ValidIfaces [(.segmentIface, "eth0.9")] := by
    intro text htext
    obtain rfl : text = "eth0.9" := by simpa using htext
    exact .inr (by decide)
  exact ⟨hdel,deletions_meet_panel_links (by decide) fresh_sampleSite
    ⟨trivial,hvalid,trivial⟩ hseen⟩

/-- A recorded link that somebody else removed is deleted all the same when the segment moves. -/
theorem deletion_of_removed_link :
    ("eth0.2", none) ∈ (run (step sampleSetup) sampleSite [smoothly .provision,
      smoothly (.removed "eth0.2"), smoothly (.put [(.segmentIface, "eth0.9")])]).host.deleted := by
  decide +kernel

end Runs

end PiGwPanel.LinkDeletions
