import PiGwPanel.SegmentOwnership

/-!
# What a reconcile and a clear of the segment's addresses keep

A reconcile writes and proves its ledger, puts the plan's addresses up, retires the
superseded ones and records what is left. Both sides of every comparison are in one
spelling, so no address of the plan is retired under another spelling of it; and a
pair that the records yield is gone from the host, or in the ledger, when the plan
has been applied.
-/

namespace PiGwPanel.SegmentReconcile

open AnsweredProgram DurableRecords SegmentHost SegmentOwnership PyText List Prog

variable {ip : InterfaceText} {A : Answer → Prop} {s t : OwnSide} {E : OwnSide → Prop}
variable {iface addr4 addr6 : String} {pairs : List Pair} {pair : Pair}

section Recording

/-- How far `_record_ownership` may have come with the ledger. -/
structure Recorded (pairs : List Pair) (s t : OwnSide) : Prop where
  host : t.host = s.host
  ledger : Rewritten (expected (pairs.map entry)) s.stale t.stale

theorem Recorded.refl : Recorded pairs s s := ⟨rfl,.refl⟩

theorem recordScalars_meets : Meets A (recordScalars iface addr4 addr6) s
    (fun t => t.host=s.host ∧ t.stale=s.stale) E fun _ t => t.host=s.host ∧ t.stale=s.stale := by
  have hwrite {slot : Slot OwnSide String} {value : String} {t : OwnSide}
      (hput : ∀ t, (slot.put value t).host=t.host ∧ (slot.put value t).stale=t.stale)
      (ht : t.host=s.host ∧ t.stale=s.stale) :
      Meets A (writeRecord slot value) t (fun u => u.host=s.host ∧ u.stale=s.stale) E
        fun _ u => u.host=s.host ∧ u.stale=s.stale := by
    have hkeeps (u : OwnSide) (hu : Written slot value t u) : u.host=s.host ∧ u.stale=s.stale := by
      obtain rfl | rfl := hu
      · exact ht
      · exact ⟨(hput t).1.trans ht.1,(hput t).2.trans ht.2⟩
    exact writeRecord_meets.mono hkeeps (fun _ h => h) fun _ u hu => hkeeps u hu.1
  refine (hwrite (fun _ => ⟨rfl,rfl⟩) ⟨rfl,rfl⟩).bind fun first t ht => ?_
  refine (hwrite (fun _ => ⟨rfl,rfl⟩) ht).bind fun second u hu => ?_
  exact (hwrite (fun _ => ⟨rfl,rfl⟩) hu).bind fun third v hv => .pure hv

/-- `_record_ownership`: a record that is proven holds what was to be written, entry by entry. -/
theorem recordOwnership_meets : Meets A (recordOwnership iface addr4 addr6 pairs) s
    (Recorded pairs s) E fun why t => Recorded pairs s t ∧ (why=[] →
      (∀ pair∈pairs, splitText (entry pair)=[pair.1,pair.2]) ∧
        ∀ line, t.stale.Holds line ↔ line∈expected (pairs.map entry)) := by
  unfold recordOwnership
  cases hrefused : refusedEntries pairs with
  | cons why more => exact .pure ⟨.refl,nofun⟩
  | nil =>
    have hents : ∀ pair∈pairs, splitText (entry pair)=[pair.1,pair.2] := by
      simpa [refusedEntries,filter_eq_nil_iff] using hrefused
    refine .seq (.within writeSet_meets (fun stale h => ⟨rfl,h⟩) (fun _ h => h)
      fun why stale h => ?_)
    cases why with
    | some why => exact .pure ⟨⟨rfl,h.1⟩,nofun⟩
    | none =>
      refine recordScalars_meets.mono (fun t ht => ⟨ht.1,ht.2 ▸ h.1⟩) (fun _ hE => hE) ?_
      exact fun _ t ht => ⟨⟨ht.1,ht.2 ▸ h.1⟩,fun _ => ⟨hents,ht.2 ▸ h.2 rfl⟩⟩

end Recording

section Retiring

variable {host : Host} {todo : List Pair}

/-- Only addresses came off, and only these. -/
structure Dropped (todo : List Pair) (start host : Host) : Prop where
  same : host = { start with addrs := host.addrs }
  addrs : ∀ pair ∈ host.addrs, pair ∈ start.addrs
  spared : ∀ pair ∈ start.addrs, pair ∉ todo → pair ∈ host.addrs

theorem Dropped.refl : Dropped todo host host := ⟨rfl,fun _ h => h,fun _ h _ => h⟩

theorem Dropped.trans {start middle host : Host} (h : Dropped todo start middle)
    (h' : Dropped todo middle host) : Dropped todo start host where
  same := by
    rw [h'.same,h.same]
  addrs := fun pair hpair => h.addrs pair (h'.addrs pair hpair)
  spared := fun pair hpair hother => h'.spared pair (h.spared pair hpair hother) hother

theorem dropped_drop (hpair : pair∈todo) : Dropped todo host (host.drop pair) := by
  refine ⟨rfl,fun _ h => (mem_filter.mp h).1,fun other hother hnot => ?_⟩
  exact mem_filter.mpr ⟨hother,decide_eq_true fun heq => hnot (heq ▸ hpair)⟩

theorem retireOwnedAddr_meets (hpair : pair∈todo) : Meets A (retireOwnedAddr pair) host
    (Dropped todo host) (Dropped todo host)
      fun reason t => Dropped todo host t ∧ (reason=none → pair∉t.addrs) := by
  have hdel : Meets A (addrDel pair) host (Dropped todo host) (Dropped todo host)
      fun _ t => Dropped todo host t ∧ pair∉t.addrs := by
    refine addrDel_meets.mono ?_ ?_ ?_
    · rintro t rfl
      exact .refl
    · rintro t (rfl | rfl)
      · exact .refl
      · exact dropped_drop hpair
    · rintro - t rfl
      exact ⟨dropped_drop hpair,fun h => by simpa using (mem_filter.mp h).2⟩
  refine .seq (.attempt hdel (fun _ t ht => .pure ⟨ht.1,fun _ => ht.2⟩) fun error t ht => ?_)
  cases error with
  | calledProcessError =>
    refine (probeAddr_meets.weaken (fun u hu => hu ▸ ht) fun _ h => h).bind fun state u hu => ?_
    obtain ⟨rfl,habs⟩ := hu
    cases state with
    | absent => exact .pure ⟨ht,fun _ => habs rfl⟩
    | present => exact .pure ⟨ht,nofun⟩
    | unknown => exact .pure ⟨ht,nofun⟩
  | osError => exact .raise ht
  | recordUnknown => exact .raise ht
  | runtimeError => exact .raise ht

theorem retireEach_meets (hsub : ∀ pair∈pairs, pair∈todo) : Meets A (retireEach pairs) host
    (Dropped todo host) (Dropped todo host) fun result t => Dropped todo host t ∧
      ∀ pair∈pairs, pair∈t.addrs → pair∈result.1 := by
  induction pairs generalizing host with
  | nil => exact .pure ⟨.refl,forall_mem_nil _⟩
  | cons first rest ih =>
    obtain ⟨hfirstIn,hrestIn⟩ := forall_mem_cons.mp hsub
    refine (retireOwnedAddr_meets hfirstIn).bind fun reason t ht => ?_
    obtain ⟨hfst,hgone⟩ := ht
    refine ((ih hrestIn).mono (fun u hu => hfst.trans hu) (fun u hu => hfst.trans hu)
      fun _ u hu => hu).bind fun result u hu => ?_
    obtain ⟨keep,reasons⟩ := result
    obtain ⟨hrest,hkeep⟩ := hu
    cases reason with
    | none =>
      refine .pure ⟨hfst.trans hrest,fun pair hpair hup => ?_⟩
      rcases mem_cons.mp hpair with rfl | hmem
      · exact absurd (hrest.addrs pair hup) (hgone rfl)
      · exact hkeep pair hmem hup
    | some why =>
      refine .pure ⟨hfst.trans hrest,fun pair hpair hup => ?_⟩
      exact mem_cons.mpr ((mem_cons.mp hpair).imp_right fun hmem => hkeep pair hmem hup)

theorem mem_distinct {pairs drop : List Pair} :
    pair∈distinct pairs drop ↔ pair∈pairs ∧ pair.1 ≠ "" ∧ pair.2 ≠ "" ∧ pair∉drop := by
  rw [distinct,mem_eraseDups,mem_filter,decide_eq_true_eq]

end Retiring

section Installing

variable {plan : SegmentPlan} {start host : Host}

/-- The pairs a reconcile puts on the host. -/
def installedPairs (plan : SegmentPlan) : List Pair :=
  (plan.iface, plan.addr4) :: if plan.addr6 = "" then [] else [(plan.iface, plan.addr6)]

/-- Addresses went up, and no device came or went. -/
structure Installed (start host : Host) : Prop where
  links : host.links = start.links
  deleted : host.deleted = start.deleted
  unseen : host.unseen = start.unseen
  addrs : ∀ pair ∈ start.addrs, pair ∈ host.addrs

theorem Installed.refl : Installed host host := ⟨rfl,rfl,rfl,fun _ h => h⟩

theorem Installed.carry (h : Installed start host) : Installed start (host.carry pair) :=
  ⟨h.links,h.deleted,h.unseen,fun other hother => mem_cons_of_mem _ (h.addrs other hother)⟩

theorem putAddress_meets (h : Installed start host) : Meets A (putAddress pair) host
    (Installed start) (Installed start) fun why t => Installed start t ∧
      (why=none → pair∈t.addrs ∧ ∀ other∈host.addrs, other∈t.addrs) := by
  refine .seq (.attempt (X := Installed start) (P := fun _ t => t=host.carry pair)
    (addrReplace_meets.mono ?_ ?_ fun _ t ht => ht.2) ?_ ?_)
  · rintro t rfl
    exact h
  · rintro t (rfl | ⟨-,rfl⟩)
    · exact h
    · exact h.carry
  · rintro - t rfl
    exact .pure ⟨h.carry,fun _ => ⟨mem_cons_self,fun _ hold => mem_cons_of_mem _ hold⟩⟩
  · intro error t ht
    cases error with
    | calledProcessError => exact .pure ⟨ht,nofun⟩
    | osError => exact .raise ht
    | recordUnknown => exact .raise ht
    | runtimeError => exact .raise ht

theorem putAddresses_meets : Meets A (putAddresses plan) host (Installed host)
    (Installed host) fun why t => Installed host t ∧
      (why=none → ∀ pair∈installedPairs plan, pair∈t.addrs) := by
  refine (putAddress_meets .refl).bind fun why t ht => ?_
  cases why with
  | some why => exact .pure ⟨ht.1,nofun⟩
  | none =>
    obtain ⟨hfst,-⟩ := ht.2 rfl
    unfold putAddress6 installedPairs
    split_ifs
    · exact .pure ⟨ht.1,fun _ => forall_mem_singleton.mpr hfst⟩
    · refine (putAddress_meets ht.1).value fun why u hu => ⟨hu.1,fun hnone => ?_⟩
      obtain ⟨hsnd,hkept⟩ := hu.2 hnone
      exact forall_mem_cons.mpr ⟨hkept _ hfst,forall_mem_singleton.mpr hsnd⟩

end Installing

section Reconciling

variable {plan : SegmentPlan} {own : Ownership} {start : OwnSide}

/-- What was read as owed a removal, or as the segment's, is in the write-ahead set unless the plan
wants it. -/
theorem mem_staleSet (hfst : pair.1 ≠ "") (hsnd : pair.2 ≠ "") (hdesired : pair∉plan.desired)
    (h : pair∈own.stale ∨
      (own.ifaceOr plan.iface=pair.1 ∧ (own.addr4=pair.2 ∨ own.addr6=pair.2))) :
    pair∈staleSet own plan := by
  rw [staleSet,mem_append]
  by_cases hrec : pair∈distinct own.stale plan.desired
  · exact .inl hrec
  refine .inr (mem_distinct.mpr ⟨?_,hfst,hsnd,fun hmem =>
    (mem_append.mp hmem).elim hdesired hrec⟩)
  obtain ⟨hold,haddr⟩ :=
    h.resolve_left fun hstale => hrec (mem_distinct.mpr ⟨hstale,hfst,hsnd,hdesired⟩)
  have hdiffers (addr : String) (hwanted : addr=plan.addr4 ∨ addr=plan.addr6) :
      pair.2≠addr ∨ pair.1≠plan.iface := by
    by_contra hboth
    obtain ⟨hsame,hplan⟩ := not_or.mp hboth
    refine hdesired (mem_filter.mpr ⟨?_,by simp [hfst,hsnd]⟩)
    rw [show pair=(plan.iface, addr) from Prod.ext (not_not.mp hplan) (not_not.mp hsame)]
    rcases hwanted with rfl | rfl <;> simp
  unfold supersededPairs
  rw [hold,mem_append]
  refine haddr.imp (fun haddr => ?_) fun haddr => ?_
  · rw [haddr,if_pos ⟨hfst,hsnd,hdiffers _ (.inl rfl)⟩]
    exact mem_singleton.mpr rfl
  · rw [haddr,if_pos ⟨hfst,hsnd,hdiffers _ (.inr rfl)⟩]
    exact mem_singleton.mpr rfl

theorem spelled_of_mem_staleSet (hread : Read ip s own) (h : pair∈staleSet own plan) :
    checkedAddrText ip pair.2=some pair.2 := by
  rcases mem_append.mp h with hstale | hrotating
  · exact (hread.stale pair (mem_distinct.mp hstale).1).2
  · obtain ⟨hmem,-,hne,-⟩ := mem_distinct.mp hrotating
    refine hread.addrs pair.2 ?_ hne
    rcases mem_append.mp hmem with hmem | hmem <;> split_ifs at hmem
    · exact .inl (by rw [mem_singleton.mp hmem])
    · cases hmem
    · exact .inr (by rw [mem_singleton.mp hmem])
    · cases hmem

/-- `_addr_token`: what a text denotes, an address with a prefix length. -/
def addrToken (ip : InterfaceText) (text : String) : Option (String × ℕ) :=
  if '/' ∈ text.toList ∧ '%' ∉ text.toList then ip.interface text else none

/-- Two texts denote the same address and prefix length. -/
def SameAddress (ip : InterfaceText) (text other : String) : Prop :=
  ∃ token, addrToken ip text = some token ∧ addrToken ip other = some token

/-- A plan's addresses as the reconcile spells them. -/
def spelledPlan (ip : InterfaceText) (iface text4 : String) (text6 : Option String) : SegmentPlan where
  iface := iface
  addr4 := canonicalAddr ip text4
  addr6 := (text6.map (canonicalAddr ip)).getD ""

theorem canonicalAddr_of_same {text other : String} (hself : checkedAddrText ip text=some text)
    (h : SameAddress ip text other) : canonicalAddr ip other=text := by
  obtain ⟨⟨spelling,version⟩,htext,hother⟩ := h
  unfold addrToken at htext hother
  split_ifs at htext hother with hshape hshape'
  unfold checkedAddrText at hself
  split_ifs at hself
  rw [htext] at hself
  unfold canonicalAddr
  rw [if_pos hshape',hother]
  exact Option.some.inj hself

variable {text6 : Option String} {text4 : String}

/-- No spelling of an address of the plan is retired from its interface. -/
theorem retired_differs (hread : Read ip s own)
    (hpair : pair∈distinct (staleSet own (spelledPlan ip iface text4 text6))
      (spelledPlan ip iface text4 text6).desired) (hiface : pair.1=iface) :
    ∀ text∈text4::text6.toList, ¬SameAddress ip pair.2 text := by
  intro text htext hsame
  obtain ⟨hmem,hfst,hsnd,hdesired⟩ := mem_distinct.mp hpair
  have hcanon := canonicalAddr_of_same (spelled_of_mem_staleSet hread hmem) hsame
  refine hdesired (mem_filter.mpr ⟨?_,by simp [hfst,hsnd]⟩)
  rw [show pair=(iface, canonicalAddr ip text) from Prod.ext hiface hcanon.symm]
  rcases mem_cons.mp htext with rfl | hsix
  · exact mem_cons_self
  · rw [Option.mem_toList] at hsix
    simp [spelledPlan,hsix]

/-- What a reconcile may have done, wherever it stops: no device came or went, and no address came
off but those it retires. -/
structure Reconciled (ip : InterfaceText) (plan : SegmentPlan) (start t : OwnSide) : Prop where
  links : t.host.links = start.host.links
  deleted : t.host.deleted = start.host.deleted
  unseen : t.host.unseen = start.host.unseen
  spared : ∀ pair ∈ start.host.addrs, pair ∈ t.host.addrs ∨
    ∃ own, Read ip start own ∧ pair ∈ distinct (staleSet own plan) plan.desired

theorem Reconciled.of_host (h : t.host=start.host) : Reconciled ip plan start t where
  links := by rw [h]
  deleted := by rw [h]
  unseen := by rw [h]
  spared := fun _ hpair => .inl (h ▸ hpair)

theorem Reconciled.of_installed (h : Installed start.host t.host) : Reconciled ip plan start t :=
  ⟨h.links,h.deleted,h.unseen,fun pair hpair => .inl (h.addrs pair hpair)⟩

/-- The plan's addresses are on, and every other pair the records yield is gone or in the ledger. -/
structure Applied (ip : InterfaceText) (plan : SegmentPlan) (start t : OwnSide) : Prop where
  installed : ∀ pair ∈ installedPairs plan, pair ∈ t.host.addrs
  others : ∀ pair, LedgerYields ip start.stale pair ∨ ScalarsYield ip plan.iface start pair →
    pair ∉ plan.desired → pair ∉ t.host.addrs ∨ LedgerYields ip t.stale pair

theorem not_retired_of_installed (h : pair∈installedPairs plan) :
    pair∉distinct (staleSet own plan) plan.desired := by
  intro hretired
  obtain ⟨-,hfst,hsnd,hdesired⟩ := mem_distinct.mp hretired
  refine hdesired (mem_filter.mpr ⟨?_,by simp [hfst,hsnd]⟩)
  rcases mem_cons.mp h with rfl | hsix
  · exact mem_cons_self
  · split_ifs at hsix
    · cases hsix
    · exact mem_cons_of_mem _ hsix

section

variable (hread : Read ip start own)

include hread

theorem Reconciled.of_dropped {host : Host} (h : Installed start.host host)
    (hdropped : Dropped (distinct (staleSet own plan) plan.desired) host t.host) :
    Reconciled ip plan start t where
  links := by rw [hdropped.same,← h.links]
  deleted := by rw [hdropped.same,← h.deleted]
  unseen := by rw [hdropped.same,← h.unseen]
  spared := by
    intro pair hpair
    by_cases hretired : pair∈distinct (staleSet own plan) plan.desired
    · exact .inr ⟨own,hread,hretired⟩
    · exact .inl (hdropped.spared pair (h.addrs pair hpair) hretired)

/-- A pair that reading yields is to be retired, or kept as it came. -/
theorem yielded_cases (hdesired : pair∉plan.desired)
    (h : LedgerYields ip start.stale pair ∨ ScalarsYield ip plan.iface start pair) :
    pair∈distinct (staleSet own plan) plan.desired ∨ pair∈own.retained := by
  have hretire (hfst : pair.1 ≠ "") (hsnd : pair.2 ≠ "") (hown : pair∈own.stale ∨
      (own.ifaceOr plan.iface=pair.1 ∧ (own.addr4=pair.2 ∨ own.addr6=pair.2))) :
      pair∈distinct (staleSet own plan) plan.desired :=
    mem_distinct.mpr ⟨mem_staleSet hfst hsnd hdesired hown,hfst,hsnd,hdesired⟩
  rcases h with hledger | hscalars
  · refine (hread.ledger pair hledger).imp_left fun hstale => ?_
    obtain ⟨hfst,hself⟩ := hread.stale pair hstale
    exact hretire hfst (ne_blank_of_split (checkedAddrText_eq_some hself).2) (.inl hstale)
  · obtain ⟨hfst,-,hslot⟩ := id hscalars
    have hsnd : pair.2 ≠ "" := by
      rcases hslot with ⟨_,-,hfound⟩ | ⟨_,-,hfound⟩ <;> exact (checkedFamilyAddr_eq_some hfound).2
    exact .inl (hretire hfst hsnd (.inr (hread.scalars plan.iface pair hscalars)))

/-- Recording what is left keeps the entries of what is still up. -/
theorem applied_of_recorded {keep : List Pair} {u : OwnSide}
    (hents : ∀ pair∈staleSet own plan++own.retained, splitText (entry pair)=[pair.1,pair.2])
    (hledger : ∀ line, t.stale.Holds line ↔
      line∈expected ((staleSet own plan++own.retained).map entry))
    (hinst : ∀ pair∈installedPairs plan, pair∈t.host.addrs)
    (hkeep : ∀ pair∈distinct (staleSet own plan) plan.desired, pair∈t.host.addrs → pair∈keep)
    (hu : Recorded (keep++own.retained) t u) : Applied ip plan start u where
  installed := fun pair hpair => hu.host ▸ hinst pair hpair
  others := by
    intro pair hyields hdesired
    -- An entry on both sides of the last write is in the ledger wherever that write stopped.
    have hkept (hself : yielded ip pair=pair) (hpre : pair∈staleSet own plan++own.retained)
        (hafter : pair∈keep++own.retained) : LedgerYields ip u.stale pair := by
      rcases hu.ledger.whole with hsame | hall
      · exact ledgerYields_of_expected (fun line hline => hsame ▸ (hledger line).mpr hline) hpre
          (hents pair hpre) hself
      · exact ledgerYields_of_expected hall hafter (hents pair hpre) hself
    rcases yielded_cases hread hdesired hyields with hretired | hretained
    · by_cases hup : pair∈t.host.addrs
      · have hstale := (mem_distinct.mp hretired).1
        exact .inr (hkept (yielded_self (spelled_of_mem_staleSet hread hstale))
          (mem_append_left _ hstale) (mem_append_left _ (hkeep pair hretired hup)))
      · exact .inl (hu.host ▸ hup)
    · exact .inr (hkept (hread.retained pair hretained) (mem_append_right _ hretained)
        (mem_append_right _ hretained))

end

/-- `reconcile_segment_addresses`, wherever it stops and when it reports the plan as applied. -/
theorem reconcile_meets : Meets A (reconcileSegmentAddresses ip plan) s
    (Reconciled ip plan s) (Reconciled ip plan s) fun outcome t => Reconciled ip plan s t ∧
      (outcome.applied=true → Applied ip plan s t) := by
  refine .seq (readOwnership_meets.mono (fun t ht => .of_host (by rw [ht])) (fun _ h => h)
    fun got t ht => ?_)
  obtain ⟨rfl,hread⟩ := ht
  cases got with
  | none => exact .pure ⟨.of_host rfl,nofun⟩
  | some own =>
    have hread := hread own rfl
    refine .seq (recordOwnership_meets.mono (fun u hu => .of_host hu.host) (fun _ h => h)
      fun unwritten u hu => ?_)
    cases unwritten with
    | cons why more => exact .pure ⟨.of_host hu.1.host,nofun⟩
    | nil =>
      obtain ⟨hents,hledger⟩ := hu.2 rfl
      have hstart := hu.1.host
      refine .seq (.within putAddresses_meets (fun host h => .of_installed (hstart ▸ h))
        (fun host h => .of_installed (hstart ▸ h)) fun refused host h => ?_)
      rw [hstart] at h
      obtain ⟨hinst,hplan⟩ := h
      cases refused with
      | some why => exact .pure ⟨.of_installed hinst,nofun⟩
      | none =>
        refine .seq (.within (retireEach_meets fun _ h => h)
          (fun host' h => .of_dropped hread hinst h)
          (fun host' h => .of_dropped hread hinst h) fun result host' h => ?_)
        obtain ⟨keep,reasons⟩ := result
        obtain ⟨hdropped,hkeep⟩ := h
        have hrecon (v : OwnSide) (hv : Recorded (keep++own.retained)
            { u with host := host' } v) : Reconciled ip plan t v :=
          .of_dropped hread hinst (hv.host ▸ hdropped)
        refine .seq (recordOwnership_meets.mono hrecon (fun _ h => h) fun unwritten v hv => ?_)
        refine .pure ⟨hrecon v hv.1,fun _ => ?_⟩
        have hup (pair : Pair) (hpair : pair∈installedPairs plan) : pair∈host'.addrs :=
          hdropped.spared pair (hplan rfl pair hpair) (not_retired_of_installed hpair)
        exact applied_of_recorded (t := { u with host := host' }) hread hents hledger hup hkeep hv.1

/-- An address of the plan, under any spelling, is never taken off its interface. -/
def Spared (ip : InterfaceText) (iface : String) (texts : List String) (start t : OwnSide) : Prop :=
  ∀ pair ∈ start.host.addrs, pair.1 = iface → (∃ text ∈ texts, SameAddress ip pair.2 text) →
    pair ∈ t.host.addrs

theorem Reconciled.spares (h : Reconciled ip (spelledPlan ip iface text4 text6) start t) :
    Spared ip iface (text4::text6.toList) start t := by
  rintro pair hpair hiface ⟨text,htext,hsame⟩
  refine (h.spared pair hpair).resolve_right ?_
  rintro ⟨own,hread,hretired⟩
  exact retired_differs hread hretired hiface text htext hsame

/-- Whatever the records hold and the commands answer, a reconcile takes no address of its plan off
its interface, nor asks for the removal of another spelling of one; a plan reported as applied is on,
and every other pair the records yield is gone from the host or still in the ledger. -/
theorem reconcile_spares_and_applies (ip : InterfaceText) (iface text4 : String)
    (text6 : Option String) (s : OwnSide) :
    (∀ own, Read ip s own → ∀ pair ∈ distinct (staleSet own (spelledPlan ip iface text4 text6))
      (spelledPlan ip iface text4 text6).desired, pair.1 = iface →
        ∀ text ∈ text4 :: text6.toList, ¬SameAddress ip pair.2 text) ∧
    Prog.Meets (fun _ => True) (reconcileSegmentAddresses ip (spelledPlan ip iface text4 text6)) s
      (Spared ip iface (text4 :: text6.toList) s) (Spared ip iface (text4 :: text6.toList) s)
      fun outcome t => Spared ip iface (text4 :: text6.toList) s t ∧
        (outcome.applied = true → Applied ip (spelledPlan ip iface text4 text6) s t) :=
  ⟨fun _ hread _ => retired_differs hread,reconcile_meets.mono (fun _ h => h.spares)
    (fun _ h => h.spares) fun _ _ h => ⟨h.1.spares,h.2⟩⟩

end Reconciling

section Clearing

/-- `clear_managed_addresses`, wherever it stops: addresses come off, and nothing else. -/
theorem clearManagedAddresses_meets : Meets A (clearManagedAddresses ip) s
    (fun t => t.host = { s.host with addrs := t.host.addrs })
    (fun t => t.host = { s.host with addrs := t.host.addrs })
      fun _ t => t.host = { s.host with addrs := t.host.addrs } := by
  refine .seq (readOwnership_meets.mono (fun t ht => by rw [ht]) (fun _ h => h) fun got t ht => ?_)
  obtain ⟨rfl,-⟩ := ht
  cases got with
  | none => exact .pure rfl
  | some own =>
    refine .seq (.within (retireEach_meets fun _ h => h) (fun _ h => h.same)
      (fun _ h => h.same) fun result host h => ?_)
    have hrec (v : OwnSide) (hv : v.host=host) :
        v.host = { t.host with addrs := v.host.addrs } := by
      rw [hv]
      exact h.1.same
    refine .seq (recordOwnership_meets.mono (fun v hv => hrec v hv.host) (fun _ h => h)
      fun unwritten v hv => ?_)
    exact .pure (hrec v hv.1.host)

end Clearing

end PiGwPanel.SegmentReconcile
