import PiGwPanel.SegmentHost
import PiGwPanel.SegmentRuleset

/-!
# The ledger of links the panel created

A VLAN is written into the ledger before it is created, and leaves it only when
its removal is proven. Three paths of `net_control/provision.py` consume the
ledger or add to it: the create step, the retirement of superseded links and the
end of segment management.
-/

namespace PiGwPanel.SegmentLinks

open AnsweredProgram DurableRecords SegmentHost SegmentRuleset PyText List Prog

/-- The link ledger together with the host it describes. -/
structure LinkSide where
  ledger : Ledger
  host : Host

/-- Programs over the link ledger and the host. -/
abbrev LinkProg (α : Type) := Prog Answer LinkSide Raised α

/-- Run a ledger program. -/
def onLedger {α : Type} (m : Prog Answer Ledger Raised α) : LinkProg α :=
  Prog.on LinkSide.ledger (fun ledger s => { s with ledger := ledger }) m

/-- Run a host program. -/
def onHost {α : Type} (m : HostProg α) : LinkProg α :=
  Prog.on LinkSide.host (fun host s => { s with host := host }) m

/-- `LINK_KEY`. -/
def linkKey : String := "managed_segment_link"

/-- `_read_links`: the names in the ledger, all of them or none. -/
def readLinks : Prog Answer Ledger Raised (Option (List String)) := do
  match ← readSet linkKey with
  | none => pure none
  | some lines => pure (if lines.all legalIface then some lines else none)

/-- `_parse_links`: the same, raising when the ledger cannot be read in full. -/
def parseLinks : Prog Answer Ledger Raised (List String) := do
  match ← readLinks with
  | none => Prog.raise .recordUnknown
  | some names => pure names

/-- `parse_vlan`: the parent and the VLAN id of a dotted name. -/
def parseVlan (iface : String) : String × Option ℤ :=
  let backwards := iface.toList.reverse
  let vid := (backwards.takeWhile fun c => c ≠ '.').reverse
  let parent := ((backwards.dropWhile fun c => c ≠ '.').drop 1).reverse
  if '.' ∈ iface.toList then
    match pyInt (String.ofList vid) with
    | some id => (String.ofList parent, some id)
    | none => (iface, none)
  else (iface, none)

/-- Remember a device of others that the create step could not see. -/
def noteUnseen (name : String) (state : LinkState) : HostProg Unit :=
  Prog.update fun host =>
    if state = .unknown ∧ host.links name = some .other then
      { host with unseen := name :: host.unseen }
    else host

/-- `_link_exists`: the probe of the create step, where no answer counts as absence. -/
def linkExists (name : String) : HostProg Bool := do
  let state ← probeLink name
  noteUnseen name state
  pure (state = .present)

/-- The creation in `ensure_segment_link`: record the link, prove the record, then create it. -/
def createSegmentLink (seg : String) (owned : List String) : LinkProg Unit := do
  if seg ∈ owned then onHost (linkAdd seg)
  else
    match ← onLedger (writeSet linkKey (owned ++ [seg])) with
    | some _ => Prog.raise .runtimeError
    | none => onHost (linkAdd seg)

/-- `ensure_segment_link`: create the configured VLAN when it is not there. -/
def ensureSegmentLink (seg : String) : LinkProg Unit := do
  let owned ← onLedger parseLinks
  match (parseVlan seg).2 with
  | none => pure ()
  | some _ =>
    match ← onHost (linkExists seg) with
    | true => pure ()
    | false => createSegmentLink seg owned

/-- The last part of `_delete_owned_link`: forget one entry and prove it. -/
def forgetLink (link : String) (owned : List String) : LinkProg (Option Why × List String) := do
  let rest := owned.erase link
  let why ← onLedger (writeSet linkKey rest)
  pure (why.map fun _ => .ledgerKeepsLink link, rest)

/-- `_delete_owned_link`; the second result is the list `owned` as the call leaves it. -/
def deleteOwnedLink (link : String) (owned : List String) :
    LinkProg (Option Why × List String) := do
  match ← Prog.attempt (onHost (linkDelete link)) with
  | .ok _ => forgetLink link owned
  | .error _ =>
    match ← onHost (probeLink link) with
    | .absent => forgetLink link owned
    | .present => pure (some (.linkRemains link .present), owned)
    | .unknown => pure (some (.linkRemains link .unknown), owned)

/-- `_retire_links`: delete each link in turn, with a reason per link not proven gone. -/
def retireLinks : List String → List String → LinkProg (List Why)
  | [], _ => pure []
  | link :: rest, owned => do
    let (reason, owned) ← deleteOwnedLink link owned
    let reasons ← retireLinks rest owned
    pure (reason.toList ++ reasons)

/-- `retire_superseded_links`: delete the recorded links other than the configured one. -/
def retireSupersededLinks (seg : String) : LinkProg (List Why) := do
  match ← onLedger readLinks with
  | none => pure [.notReadable linkKey]
  | some owned => retireLinks (owned.filter fun name => name ≠ seg) owned

/-- `clear_managed_link`: delete every recorded link. -/
def clearManagedLink : LinkProg (List Why) := do
  match ← onLedger readLinks with
  | none => pure [.notReadable linkKey]
  | some owned => retireLinks owned owned

section Specs

variable {A : Answer → Prop} {s start : LinkSide} {α : Type} {K E : LinkSide → Prop}
variable {Q : α → LinkSide → Prop} {seg link : String} {owned : List String} {ledger : Ledger}

/-- Names that are read are the lines of the ledger, every one of them legal. -/
theorem readLinks_meets {E : Ledger → Prop} : Meets A readLinks ledger (fun t => t=ledger) E
      fun got t => t=ledger ∧ ∀ names, got=some names →
        (∀ name, name∈names ↔ ledger.Holds name) ∧ ∀ name∈names, legalIface name=true := by
  refine readSet_meets.bind fun got t ht => ?_
  obtain ⟨rfl,hgot⟩ := ht
  cases got with
  | none => exact .pure ⟨rfl,nofun⟩
  | some lines =>
    obtain ⟨found,hfound,hlines⟩ := hgot.resolve_left (by simp)
    refine .pure ⟨rfl,fun names h => ?_⟩
    split_ifs at h with hlegal
    obtain rfl : lines=names := Option.some.inj h
    obtain rfl : lines=found := Option.some.inj hfound
    exact ⟨hlines,all_eq_true.mp hlegal⟩

theorem parseLinks_meets : Meets A parseLinks ledger (fun t => t=ledger) (fun t => t=ledger)
      fun names t => t=ledger ∧ (∀ name, name∈names ↔ ledger.Holds name) ∧
        ∀ name∈names, legalIface name=true := by
  refine readLinks_meets.bind fun got t ht => ?_
  cases got with
  | none => exact .raise ht.1
  | some names => exact .pure ⟨ht.1,ht.2 names rfl⟩

theorem ne_blank_of_legalIface {name : String} (h : legalIface name=true) : name ≠ "" := by
  rintro rfl
  exact absurd h (by decide)

theorem mem_expected_names {names : List String}
    (hlegal : ∀ name∈names, legalIface name=true) (name : String) :
    name∈expected names ↔ name∈names := by
  exact mem_expected (fun entry hentry => ⟨stripText_of_legalIface (hlegal entry hentry),
    ne_blank_of_legalIface (hlegal entry hentry)⟩) name

/-- What the retirement of links may have done since `start`. -/
structure Retired (start s : LinkSide) : Prop where
  links : ∀ name, s.host.links name = start.host.links name ∨ s.host.links name = none
  unseen : s.host.unseen = start.host.unseen
  only : ∀ name, s.ledger.Holds name → start.ledger.Holds name
  /-- A deletion is issued for a name of the ledger, and of what stood there before. -/
  log : ∀ entry ∈ s.host.deleted, entry ∈ start.host.deleted ∨ (start.ledger.Holds entry.1 ∧
      (entry.2 = some .other → start.host.links entry.1 = some .other))

theorem Retired.refl : Retired s s :=
  ⟨fun _ => .inl rfl,rfl,fun _ h => h,fun _ h => .inl h⟩

/-- The names still owned came from the ledger. -/
def Owns (start : LinkSide) (owned : List String) : Prop :=
  ∀ name ∈ owned, legalIface name = true ∧ start.ledger.Holds name

section

variable (h : Retired start s)

include h

theorem Retired.logDelete (hheld : start.ledger.Holds link) :
    Retired start { s with host := s.host.logDelete link } where
  links := h.links
  unseen := h.unseen
  only := h.only
  log := by
    intro entry hentry
    rcases mem_cons.mp hentry with rfl | hold
    · refine .inr ⟨hheld,fun hother => ?_⟩
      rcases h.links link with hsame | hnone
      · rw [← hsame]
        exact hother
      · have habs : s.host.links link=some .other := hother
        rw [hnone] at habs
        cases habs
    · exact h.log entry hold

theorem Retired.removeLink (link : String) :
    Retired start { s with host := s.host.removeLink link } where
  links := by
    intro name
    change Function.update s.host.links link none name=_ ∨
      Function.update s.host.links link none name=none
    by_cases hname : name=link
    · rw [hname,Function.update_self]
      exact .inr rfl
    · rw [Function.update_of_ne hname]
      exact h.links name
  unseen := h.unseen
  only := h.only
  log := h.log

variable (howns : Owns start owned)

include howns

theorem forgetLink_meets : Meets A (forgetLink link owned) s (Retired start) E
      fun result t => Retired start t ∧ Owns start result.2 := by
  have hrest : Owns start (owned.erase link) :=
    fun name hname => howns name (mem_of_mem_erase hname)
  have hwritten (ledger : Ledger) (hl : Rewritten (expected (owned.erase link)) s.ledger ledger) :
      Retired start { s with ledger := ledger } := by
    refine { h with only := fun name hname => ?_ }
    rcases hl.only name hname with hold | hnew
    · exact h.only name hold
    · rw [mem_expected_names fun name hname => (hrest name hname).1] at hnew
      exact (hrest name hnew).2
  exact .seq (.within (writeSet_meets (E := fun _ => False)) hwritten (fun _ hf => hf.elim)
    fun why ledger hl => .pure ⟨hwritten ledger hl.1,hrest⟩)

/-- One recorded link is deleted and forgotten, or kept with its entry. -/
theorem deleteOwnedLink_meets (hheld : start.ledger.Holds link) :
    Meets A (deleteOwnedLink link owned) s (Retired start) E
      fun result t => Retired start t ∧ Owns start result.2 := by
  have hlogged := h.logDelete hheld
  have hremoved := hlogged.removeLink link
  have hdelete : Meets A (onHost (linkDelete link)) s (Retired start) (Retired start)
      fun _ t => Retired start t :=
    .within linkDelete_meets (fun host hhost => hhost ▸ h)
      (fun host hhost => hhost.elim (fun hh => hh ▸ hlogged) fun hh => hh ▸ hremoved)
      fun _ host hhost => hhost ▸ hremoved
  refine .seq (.attempt hdelete (fun _ t ht => forgetLink_meets ht howns) fun _ t ht => ?_)
  have hprobe : Meets A (onHost (probeLink link)) t (Retired start) E fun _ u => Retired start u :=
    .within probeLink_meets (fun host hh => hh ▸ ht) (fun _ hf => hf) fun state host hh => hh.1 ▸ ht
  refine hprobe.bind fun state u hu => ?_
  cases state with
  | absent => exact forgetLink_meets hu howns
  | present => exact .pure ⟨hu,howns⟩
  | unknown => exact .pure ⟨hu,howns⟩

/-- The loop over the links to retire; what is still owned travels with it. -/
theorem retireLinks_meets {todo : List String} (htodo : ∀ link∈todo, start.ledger.Holds link) :
    Meets A (retireLinks todo owned) s (Retired start) E fun _ t => Retired start t := by
  induction todo generalizing s owned with
  | nil => exact .pure h
  | cons link rest ih =>
    refine (deleteOwnedLink_meets h howns (htodo link (by simp))).bind fun result t ht => ?_
    refine (ih ht.1 ht.2 fun name hname => htodo name (by simp [hname])).bind fun _ u hu => ?_
    exact .pure hu

end

theorem readOwned_meets : Meets A (onLedger readLinks) s (Retired s) E
    fun got t => t=s ∧ ∀ names, got=some names → Owns s names := by
  refine .within readLinks_meets (fun ledger hledger => hledger ▸ .refl) (fun _ hf => hf) ?_
  intro got ledger hledger
  refine ⟨by rw [hledger.1],fun names hnames name hname => ?_⟩
  obtain ⟨hmem,hlegal⟩ := hledger.2 names hnames
  exact ⟨hlegal name hname,(hmem name).mp hname⟩

theorem retireSupersededLinks_meets : Meets A (retireSupersededLinks seg) s (Retired s) E
    fun _ t => Retired s t := by
  refine readOwned_meets.bind fun got t ht => ?_
  obtain ⟨rfl,howns⟩ := ht
  cases got with
  | none => exact .pure .refl
  | some owned =>
    exact retireLinks_meets .refl (howns owned rfl) fun name hname =>
      (howns owned rfl name (mem_filter.mp hname).1).2

theorem clearManagedLink_meets : Meets A clearManagedLink s (Retired s) E
    fun _ t => Retired s t := by
  refine readOwned_meets.bind fun got t ht => ?_
  obtain ⟨rfl,howns⟩ := ht
  cases got with
  | none => exact .pure .refl
  | some owned =>
    exact retireLinks_meets .refl (howns owned rfl) fun name hname => (howns owned rfl name hname).2

/-- What the create step may have done. -/
structure Ensured (seg : String) (start s : LinkSide) : Prop where
  links : ∀ name, s.host.links name = start.host.links name ∨
    (name = seg ∧ start.host.links seg = none ∧ s.host.links seg = some .panel)
  deleted : s.host.deleted = start.host.deleted
  unseen : ∀ name ∈ start.host.unseen, name ∈ s.host.unseen
  /-- A name enters the ledger only when the probe did not see a device under it. -/
  only : legalIface seg = true → ∀ name, s.ledger.Holds name → start.ledger.Holds name ∨
    (name = seg ∧ (start.host.links seg = some .other → seg ∈ s.host.unseen))

theorem Ensured.refl : Ensured seg s s :=
  ⟨fun _ => .inl rfl,rfl,fun _ h => h,fun _ _ h => .inl h⟩

/-- The probe of the create step answers, or leaves a note about a device it missed. -/
theorem linkExists_meets : Meets A (onHost (linkExists seg)) s (Ensured seg s) E
    fun found t => Ensured seg s t ∧ t.ledger=s.ledger ∧ t.host.links=s.host.links ∧
      (found=false → s.host.links seg=some .other → seg∈t.host.unseen) := by
  have hprobe : Meets A (linkExists seg) s.host (fun t => t=s.host)
      (fun host => E { s with host := host }) fun found t =>
        (t=s.host ∨ t = { s.host with unseen := seg::s.host.unseen }) ∧
          (found=false → s.host.links seg=some .other → seg∈t.unseen) := by
    refine probeLink_meets.bind fun state t ht => ?_
    obtain ⟨rfl,habs,hpresent⟩ := ht
    refine .update_bind (.pure ?_)
    by_cases hmissed : state = .unknown ∧ s.host.links seg=some .other
    · rw [if_pos hmissed]
      exact ⟨.inr rfl,fun _ _ => mem_cons_self⟩
    · rw [if_neg hmissed]
      refine ⟨.inl rfl,fun hfound hother => ?_⟩
      cases state with
      | present => exact absurd hfound (by decide)
      | absent =>
        rw [habs rfl] at hother
        cases hother
      | unknown => exact absurd ⟨rfl,hother⟩ hmissed
  refine .within hprobe ?_ (fun _ hf => hf) ?_
  · intro host hhost
    rw [hhost]
    exact .refl
  · intro found host hhost
    obtain ⟨rfl | rfl,hmissed⟩ := hhost
    · exact ⟨.refl,rfl,rfl,hmissed⟩
    · refine ⟨{ Ensured.refl with unseen := ?_ },rfl,rfl,hmissed⟩
      exact fun name hname => mem_cons_of_mem _ hname

theorem linkAdd_ensured {start : LinkSide} (h : Ensured seg start s)
    (hsame : s.host.links=start.host.links) :
    Meets A (onHost (linkAdd seg)) s (Ensured seg start) (Ensured seg start)
      fun _ t => Ensured seg start t := by
  have hmade (hnone : s.host.links seg=none) :
      Ensured seg start { s with host := s.host.createLink seg } := by
    refine { h with links := ?_ }
    intro name
    change Function.update s.host.links seg (some .panel) name=_ ∨ _
    by_cases hname : name=seg
    · refine .inr ⟨hname,by rw [← hsame]; exact hnone,?_⟩
      exact Function.update_self ..
    · rw [Function.update_of_ne hname,hsame]
      exact .inl rfl
  refine .within linkAdd_meets ?_ ?_ ?_
  · intro host hhost
    rw [hhost]
    exact h
  · intro host hhost
    obtain rfl | ⟨hnone,rfl⟩ := hhost
    · exact h
    · exact hmade hnone
  · intro _ host hhost
    rw [hhost.2]
    exact hmade hhost.1

theorem ensureSegmentLink_meets : Meets A (ensureSegmentLink seg) s (Ensured seg s)
    (Ensured seg s) fun _ t => Ensured seg s t := by
  have hparse : Meets A (onLedger parseLinks) s (Ensured seg s) (Ensured seg s)
      fun names t => t=s ∧ (∀ name, name∈names ↔ s.ledger.Holds name) ∧
        ∀ name∈names, legalIface name=true :=
    .within parseLinks_meets (fun ledger hl => by rw [hl]; exact .refl)
      (fun ledger hl => by rw [hl]; exact .refl) fun names ledger hl => ⟨by rw [hl.1],hl.2⟩
  refine hparse.bind fun owned t ht => ?_
  obtain ⟨rfl,howned,hlegal⟩ := ht
  cases (parseVlan seg).2 with
  | none => exact .pure .refl
  | some vid =>
    refine linkExists_meets.bind fun found u hu => ?_
    obtain ⟨hensured,hledger,hlinks,hmissed⟩ := hu
    cases found with
    | true => exact .pure hensured
    | false =>
      unfold createSegmentLink
      by_cases hmem : seg∈owned
      · rw [if_pos hmem]
        exact linkAdd_ensured hensured hlinks
      · rw [if_neg hmem]
        have hwritten (ledger : Ledger)
            (hl : Rewritten (expected (owned++[seg])) u.ledger ledger) :
            Ensured seg t { u with ledger := ledger } := by
          rw [hledger] at hl
          refine { hensured with only := fun hseg name hname => ?_ }
          have hall : ∀ name∈owned++[seg], legalIface name=true :=
            forall_mem_append.mpr ⟨hlegal,forall_mem_singleton.mpr hseg⟩
          rcases hl.only name hname with hold | hnew
          · exact .inl hold
          · rcases mem_append.mp ((mem_expected_names hall name).mp hnew) with h | h
            · exact .inl ((howned name).mp h)
            · exact .inr ⟨mem_singleton.mp h,hmissed rfl⟩
        have hrecord : Meets A (onLedger (writeSet linkKey (owned++[seg]))) u
            (Ensured seg t) (Ensured seg t)
            fun _ v => Ensured seg t v ∧ v.host.links=t.host.links :=
          .within writeSet_meets hwritten (fun _ hf => hf)
            fun _ ledger hl => ⟨hwritten ledger hl.1,hlinks⟩
        refine hrecord.bind fun why v hv => ?_
        cases why with
        | some why => exact .raise hv.1
        | none => exact linkAdd_ensured hv.1 hv.2

end Specs

end PiGwPanel.SegmentLinks
