import PiGwPanel.SegmentCover

/-!
# The undo record and the undo of a candidate

What is said of every text of the record; a candidate that was recorded is the
candidate that is read back, a settled record holds none, and the undo of a
candidate deletes a link only on a record that says the panel created it.
-/

namespace PiGwPanel.SegmentTracking

open AnsweredProgram DurableRecords SegmentHost SegmentRuleset SegmentOwnership List Option Prog
open SegmentCover PyText

variable {ip : InterfaceText} {A : Answer → Prop} {s t : Site} {E : Site → Prop}
variable {name iface : String} {fields : List (String × FieldValue)}

/-- The candidate in an undo record. -/
def undoCandidateOf (ip : InterfaceText) (undo : Option UndoText) : Option Candidate :=
  undo.bind fun text => (decodeUndo ip text).candidate

theorem iface_of_checkedCandidateFields {found : Candidate}
    (h : checkedCandidateFields ip fields name=some found) : found.iface=name := by
  unfold checkedCandidateFields at h
  split_ifs at h
  simp only [bind_eq_bind,bind_eq_some_iff] at h
  obtain ⟨_,_,_,_,_,_,_,_,hfound⟩ := h
  rw [← some.inj hfound]

/-- What is said of an object that is not the settled one: a record that only mentions the word
fails the check of its fields. -/
theorem decodeFields_eq (h : fields≠[("resolved", .flag true)]) : decodeFields ip fields =
    (checkedCandidateIface fields).elim (unreadablePending []) fun iface =>
      (checkedCandidateFields ip fields iface).elim
        (unreadablePending (if iface = "" then [] else [iface])) fun candidate =>
          if iface = "" then ⟨none,true,⟨[],[]⟩⟩ else ⟨some candidate,false,⟨[iface],[]⟩⟩ := by
  unfold decodeFields settledUndo
  rw [if_neg h]
  by_cases hresol : (fields.lookup "resolved").isSome=true
  · cases checkedCandidateIface fields <;> simp [checkedCandidateFields,hresol]
  · rw [if_neg hresol]
    cases checkedCandidateIface fields with
    | none => rfl
    | some iface =>
      dsimp only [Option.elim]
      cases checkedCandidateFields ip fields iface <;> rfl

variable {candidate : Candidate}

/-- A candidate in a record is a candidate that was checked. -/
theorem decodeUndo_candidate {text : UndoText} (h : (decodeUndo ip text).candidate=some candidate) :
    ∃ fields, text = .record fields ∧ checkedCandidate ip fields=some candidate := by
  unfold decodeUndo at h
  cases text with
  | blank => cases h
  | unparsable => cases h
  | notRecord twice => cases twice <;> cases h
  | record fields =>
    refine ⟨fields,rfl,?_⟩
    dsimp only at h
    split_ifs at h
    · cases h
    by_cases hterm : fields=[("resolved", .flag true)]
    · rw [hterm] at h
      cases h
    rw [decodeFields_eq hterm] at h
    unfold checkedCandidate
    cases hiface : checkedCandidateIface fields with
    | none =>
      rw [hiface] at h
      cases h
    | some name =>
      rw [hiface,elim_some] at h
      cases hfields : checkedCandidateFields ip fields name with
      | none =>
        rw [hfields] at h
        cases h
      | some found =>
        rw [hfields,elim_some] at h
        split_ifs at h
        exact hfields.trans h

/-- `_pending_candidate` answers with what the record says, or that it cannot say. -/
theorem pendingCandidate_meets : Meets A (pendingCandidate ip) s (fun t => t=s) E
    fun pending t => t=s ∧ (pending=unreadablePending [] ∨
      ∃ text, s.records.undo=some text ∧ pending=decodeUndo ip text) := by
  refine readRecord_meets.bind fun got t ht => ?_
  obtain ⟨rfl,hgot⟩ := ht
  cases got with
  | none => exact .pure ⟨rfl,.inl rfl⟩
  | some text => exact .pure ⟨rfl,.inr ⟨text,(hgot.resolve_left (by simp)).symm,rfl⟩⟩

section Undo

variable {candidate : Candidate} {host : Host}

/-- What the undo of a candidate link may have done: a deletion is issued only on a record that
says the panel created the link. -/
inductive LinkUndone (candidate : Candidate) (host : Host) : Host → Prop where
  | kept : LinkUndone candidate host host
  | issued (hvlan : candidate.vlan = true) (hprior : candidate.prior = .absent) :
      LinkUndone candidate host (host.logDelete candidate.iface)
  | removed (hvlan : candidate.vlan = true) (hprior : candidate.prior = .absent) :
      LinkUndone candidate host ((host.logDelete candidate.iface).removeLink candidate.iface)

theorem undoCandidateLink_meets {restored : Managed} {F : Host → Prop} :
    Meets A (undoCandidateLink candidate restored) host (LinkUndone candidate host) F
      fun _ t => LinkUndone candidate host t := by
  unfold undoCandidateLink
  split_ifs with hsame hvlan hshape
  · exact .pure .kept
  · exact .pure .kept
  · exact .pure .kept
  have hvlan : candidate.vlan=true := Bool.not_eq_false _ ▸ hvlan
  refine (probeLink_meets.weaken (fun t ht => ht ▸ .kept) fun _ h => h).bind fun state t ht => ?_
  obtain ⟨rfl,-⟩ := ht
  cases state with
  | absent => exact .pure .kept
  | unknown => exact .pure .kept
  | present =>
    split_ifs with hprior
    · refine .seq ((linkDelete_meets.weaken (fun u hu => hu ▸ .kept) fun _ h => h).attempt ?_ ?_)
      · rintro - u rfl
        exact .pure (.removed hvlan hprior)
      · rintro - u (rfl | rfl)
        · exact .pure (.issued hvlan hprior)
        · exact .pure (.removed hvlan hprior)
    · exact .pure .kept

end Undo

section Recording

variable {data : CandidateData} {proven : Candidate}

/-- What a recorded interface name reads as. -/
def readIface (text : String) : Option String :=
  if stripText text = "" then some ""
  else if legalIface (stripText text) then some (stripText text) else none

/-- What a recorded address reads as. -/
def readAddr (ip : InterfaceText) (text : String) : Option String :=
  if stripText text = "" then some "" else checkedAddrText ip (stripText text)

/-- The fields of a candidate that is written are the ones that are looked up. -/
theorem checkedCandidate_fields (data : CandidateData) : checkedCandidate ip data.fields =
    (readIface data.iface).bind fun iface => (readAddr ip data.addr4).bind fun addr4 =>
      (readAddr ip data.addr6).bind fun addr6 =>
        some ⟨iface,addr4,addr6,data.vlan,data.linkState⟩ := by
  have hlook (key : String) (hkey : key ≠ "armed") : data.fields.lookup key =
      lookup key [("iface", FieldValue.text data.iface),("addr4", .text data.addr4),
        ("addr6", .text data.addr6),("vlan", .flag data.vlan),
        ("link_state", .text (linkStateText data.linkState))] := by
    unfold CandidateData.fields
    cases data.armed with
    | none => simp
    | some armed => simp [lookup_cons,beq_eq_false_iff_ne.mpr hkey]
  have hprior : checkedPriorLinkState data.fields=some data.linkState := by
    unfold checkedPriorLinkState checkedLinkState checkedFlag checkedText
    rw [hlook "link_state" (by decide),hlook "link_existed" (by decide)]
    cases data.linkState <;> rfl
  unfold checkedCandidate checkedCandidateFields checkedCandidateIface checkedAddr checkedFlag
    checkedText
  rw [hprior,hlook "iface" (by decide),hlook "addr4" (by decide),hlook "addr6" (by decide),
    hlook "vlan" (by decide),hlook "resolved" (by decide)]
  simp [lookup_cons,readIface,readAddr]

theorem checkedAddrText_strip {addr spelling : String} (h : checkedAddrText ip addr=some spelling) :
    stripText spelling=spelling ∧ checkedAddrText ip spelling=some spelling ∧ spelling ≠ "" := by
  obtain ⟨hself,hsplit⟩ := checkedAddrText_eq_some h
  have hmem : spelling∈splitText spelling := by
    rw [hsplit]
    exact mem_singleton.mpr rfl
  exact ⟨stripText_of_mem_splitText hmem,hself,ne_blank_of_split hsplit⟩

theorem readAddr_self {text addr : String} (h : readAddr ip text=some addr) :
    readAddr ip addr=some addr := by
  unfold readAddr at h ⊢
  split_ifs at h
  · obtain rfl := some.inj h
    rw [if_pos (by decide)]
  · obtain ⟨hstrip,hself,hne⟩ := checkedAddrText_strip h
    rw [hstrip,if_neg hne,hself]

/-- The addresses of a dictionary in the spelling that was checked. -/
def respelled (proven : Candidate) (fields : List (String × FieldValue)) :
    List (String × FieldValue) :=
  fields.map fun field => (field.1, if field.1 = "addr4" then .text proven.addr4
    else if field.1 = "addr6" then .text proven.addr6 else field.2)

theorem lookup_respelled (key : String) : (respelled proven fields).lookup key =
    (fields.lookup key).map fun value => if key = "addr4" then .text proven.addr4
      else if key = "addr6" then .text proven.addr6 else value := by
  induction fields with
  | nil => rfl
  | cons field rest ih =>
    have hcons : respelled proven (field::rest)=(field.1, _)::respelled proven rest := rfl
    rw [hcons,lookup_cons,lookup_cons]
    by_cases hkey : key=field.1
    · simp [hkey]
    · simp [beq_eq_false_iff_ne.mpr hkey,ih]

theorem checkedAddr_respelled {key addr : String} (h : checkedAddr ip fields key=some addr)
    {after : List (String × FieldValue)}
    (hafter : after.lookup key=(fields.lookup key).map fun _ => .text addr) :
    checkedAddr ip after key=some addr := by
  unfold checkedAddr checkedText at h ⊢
  rw [hafter]
  cases hval : fields.lookup key with
  | none =>
    rw [hval] at h
    exact h
  | some value =>
    rw [hval] at h
    cases value with
    | text value => exact readAddr_self (show readAddr ip value=_ from h)
    | _ => cases h

/-- The dictionary that is written reads as the one that was checked. -/
theorem checkedCandidateFields_respelled (h : checkedCandidateFields ip fields iface=some proven) :
    checkedCandidateFields ip (respelled proven fields) iface=some proven := by
  have hsame {key : String} (h4 : key ≠ "addr4") (h6 : key ≠ "addr6") :
      (respelled proven fields).lookup key=fields.lookup key := by
    rw [lookup_respelled]
    simp [h4,h6]
  unfold checkedCandidateFields at h ⊢
  split_ifs at h with hresol
  simp only [bind_eq_bind,bind_eq_some_iff] at h
  obtain ⟨addr4,haddr4,addr6,haddr6,vlan,hvlan,prior,hprior,hproven⟩ := h
  obtain rfl := some.inj hproven
  have hprior' : checkedPriorLinkState (respelled ⟨iface,addr4,addr6,vlan=some true,prior⟩ fields) =
      some prior := by
    rw [← hprior]
    unfold checkedPriorLinkState checkedLinkState checkedFlag checkedText
    rw [hsame (by decide) (by decide),hsame (by decide) (by decide)]
  have hvlan' : checkedFlag (respelled ⟨iface,addr4,addr6,vlan=some true,prior⟩ fields) "vlan" =
      some vlan := by
    rw [← hvlan]
    unfold checkedFlag
    rw [hsame (by decide) (by decide)]
  rw [hsame (by decide) (by decide),if_neg hresol,hprior',hvlan',
    checkedAddr_respelled haddr4 (lookup_respelled "addr4"),
    checkedAddr_respelled haddr6 (lookup_respelled "addr6")]
  rfl

theorem checkedCandidateIface_respelled :
    checkedCandidateIface (respelled proven fields)=checkedCandidateIface fields := by
  unfold checkedCandidateIface checkedText
  rw [lookup_respelled]
  simp

theorem checkedCandidate_respelled (h : checkedCandidate ip fields=some proven) :
    checkedCandidate ip (respelled proven fields)=some proven := by
  unfold checkedCandidate at h ⊢
  obtain ⟨iface,hiface,hfields⟩ := bind_eq_some_iff.mp h
  rw [checkedCandidateIface_respelled,hiface]
  exact checkedCandidateFields_respelled hfields

/-- A candidate that is written with its addresses spelled reads as what was checked. -/
theorem checkedCandidate_spelled (h : checkedCandidate ip data.fields=some proven) :
    checkedCandidate ip (data.spelled proven).fields=some proven := by
  have hfields : (data.spelled proven).fields=respelled proven data.fields := by
    unfold CandidateData.fields
    cases h : data.armed <;> simp [CandidateData.spelled,respelled,h]
  rw [hfields]
  exact checkedCandidate_respelled h

/-- What settling an undo record may have made of it. -/
def Settled (s t : Site) : Prop :=
  ∃ undo, t = { s with records := { s.records with undo := undo } } ∧
    (undo = s.records.undo ∨ undo = some resolvedUndo ∨ undo = some .blank)

theorem Settled.refl : Settled s s := ⟨s.records.undo,rfl,.inl rfl⟩

theorem clearProvisionCandidate_meets :
    Meets A clearProvisionCandidate s (Settled s) E fun _ t => Settled s t := by
  have hwritten (t : Site) (ht : Written undoSlot resolvedUndo s t) : Settled s t := by
    obtain rfl | rfl := ht
    · exact .refl
    · exact ⟨some resolvedUndo,rfl,.inr (.inl rfl)⟩
  have hblank (t u : Site) (ht : Settled s t) (hu : Written undoSlot .blank t u) : Settled s u := by
    obtain ⟨undo,rfl,hundo⟩ := ht
    obtain rfl | rfl := hu
    · exact ⟨undo,rfl,hundo⟩
    · exact ⟨some .blank,rfl,.inr (.inr rfl)⟩
  have hclear : Meets A (clearRecord undoSlot resolvedUndo .blank) s (Settled s) E
      fun _ t => Settled s t := by
    refine (writeRecord_meets.weaken hwritten fun _ h => h).bind fun why t ht => ?_
    cases why with
    | some why => exact .pure (hwritten t ht.1)
    | none =>
      have hsettled := hwritten t ht.1
      exact (blank_meets.weaken (fun u hu => hblank t u hsettled hu) fun _ h => h).bind fun _ u hu => .pure (hblank t u hsettled hu)
  exact hclear.bind fun _ t ht => .pure ht

theorem Settled.undoCandidateOf (h : Settled s t)
    (hcand : undoCandidateOf ip t.records.undo=some candidate) : t.records.undo=s.records.undo := by
  obtain ⟨undo,rfl,rfl | rfl | rfl⟩ := h
  · rfl
  · cases hcand
  · cases hcand

/-- What recording a candidate may have written. -/
def CandidateWritten (ip : InterfaceText) (data : CandidateData) (s t : Site) : Prop :=
  t = s ∨ ∃ proven, checkedCandidate ip data.fields = some proven ∧
    t = undoSlot.put (.record (data.spelled proven).fields) s

/-- A candidate is recorded once `record_provision_candidate` returns. -/
theorem recordProvisionCandidate_meets : Meets A (recordProvisionCandidate ip (some data)) s
    (CandidateWritten ip data s) (CandidateWritten ip data s)
    fun _ t => CandidateWritten ip data s t ∧ ∃ proven,
      checkedCandidate ip data.fields=some proven ∧
      t.records.undo=some (.record (data.spelled proven).fields) := by
  unfold recordProvisionCandidate
  dsimp only
  split
  · exact .raise (.inl rfl)
  · next proven hproven =>
    have hwritten (t : Site) (ht : Written undoSlot (.record (data.spelled proven).fields) s t) :
        CandidateWritten ip data s t := ht.imp id fun h => ⟨proven,hproven,h⟩
    refine (writeRecord_meets.weaken hwritten fun _ h => h).bind fun why t ht => ?_
    cases why with
    | some why => exact .raise (hwritten t ht.1)
    | none => exact .pure ⟨hwritten t ht.1,proven,hproven,ht.2 rfl⟩

theorem undoCandidateOf_recorded (hproven : checkedCandidate ip data.fields=some proven)
    (h : undoCandidateOf ip (some (.record (data.spelled proven).fields))=some candidate) :
    candidate=proven := by
  have hspelled := checkedCandidate_spelled hproven
  unfold undoCandidateOf at h
  obtain ⟨fields,hfields,hchk⟩ := decodeUndo_candidate h
  rw [← UndoText.record.inj hfields,hspelled] at hchk
  exact (some.inj hchk).symm

end Recording

section Classification

/-! ### Every text of the record, and a candidate that is any dictionary -/

variable {proven : Candidate}

/-- `pending_candidate_state` on the text of the record. -/
def pendingCandidateState (ip : InterfaceText) (text : UndoText) : Cover := (decodeUndo ip text).cover

/-- A record in the panel's own form that names no interface. -/
def NamesNothing (ip : InterfaceText) (text : UndoText) : Prop :=
  ∃ fields candidate, text = .record fields ∧ namesTwice fields = false ∧
    checkedCandidate ip fields = some candidate ∧ candidate.iface = ""

/-- `record_provision_candidate` on any dictionary; an empty one is not recorded. -/
def recordCandidate (ip : InterfaceText) (fields : List (String × FieldValue)) : SiteProg Unit :=
  match fields, checkedCandidate ip fields with
  | [], _ => pure ()
  | _, none => Prog.raise .runtimeError
  | _, some proven => do
    match ← writeRecord undoSlot (.record (respelled proven fields)) with
    | some _ => Prog.raise .runtimeError
    | none => pure ()

theorem namesTwice_respelled (h : namesTwice fields=false) :
    namesTwice (respelled proven fields)=false := by
  unfold namesTwice at h ⊢
  rw [Bool.or_eq_false_iff,Bool.not_eq_false',decide_eq_true_eq,List.any_eq_false] at h ⊢
  refine ⟨?_,fun field hfield => ?_⟩
  · unfold respelled
    rw [List.map_map]
    exact h.1
  · obtain ⟨old,hold,rfl⟩ := mem_map.mp hfield
    split_ifs
    · simp
    · simp
    · exact h.2 old hold

/-- A candidate that names an interface is read back from what is written of it. -/
theorem decodeUndo_respelled (htwice : namesTwice fields=false)
    (h : checkedCandidate ip fields=some proven) (hne : proven.iface ≠ "") :
    decodeUndo ip (.record (respelled proven fields)) =
      ⟨some proven,false,⟨[proven.iface],[]⟩⟩ := by
  obtain ⟨iface,hiface,hfields⟩ := bind_eq_some_iff.mp h
  obtain rfl := iface_of_checkedCandidateFields hfields
  have hafter := checkedCandidateFields_respelled hfields
  have hterm : respelled proven fields≠[("resolved", .flag true)] := by
    intro hterm
    rw [hterm] at hafter
    cases hafter
  unfold decodeUndo
  dsimp only
  rw [namesTwice_respelled htwice,if_neg Bool.false_ne_true,decodeFields_eq hterm,
    checkedCandidateIface_respelled,hiface,elim_some,hafter,elim_some,if_neg hne]

/-- Which objects answer completely and name nothing. -/
theorem mayNarrow_decodeFields_iff : (decodeFields ip fields).cover.mayNarrow=true ↔
    fields=[("resolved", .flag true)] ∨
      ∃ candidate, checkedCandidate ip fields=some candidate ∧ candidate.iface = "" := by
  by_cases hterm : fields=[("resolved", .flag true)]
  · exact iff_of_true (by rw [hterm]; rfl) (.inl hterm)
  rw [or_iff_right hterm,decodeFields_eq hterm]
  unfold checkedCandidate
  cases hiface : checkedCandidateIface fields with
  | none => simp [Cover.mayNarrow,unreadablePending]
  | some iface =>
    cases hfields : checkedCandidateFields ip fields iface with
    | none => simp [Cover.mayNarrow,unreadablePending,hfields]
    | some found =>
      have hname := iface_of_checkedCandidateFields hfields
      simp only [elim_some,bind_eq_bind,bind_some,hfields,some.injEq,exists_eq_left',hname]
      by_cases hblank : iface = "" <;> simp [Cover.mayNarrow,hblank]

/-- An interface that can be read is named, whatever else the object holds. -/
theorem mem_names_decodeFields (h : checkedCandidateIface fields=some iface) (hne : iface ≠ "") :
    iface∈(decodeFields ip fields).cover.names := by
  have hterm : fields≠[("resolved", .flag true)] := by
    rintro rfl
    exact hne (some.inj h).symm
  rw [decodeFields_eq hterm,h,elim_some]
  cases checkedCandidateFields ip fields iface <;> simp [unreadablePending,hne]

theorem recordCandidate_meets (ip : InterfaceText) (fields : List (String × FieldValue)) (s : Site) :
    Meets (fun _ => True) (recordCandidate ip fields) s (fun _ => True) (fun _ => True) fun _ t =>
      ∀ proven, checkedCandidate ip fields=some proven → fields≠[] →
        t.records.undo=some (.record (respelled proven fields)) := by
  unfold recordCandidate
  split
  · exact .pure fun _ _ hne => absurd rfl hne
  · exact .raise trivial
  · next proven _ hproven =>
    refine (writeRecord_meets.weaken (fun _ _ => trivial) fun _ h => h).bind fun why t ht => ?_
    cases why with
    | some why => exact .raise trivial
    | none =>
      refine .pure fun other hother _ => ?_
      obtain rfl := some.inj (hproven.symm.trans hother)
      exact ht.2 rfl

/-- A stored text answers completely and names no interface exactly when it is blank, the settled
record, or a record in the panel's form whose interface is blank; an object that names no key twice
is covered by the interface it names, whatever else it holds; and a candidate that names an
interface and is accepted is the candidate that is read back. -/
theorem pending_undo_classified (ip : InterfaceText) :
    (∀ text, (pendingCandidateState ip text).mayNarrow = true ↔
      text = .blank ∨ text = resolvedUndo ∨ NamesNothing ip text) ∧
    (∀ fields value, namesTwice fields = false → fields.lookup "iface" = some (.text value) →
      stripText value ≠ "" → legalIface (stripText value) = true →
      stripText value ∈ (pendingCandidateState ip (.record fields)).names) ∧
    ∀ fields proven s answers, namesTwice fields = false → checkedCandidate ip fields = some proven →
      proven.iface ≠ "" → (recordCandidate ip fields answers s).outcome = .done () →
      ∃ text, (recordCandidate ip fields answers s).state.records.undo = some text ∧
        (decodeUndo ip text).candidate = some proven := by
  refine ⟨fun text => ?_,fun fields value htwice hval hne hlegal => ?_,
    fun fields proven s answers htwice hproven hne hdone => ?_⟩
  · unfold pendingCandidateState
    cases text with
    | blank => exact iff_of_true rfl (.inl rfl)
    | unparsable => simp [decodeUndo,Cover.mayNarrow,resolvedUndo,NamesNothing]
    | notRecord twice =>
      cases twice <;> simp [decodeUndo,Cover.mayNarrow,unreadablePending,resolvedUndo,NamesNothing]
    | record fields =>
      unfold decodeUndo
      dsimp only
      cases htwice : namesTwice fields with
      | true =>
        have hterm : fields≠[("resolved", .flag true)] := by
          rintro rfl
          cases htwice
        simp [Cover.mayNarrow,unreadablePending,resolvedUndo,NamesNothing,htwice,hterm]
      | false =>
        rw [if_neg Bool.false_ne_true,mayNarrow_decodeFields_iff]
        simp [resolvedUndo,NamesNothing,htwice]
  · unfold pendingCandidateState decodeUndo
    dsimp only
    rw [htwice,if_neg Bool.false_ne_true]
    refine mem_names_decodeFields ?_ hne
    unfold checkedCandidateIface checkedText
    rw [hval]
    simp [hne,hlegal]
  · have hend := (recordCandidate_meets ip fields s answers fun _ _ => trivial).2
    rw [hdone] at hend
    have hfilled : fields≠[] := by
      rintro rfl
      cases hproven
      exact hne rfl
    refine ⟨_,hend proven hproven hfilled,?_⟩
    rw [decodeUndo_respelled htwice hproven hne]

end Classification

end PiGwPanel.SegmentTracking
