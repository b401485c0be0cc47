import PiGwPanel.SegmentLinks

/-!
# The addresses the panel owns on the segment

Three scalars name the interface and the addresses the last pass claimed, and a
ledger names the pairs that are still owed a removal. A reconcile writes and
proves all four before it touches the kernel, and a pair leaves the ledger only
when the host has shown it gone. Whatever stops a reconcile, an address that is
still up is still named.
-/

namespace PiGwPanel.SegmentOwnership

open AnsweredProgram DurableRecords SegmentHost SegmentRuleset SegmentLinks PyText List Option Prog

/-- How `ipaddress.ip_interface` reads text: the `with_prefixlen` of what it read, and its version. -/
structure InterfaceText where
  interface : String → Option (String × ℕ)
  /-- That spelling is one token with a prefix length and no scope, and reads as itself. -/
  spelled : ∀ {text spelling version}, interface text = some (spelling, version) →
    interface spelling = some (spelling, version) ∧ splitText spelling = [spelling] ∧
      '/' ∈ spelling.toList ∧ '%' ∉ spelling.toList

section Decoding

variable (ip : InterfaceText)

/-- `_checked_addr_text`: the one spelling of an address with a prefix length. -/
def checkedAddrText (addr : String) : Option String :=
  if splitText addr = [addr] ∧ '/' ∈ addr.toList ∧ '%' ∉ addr.toList then
    (ip.interface addr).map Prod.fst
  else none

/-- `_checked_family_addr`: the same, of the family its record names. -/
def checkedFamilyAddr (family : ℕ) (addr : String) : Option String := do
  let spelling ← checkedAddrText ip addr
  if (ip.interface spelling).map Prod.snd = some family then some spelling else none

/-- `_canonical_addr`: that spelling, or the text itself when it is no address. -/
def canonicalAddr (addr : String) : String :=
  if '/' ∈ addr.toList ∧ '%' ∉ addr.toList then
    match ip.interface addr with
    | some (spelling, _) => spelling
    | none => addr
  else addr

/-- One entry of a pair ledger as its two tokens. -/
def pairOf (line : String) : Option Pair :=
  match splitText line with
  | [iface, addr] => some (iface, addr)
  | _ => none

/-- `Record.pairs`: every entry of the ledger, or none of them. -/
def pairsOf (lines : List String) : Option (List Pair) := (lines.mapM pairOf).map List.eraseDups

/-- The text of one pair. -/
def entry (pair : Pair) : String := pair.1 ++ " " ++ pair.2

/-- A pair as the boundary accepts it: an interface name and an address in its one spelling. -/
def checkedPair (pair : Pair) : Option Pair :=
  if legalIface pair.1 then (checkedAddrText ip pair.2).map fun addr => (pair.1, addr) else none

/-- What came of reading one scalar. -/
inductive Scalar where
  /-- The store would not answer. -/
  | unreadable
  /-- The store answered with something that is not text. -/
  | notText
  | text (text : String)

/-- `Ownership`, for records that could be read. -/
structure Ownership where
  (iface addr4 addr6 : String)
  stale : List Pair
  /-- Ledger entries kept as they came. -/
  retained : List Pair
  invalid : List Why
  ifaceUnusable : Bool

/-- `Ownership.iface_or`. -/
def Ownership.ifaceOr (own : Ownership) (fallback : String) : String :=
  if own.ifaceUnusable then "" else if own.iface = "" then fallback else own.iface

/-- The interface scalar: the name it holds, and whether it holds something that is none. -/
def ifaceOf : Scalar → String × Bool
  | .text text => if text = "" then ("", false) else if legalIface text then (text, false) else ("", true)
  | _ => ("", true)

/-- An address scalar: the address it holds, and whether it holds something that is none. -/
def addrOf (family : ℕ) : Scalar → String × Bool
  | .text text =>
    if text = "" then ("", false)
    else match checkedFamilyAddr ip family text with
      | some addr => (addr, false)
      | none => ("", true)
  | _ => ("", true)

/-- The records as `_read_ownership` decodes them, once all of them could be read. -/
def decodeOwnership (iface addr4 addr6 : Scalar) (pairs : List Pair) : Ownership where
  iface := (ifaceOf iface).1
  addr4 := (addrOf ip 4 addr4).1
  addr6 := (addrOf ip 6 addr6).1
  stale := pairs.filterMap (checkedPair ip)
  retained := pairs.filter fun pair => checkedPair ip pair = none
  invalid := (if (ifaceOf iface).2 then [.invalidScalar "managed_segment_iface"] else []) ++
    (if (addrOf ip 4 addr4).2 then [.invalidScalar "managed_segment_addr4"] else []) ++
    (if (addrOf ip 6 addr6).2 then [.invalidScalar "managed_segment_addr6"] else [])
  ifaceUnusable := (ifaceOf iface).2

end Decoding

/-- The ownership records together with the host; a scalar is represented by its stripped text. -/
structure OwnSide where
  (iface addr4 addr6 : Option String)
  stale : Ledger
  host : Host

/-- Programs over the ownership records and the host. -/
abbrev OwnProg (α : Type) := Prog Answer OwnSide Raised α

section Operations

/-- `managed_segment_iface`. -/
def ifaceSlot : Slot OwnSide String where
  key := "managed_segment_iface"
  get := OwnSide.iface
  put := fun text s => { s with iface := some text }

/-- `managed_segment_addr4`. -/
def addr4Slot : Slot OwnSide String where
  key := "managed_segment_addr4"
  get := OwnSide.addr4
  put := fun text s => { s with addr4 := some text }

/-- `managed_segment_addr6`. -/
def addr6Slot : Slot OwnSide String where
  key := "managed_segment_addr6"
  get := OwnSide.addr6
  put := fun text s => { s with addr6 := some text }

/-- `STALE_KEY`. -/
def staleKey : String := "managed_segment_stale"

/-- Run a program on the stale ledger. -/
def onStale {α : Type} (m : Prog Answer Ledger Raised α) : OwnProg α :=
  Prog.on OwnSide.stale (fun stale s => { s with stale := stale }) m

/-- Run a host program. -/
def onOwnHost {α : Type} (m : HostProg α) : OwnProg α :=
  Prog.on OwnSide.host (fun host s => { s with host := host }) m

/-- `_read_scalar`. -/
def readScalar {σ : Type} (slot : Slot σ String) : Prog Answer σ Raised Scalar := do
  match ← storeGet slot with
  | none => pure .unreadable
  | some none => pure .notText
  | some (some text) => pure (.text text)

/-- `_read_pairs`. -/
def readPairs (key : String) : Prog Answer Ledger Raised (Option (List Pair)) := do
  match ← readSet key with
  | none => pure none
  | some lines => pure (pairsOf lines)

section

variable (ip : InterfaceText) (plan : SegmentPlan) (own : Ownership)

/-- `_read_ownership`: the four records decoded, or nothing when one of them could not be read. -/
def readOwnership : OwnProg (Option Ownership) := do
  let iface ← readScalar ifaceSlot
  let addr4 ← readScalar addr4Slot
  let addr6 ← readScalar addr6Slot
  let pairs ← onStale (readPairs staleKey)
  match iface, addr4, addr6, pairs with
  | .unreadable, _, _, _ => pure none
  | _, .unreadable, _, _ => pure none
  | _, _, .unreadable, _ => pure none
  | _, _, _, none => pure none
  | iface, addr4, addr6, some pairs => pure (some (decodeOwnership ip iface addr4 addr6 pairs))

/-- The refusals of `_ledger_entries`: pairs that would not read back as pairs. -/
def refusedEntries (pairs : List Pair) : List Why :=
  (pairs.filter fun pair => splitText (entry pair) ≠ [pair.1, pair.2]).map fun pair =>
    .notOneEntry staleKey pair.1 pair.2

/-- The scalar half of `_record_ownership`. -/
def recordScalars (iface addr4 addr6 : String) : OwnProg (List Why) := do
  let first ← writeRecord ifaceSlot iface
  let second ← writeRecord addr4Slot addr4
  let third ← writeRecord addr6Slot addr6
  pure (first.toList ++ second.toList ++ third.toList)

/-- `_record_ownership`: the ledger first, proven, then the scalars. -/
def recordOwnership (iface addr4 addr6 : String) (pairs : List Pair) : OwnProg (List Why) :=
  match refusedEntries pairs with
  | why :: more => pure (why :: more)
  | [] => do
    match ← onStale (writeSet staleKey (pairs.map entry)) with
    | some why => pure [why]
    | none => recordScalars iface addr4 addr6

/-- `_distinct`. -/
def distinct (pairs drop : List Pair) : List Pair :=
  (pairs.filter fun pair => pair.1 ≠ "" ∧ pair.2 ≠ "" ∧ pair ∉ drop).eraseDups

/-- The probe after a delete that was refused. -/
def probeRefused (pair : Pair) : HostProg (Option Why) := do
  match ← probeAddr pair with
  | .absent => pure none
  | .present => pure (some (.addressRemains pair.1 pair.2 .present))
  | .unknown => pure (some (.addressRemains pair.1 pair.2 .unknown))

/-- `_retire_owned_addr`. -/
def retireOwnedAddr (pair : Pair) : HostProg (Option Why) := do
  match ← Prog.attempt (addrDel pair) with
  | .ok _ => pure none
  | .error .calledProcessError => probeRefused pair
  | .error e => Prog.raise e

/-- The loop of `_retire_owned`: the pairs to keep recorded, and why. -/
def retireEach : List Pair → HostProg (List Pair × List Why)
  | [] => pure ([], [])
  | pair :: rest => do
    let reason ← retireOwnedAddr pair
    let (keep, reasons) ← retireEach rest
    match reason with
    | none => pure (keep, reasons)
    | some why => pure (pair :: keep, why :: reasons)

/-- `_retire_owned`. -/
def retireOwned (pairs protected_ : List Pair) : HostProg (List Pair × List Why) :=
  retireEach (distinct pairs protected_)

/-- The part of a plan that addresses the segment; an address that is not wanted is blank. -/
structure SegmentPlan where
  (iface addr4 addr6 : String)
  deriving DecidableEq, Repr

/-- `_desired_pairs`. -/
def SegmentPlan.desired : List Pair :=
  ([(plan.iface, plan.addr4), (plan.iface, plan.addr6)]).filter fun pair =>
    pair.1 ≠ "" ∧ pair.2 ≠ ""

/-- The claimed pairs that a plan supersedes. -/
def supersededPairs (plan : SegmentPlan) : List Pair :=
  let old := own.ifaceOr plan.iface
  (if old ≠ "" ∧ own.addr4 ≠ "" ∧ (own.addr4 ≠ plan.addr4 ∨ old ≠ plan.iface) then
    [(old, own.addr4)] else []) ++
  (if old ≠ "" ∧ own.addr6 ≠ "" ∧ (own.addr6 ≠ plan.addr6 ∨ old ≠ plan.iface) then
    [(old, own.addr6)] else [])

/-- The write-ahead set of a reconcile: what is owed a removal once the plan is on. -/
def staleSet (plan : SegmentPlan) : List Pair :=
  let recorded := distinct own.stale plan.desired
  recorded ++ distinct (supersededPairs own plan) (plan.desired ++ recorded)

/-- One `ip addr replace` of a reconcile; only a refusal by the kernel is caught. -/
def putAddress (pair : Pair) : HostProg (Option Why) := do
  match ← Prog.attempt (addrReplace pair) with
  | .ok _ => pure none
  | .error .calledProcessError => pure (some (.notInstalled pair.1 pair.2))
  | .error e => Prog.raise e

/-- The second replacement, when the plan has one. -/
def putAddress6 : HostProg (Option Why) :=
  if plan.addr6 = "" then pure none else putAddress (plan.iface, plan.addr6)

/-- Both replacements, stopping at the first that is refused. -/
def putAddresses : HostProg (Option Why) := do
  match ← putAddress (plan.iface, plan.addr4) with
  | some why => pure (some why)
  | none => putAddress6 plan

/-- `AddressOutcome`. -/
structure AddressOutcome where
  applied : Bool
  reasons : List Why

/-- `_backlog_warning`. -/
def backlogWarning (kept : List Pair) : List Why :=
  if kept.length < 8 then [] else [.backlog kept.length]

/-- The end of a reconcile: retire what was superseded and record what is left. -/
def settleAddresses : OwnProg AddressOutcome := do
  let (keep, reasons) ← onOwnHost (retireOwned (staleSet own plan) plan.desired)
  let unwritten ← recordOwnership plan.iface plan.addr4 plan.addr6 (keep ++ own.retained)
  pure ⟨true, own.invalid ++ reasons ++ unwritten ++ backlogWarning keep⟩

/-- The installation of a reconcile, once the records are proven. -/
def installAddresses : OwnProg AddressOutcome := do
  match ← onOwnHost (putAddresses plan) with
  | some why => pure ⟨false, own.invalid ++ [why]⟩
  | none => settleAddresses plan own

/-- `reconcile_segment_addresses`. -/
def reconcileSegmentAddresses : OwnProg AddressOutcome := do
  match ← readOwnership ip with
  | none => pure ⟨false, [.notReadable staleKey]⟩
  | some own =>
    match ← recordOwnership plan.iface plan.addr4 plan.addr6
        (staleSet own plan ++ own.retained) with
    | why :: more => pure ⟨false, own.invalid ++ why :: more⟩
    | [] => installAddresses plan own

/-- The pairs the records claim as the segment's. -/
def Ownership.current : List Pair :=
  if own.iface = "" then [] else [(own.iface, own.addr4), (own.iface, own.addr6)]

/-- `clear_managed_addresses`. -/
def clearManagedAddresses : OwnProg (List Why) := do
  match ← readOwnership ip with
  | none => pure [.notReadable staleKey]
  | some own => do
    let (keep, reasons) ← onOwnHost (retireOwned (own.stale ++ own.current) [])
    let unwritten ← recordOwnership "" "" "" (keep ++ own.retained)
    pure (own.invalid ++ reasons ++ unwritten ++ backlogWarning keep)

end

end Operations

variable {pairs : List Pair} {addr spelling : String} {ledger : Ledger}

section Naming

variable {ip : InterfaceText} {s t : OwnSide} {pair : Pair}

theorem checkedAddrText_eq_some (h : checkedAddrText ip addr=some spelling) :
    checkedAddrText ip spelling=some spelling ∧ splitText spelling=[spelling] := by
  unfold checkedAddrText at h
  split_ifs at h with hshape
  obtain ⟨⟨found,version⟩,hread,hfound⟩ := map_eq_some_iff.mp h
  obtain rfl : found=spelling := hfound
  obtain ⟨hself,hsplit,hslash,hscope⟩ := ip.spelled hread
  refine ⟨?_,hsplit⟩
  unfold checkedAddrText
  rw [if_pos ⟨hsplit,hslash,hscope⟩,hself]
  rfl

theorem ne_blank_of_split {text : String} (h : splitText text=[text]) : text ≠ "" := by
  rintro rfl
  exact absurd h (by decide)

/-- What an entry of a ledger yields: the pair in its one spelling, or as it came. -/
def yielded (ip : InterfaceText) (found : Pair) : Pair := (checkedPair ip found).getD found

/-- A ledger of pairs yields one. -/
def LedgerYields (ip : InterfaceText) (ledger : Ledger) (pair : Pair) : Prop :=
  ∃ line found, ledger.Holds line ∧ pairOf line = some found ∧ yielded ip found = pair

/-- An address scalar holds an address of its family. -/
def InSlot (ip : InterfaceText) (family : ℕ) (slot : Option String) (addr : String) : Prop :=
  ∃ text, slot = some text ∧ checkedFamilyAddr ip family text = some addr

/-- The scalars yield a pair; under a blank interface the addresses can only be on the fallback. -/
def ScalarsYield (ip : InterfaceText) (fallback : String) (s : OwnSide) (pair : Pair) : Prop :=
  pair.1 ≠ "" ∧ ((s.iface = some pair.1 ∧ legalIface pair.1 = true) ∨
    (s.iface = some "" ∧ pair.1 = fallback)) ∧
  (InSlot ip 4 s.addr4 pair.2 ∨ InSlot ip 6 s.addr6 pair.2)

theorem yielded_self (h : checkedAddrText ip pair.2=some pair.2) : yielded ip pair=pair := by
  unfold yielded checkedPair
  split_ifs
  · rw [h]
    rfl
  · rfl

/-- A ledger that holds the expected entries yields the pairs they are made of. -/
theorem ledgerYields_of_expected
    (hall : ∀ line∈expected (pairs.map entry), ledger.Holds line) (hmem : pair∈pairs)
    (hentry : splitText (entry pair)=[pair.1,pair.2]) (hself : yielded ip pair=pair) :
    LedgerYields ip ledger pair := by
  have hread : pairOf (stripText (entry pair))=some pair := by
    unfold pairOf
    rw [splitText_stripText,hentry]
  refine ⟨_,pair,hall _ (mem_expected_iff.mpr ⟨?_,_,mem_map_of_mem hmem,rfl⟩),hread,hself⟩
  intro hblank
  have hnone : pairOf "" = none := by decide
  rw [hblank,hnone] at hread
  cases hread

end Naming

section Reading

variable {ip : InterfaceText} {A : Answer → Prop} {s : OwnSide} {E : OwnSide → Prop}

/-- What ownership as it is read says about the records. -/
structure Read (ip : InterfaceText) (s : OwnSide) (own : Ownership) : Prop where
  ledger : ∀ pair, LedgerYields ip s.stale pair → pair ∈ own.stale ∨ pair ∈ own.retained
  stale : ∀ pair ∈ own.stale, pair.1 ≠ "" ∧ checkedAddrText ip pair.2 = some pair.2
  retained : ∀ pair ∈ own.retained, yielded ip pair = pair
  scalars : ∀ fallback pair, ScalarsYield ip fallback s pair →
    own.ifaceOr fallback = pair.1 ∧ (own.addr4 = pair.2 ∨ own.addr6 = pair.2)
  addrs : ∀ addr, addr = own.addr4 ∨ addr = own.addr6 → addr ≠ "" →
    checkedAddrText ip addr = some addr

/-- A traversal that succeeds has the values of its elements, and one for each. -/
theorem mem_mapM {α β : Type} {f : α → Option β} {xs : List α} {ys : List β}
    (h : xs.mapM f=some ys) : (∀ y, y∈ys ↔ ∃ x∈xs, f x=some y) ∧ ∀ x∈xs, ∃ y, f x=some y := by
  induction xs generalizing ys with
  | nil =>
    obtain rfl : []=ys := some.inj h
    simp
  | cons x rest ih =>
    rw [mapM_cons] at h
    obtain ⟨found,hfound,hmore⟩ := bind_eq_some_iff.mp h
    obtain ⟨more,hrest,hys⟩ := bind_eq_some_iff.mp hmore
    obtain rfl : found::more=ys := some.inj hys
    obtain ⟨hmem,hall⟩ := ih hrest
    refine ⟨fun y => ?_,forall_mem_cons.mpr ⟨⟨found,hfound⟩,hall⟩⟩
    rw [mem_cons,hmem,exists_mem_cons_iff,hfound,some.injEq]
    exact or_congr eq_comm Iff.rfl

theorem mem_pairsOf {lines : List String} (h : pairsOf lines=some pairs)
    (pair : Pair) : pair∈pairs ↔ ∃ line∈lines, pairOf line=some pair := by
  obtain ⟨all,hall,rfl⟩ := map_eq_some_iff.mp h
  rw [mem_eraseDups]
  exact (mem_mapM hall).1 pair

theorem readPairs_meets {key : String} {E : Ledger → Prop} :
    Meets A (readPairs key) ledger (fun t => t=ledger) E fun got t => t=ledger ∧
      ∀ pairs, got=some pairs → ∀ pair, pair∈pairs ↔
        ∃ line, ledger.Holds line ∧ pairOf line=some pair := by
  refine readSet_meets.bind fun got t ht => ?_
  obtain ⟨rfl,hgot⟩ := ht
  cases got with
  | none => exact .pure ⟨rfl,nofun⟩
  | some lines =>
    obtain ⟨found,hfound,hlines⟩ := hgot.resolve_left (by simp)
    obtain rfl : lines=found := some.inj hfound
    refine .pure ⟨rfl,fun pairs hpairs pair => ?_⟩
    rw [mem_pairsOf hpairs]
    exact exists_congr fun line => and_congr_left fun _ => hlines line

theorem readScalar_meets {slot : Slot OwnSide String} :
    Meets A (readScalar slot) s (fun t => t=s) E fun got t => t=s ∧
      (got≠.unreadable → got=(slot.get s).elim .notText .text) := by
  refine storeGet_meets.bind fun got t ht => ?_
  obtain ⟨rfl,hgot⟩ := ht
  match got with
  | none => exact .pure ⟨rfl,fun h => absurd rfl h⟩
  | some none =>
    have hslot : none=slot.get t := some.inj (hgot.resolve_left (by simp))
    exact .pure ⟨rfl,fun _ => by rw [← hslot]; rfl⟩
  | some (some text) =>
    have hslot : some text=slot.get t := some.inj (hgot.resolve_left (by simp))
    exact .pure ⟨rfl,fun _ => by rw [← hslot]; rfl⟩

variable {family : ℕ}

theorem checkedFamilyAddr_eq_some (h : checkedFamilyAddr ip family addr=some spelling) :
    checkedAddrText ip spelling=some spelling ∧ spelling ≠ "" := by
  obtain ⟨found,hfound,hfamily⟩ := bind_eq_some_iff.mp h
  split_ifs at hfamily
  obtain rfl : found=spelling := some.inj hfamily
  obtain ⟨hself,hsplit⟩ := checkedAddrText_eq_some hfound
  exact ⟨hself,ne_blank_of_split hsplit⟩

theorem addrOf_spelled {scalar : Scalar} (h : (addrOf ip family scalar).1 ≠ "") :
    checkedAddrText ip (addrOf ip family scalar).1=some (addrOf ip family scalar).1 := by
  unfold addrOf at h ⊢
  cases scalar with
  | unreadable => exact absurd rfl h
  | notText => exact absurd rfl h
  | text text =>
    dsimp only at h ⊢
    split_ifs at h ⊢
    · exact absurd rfl h
    · cases hfamily : checkedFamilyAddr ip family text with
      | none =>
        rw [hfamily] at h
        exact absurd rfl h
      | some addr => exact (checkedFamilyAddr_eq_some hfamily).1

theorem addrOf_inSlot {slot : Option String} {addr : String} (h : InSlot ip family slot addr) :
    (addrOf ip family (slot.elim .notText .text)).1=addr := by
  obtain ⟨text,rfl,htext⟩ := h
  have hne : text ≠ "" := by
    rintro rfl
    exact absurd htext (by simp [checkedFamilyAddr,checkedAddrText])
  change (addrOf ip family (.text text)).1=addr
  unfold addrOf
  dsimp only
  rw [if_neg hne,htext]

/-- The decoded records say what the records say. -/
theorem read_decodeOwnership
    (hpairs : ∀ pair, pair∈pairs ↔ ∃ line, s.stale.Holds line ∧ pairOf line=some pair) :
    Read ip s (decodeOwnership ip (s.iface.elim .notText .text) (s.addr4.elim .notText .text)
      (s.addr6.elim .notText .text) pairs) where
  ledger := by
    rintro pair ⟨line,found,hline,hfound,rfl⟩
    have hmem : found∈pairs := (hpairs found).mpr ⟨line,hline,hfound⟩
    unfold yielded
    cases hchk : checkedPair ip found with
    | none => exact .inr (mem_filter.mpr ⟨hmem,decide_eq_true hchk⟩)
    | some pair => exact .inl (mem_filterMap.mpr ⟨found,hmem,hchk⟩)
  stale := by
    intro pair hpair
    obtain ⟨found,-,hchk⟩ := mem_filterMap.mp hpair
    unfold checkedPair at hchk
    split_ifs at hchk with hlegal
    obtain ⟨addr,haddr,rfl⟩ := map_eq_some_iff.mp hchk
    exact ⟨ne_blank_of_legalIface hlegal,(checkedAddrText_eq_some haddr).1⟩
  retained := by
    intro pair hpair
    have hnone : checkedPair ip pair=none := of_decide_eq_true (mem_filter.mp hpair).2
    rw [yielded,hnone]
    rfl
  scalars := by
    rintro fallback pair ⟨hname,hiface,hslot⟩
    refine ⟨?_,hslot.imp addrOf_inSlot addrOf_inSlot⟩
    unfold Ownership.ifaceOr decodeOwnership ifaceOf
    rcases hiface with ⟨hiface,hlegal⟩ | ⟨hiface,rfl⟩
    · simp [hiface,hname,hlegal]
    · simp [hiface]
  addrs := by
    rintro addr (rfl | rfl) hne
    · exact addrOf_spelled hne
    · exact addrOf_spelled hne

theorem readOwnership_meets : Meets A (readOwnership ip) s (fun t => t=s) E
    fun got t => t=s ∧ ∀ own, got=some own → Read ip s own := by
  refine readScalar_meets.bind fun iface t ht => ?_
  obtain ⟨rfl,hiface⟩ := ht
  refine readScalar_meets.bind fun addr4 t ht => ?_
  obtain ⟨rfl,haddr4⟩ := ht
  refine readScalar_meets.bind fun addr6 t ht => ?_
  obtain ⟨rfl,haddr6⟩ := ht
  have hread : Meets A (onStale (readPairs staleKey)) t (fun u => u=t) E fun got u =>
      u=t ∧ ∀ pairs, got=some pairs → ∀ pair, pair∈pairs ↔
        ∃ line, t.stale.Holds line ∧ pairOf line=some pair :=
    .within readPairs_meets (fun stale h => by rw [h]) (fun _ h => h)
      fun got stale h => ⟨by rw [h.1],h.2⟩
  refine hread.bind fun got u hu => ?_
  obtain ⟨rfl,hpairs⟩ := hu
  split
  · exact .pure ⟨rfl,nofun⟩
  · exact .pure ⟨rfl,nofun⟩
  · exact .pure ⟨rfl,nofun⟩
  · exact .pure ⟨rfl,nofun⟩
  · next pairs hi h4 h6 =>
    refine .pure ⟨rfl,fun own hown => ?_⟩
    obtain rfl := some.inj hown
    rw [hiface hi,haddr4 h4,haddr6 h6]
    exact read_decodeOwnership (hpairs pairs rfl)

end Reading

end PiGwPanel.SegmentOwnership
