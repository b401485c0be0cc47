import PiGwPanel.PacketFilter
import PiGwPanel.PyText

/-!
# The ruleset of the client segment

`net_control/render.py` renders one table per address family. The tables are
built here as data in the same order of chains and rules; how the address texts
of the plan are read is `ipaddress`'s affair and stays a parameter.
-/

namespace PiGwPanel.SegmentRuleset

open PacketFilter PyText List

/-- A parsed address. -/
inductive IpAddr where
  | v4 (addr : BitVec 32)
  | v6 (addr : BitVec 128)
  deriving DecidableEq, Repr

/-- A parsed address range. -/
inductive IpNet where
  | v4 (net : Net 32)
  | v6 (net : Net 128)
  deriving DecidableEq, Repr

/-- How `ipaddress` reads text: `ip_address` and `ip_network(.., strict=False)`. -/
structure IpText where
  address : String → Option IpAddr
  network : String → Option IpNet

/-- The range as one of the v4 family; a range of the other family covers nothing there. -/
def IpNet.toV4 : IpNet → List (Net 32)
  | .v4 net => [net]
  | .v6 _ => []

/-- The range as one of the v6 family. -/
def IpNet.toV6 : IpNet → List (Net 128)
  | .v4 _ => []
  | .v6 net => [net]

/-- The fields of a network plan that the ruleset depends on. -/
structure NetPlan where
  (tproxyPort fwmark egressMark : ℕ)
  (segmentIface segmentIp : String)
  (killSwitch ipv6Enabled : Bool)
  segmentIp6 : String
  tproxyPort6 : ℕ
  lanAccess : Bool
  (mgmtIface mgmtIp : String)
  /-- Interfaces the segment rules must cover on top of the configured one. -/
  extraIfaces : List String
  /-- Pinned devices as (mac, ip, name). -/
  reservations : List (String × String × String)

/-- `_IFACE_RE`: what an interface name may look like before it goes into a rule. -/
def legalIface (name : String) : Bool :=
  1 ≤ name.length && name.length ≤ 15 &&
    name.toList.all fun c => c.isAlphanum || c ∈ ['.', '_', '@', ':', '-']

section

variable (text : IpText) (plan : NetPlan)

/-- `_segment_ifaces`: the configured interface, then every legal extra one, once. -/
def segmentIfaces : List String :=
  plan.extraIfaces.foldl (fun names extra =>
    let name := stripText extra
    if name ≠ "" ∧ name ∉ names ∧ legalIface name then names ++ [name] else names)
    [plan.segmentIface]

/-- `net24`: the /24 that contains an address text. -/
def net24 (ip : String) : Option IpNet :=
  let ip := stripText ip
  if ip = "" then none else text.network (ip ++ "/24")

/-- `_seg_prefix6`: the segment's own v6 prefix, unless blank, `auto` or invalid. -/
def segPrefix6 : Option IpNet :=
  let s := stripText plan.segmentIp6
  if s = "" ∨ s.toLower = "auto" then none else text.network s

/-- `_PRIVATE_SET`: loopback and the RFC-1918 ranges. -/
def privateSet : List (Net 32) :=
  [⟨0x7F000000#32, 8⟩, ⟨0x0A000000#32, 8⟩, ⟨0xAC100000#32, 12⟩, ⟨0xC0A80000#32, 16⟩]

/-- `_local6`: v6 destinations that are not tunnelled. -/
def local6 : List (Net 128) :=
  [⟨1#128, 128⟩, ⟨0xFE80#128 <<< 112, 10⟩, ⟨0xFC00#128 <<< 112, 7⟩, ⟨0xFF00#128 <<< 112, 8⟩] ++
    match segPrefix6 text plan with
    | some net => net.toV6
    | none => []

/-- A hexadecimal digit as `_MAC_RE` spells it. -/
def isLowerHex (c : Char) : Bool := c.isDigit || ('a' ≤ c && c ≤ 'f')

/-- `_MAC_RE` on stripped, lower-cased text. -/
def legalMac (mac : String) : Bool :=
  let parts := (stripText mac).toLower.toList.splitOnP fun c => c = ':'
  parts.length = 6 && parts.all fun part => part.length = 2 && part.all isLowerHex

/-- `_HOSTNAME_RE`, whose end anchor also stands before one final line break. -/
def legalHostname (name : String) : Bool :=
  let chars := name.toList
  let body := if chars.getLast? = some '\n' then chars.dropLast else chars
  1 ≤ body.length && body.length ≤ 32 && body.all (fun c => c.isAlphanum || c = '-') &&
    body.head? ≠ some '-' && body.getLast? ≠ some '-'

/-- `reservation_value_issue`: what is wrong with a reservation whatever segment it is for. -/
def reservationValueIssue (mac ip name : String) : Option String :=
  if !legalMac mac then some "MAC must look like aa:bb:cc:dd:ee:ff"
  else if name ≠ "" && !legalHostname name then
    some "name may use letters, digits and hyphens only (up to 32 characters)"
  else match text.address (stripText ip) with
    | none => some (pyRepr ip ++ " is not an IPv4 address")
    | some (.v6 _) => some "a reservation is IPv4 only"
    | some (.v4 _) => none

/-- `reservation_issue`: what is wrong with a reservation for this plan's segment. -/
def reservationIssue (mac ip name : String) : Option String :=
  match reservationValueIssue text mac ip name with
  | some issue => some issue
  | none =>
    match text.address (stripText ip), net24 text plan.segmentIp with
    | some (.v4 addr), some (.v4 net) =>
      if !net.covers addr then some (ip ++ " is outside the segment")
      else if plan.segmentIp ≠ "" && stripText ip = stripText plan.segmentIp then
        some "that is the gateway's own address"
      else none
    | _, _ => some (ip ++ " is outside the segment")

/-- `applied_reservations`: the pinned devices the plan can render, by address. -/
def appliedReservations : List (String × BitVec 32) :=
  plan.reservations.filterMap fun (mac, ip, name) =>
    match reservationIssue text plan mac ip name, text.address (stripText ip) with
    | none, some (.v4 addr) => some (ip, addr)
    | _, _ => none

/-- `counter_names`. -/
def counterNames (ip : String) : String × String :=
  let key := String.ofList (ip.toList.map fun c => if c = '.' then '_' else c)
  ("dev_up_" ++ key, "dev_down_" ++ key)

/-- `_accounting`: counter declarations and the two chains that feed them. -/
def accounting : List String × List (Chain 32) :=
  let usable := appliedReservations text plan
  if usable = [] then ([], [])
  else
    (usable.flatMap fun (ip, _) => [(counterNames ip).1, (counterNames ip).2],
     [{ name := "acct_up", type := "filter", hook := .prerouting, priority := "mangle",
        rules := ⟨[.daddr privateSet], .ret⟩ :: usable.map fun (ip, addr) =>
          ⟨[.saddr [⟨addr, 32⟩]], .count (counterNames ip).1⟩ },
      { name := "acct_down", type := "filter", hook := .postrouting, priority := "mangle",
        rules := ⟨[.saddr privateSet], .ret⟩ :: usable.map fun (ip, addr) =>
          ⟨[.daddr [⟨addr, 32⟩]], .count (counterNames ip).2⟩ }])

/-- The kill-switch chain: segment traffic to a non-private destination is dropped. -/
def forwardChain {w : ℕ} (ifaces : List String) (nets : List (Net w)) : Chain w where
  name := "forward"
  type := "filter"
  hook := .forward
  priority := "filter"
  rules := [⟨[.iifname ifaces, .daddrNot nets], .drop⟩]

/-- The redirect chain of the v4 table. -/
def preroutingChain : Chain 32 where
  name := "prerouting"
  type := "filter"
  hook := .prerouting
  priority := "mangle"
  rules := [⟨[.mark plan.egressMark], .ret⟩,
     ⟨[.daddr privateSet], .ret⟩,
     ⟨[.iifname (segmentIfaces plan),
       .daddr (((net24 text plan.segmentIp).map IpNet.toV4).getD [] ++ [⟨0xFFFFFFFF#32, 32⟩]),
       .udpDport [67, 68]], .ret⟩,
     ⟨[.iifname (segmentIfaces plan), .l4proto [.tcp, .udp]],
       .tproxy plan.fwmark plan.tproxyPort⟩]

/-- The LAN-access chain of the v4 table. -/
def postroutingChain (segNet lan : IpNet) : Chain 32 where
  name := "postrouting"
  type := "nat"
  hook := .postrouting
  priority := "srcnat"
  rules := [⟨[.saddr segNet.toV4, .daddr lan.toV4, .oifname plan.mgmtIface], .masquerade⟩]

/-- `render_nft`. -/
def renderNft (tunnelUp : Bool) : Table 32 where
  counters := (accounting text plan).1
  chains := (if tunnelUp then [preroutingChain text plan] else []) ++
    (if plan.killSwitch then [forwardChain (segmentIfaces plan) privateSet] else []) ++
    (match plan.lanAccess, net24 text plan.segmentIp, net24 text plan.mgmtIp with
      | true, some segNet, some lan => [postroutingChain plan segNet lan]
      | _, _, _ => []) ++
    (accounting text plan).2

/-- The redirect chain of the v6 table. -/
def preroutingChain6 : Chain 128 where
  name := "prerouting"
  type := "filter"
  hook := .prerouting
  priority := "mangle"
  rules := [⟨[.mark plan.egressMark], .ret⟩,
     ⟨[.daddr (local6 text plan)], .ret⟩,
     ⟨[.udpDport [546, 547]], .ret⟩,
     ⟨[.iifname (segmentIfaces plan), .l4proto [.tcp, .udp]],
       .tproxy plan.fwmark plan.tproxyPort6⟩]

/-- `render_nft6`; no table stands for the empty text. -/
def renderNft6 (tunnelUp : Bool) : Option (Table 128) :=
  let forward := forwardChain (segmentIfaces plan) (local6 text plan)
  if plan.ipv6Enabled && tunnelUp then some ⟨[], [preroutingChain6 text plan, forward]⟩
  else if plan.killSwitch || tunnelUp then some ⟨[], [forward]⟩
  else none

end

variable {text : IpText} {name : String} {plan : NetPlan}

theorem isSpace_of_legalIface (h : legalIface name=true) : ∀ c∈name.toList, isSpace c=false := by
  simp only [legalIface,Bool.and_eq_true,all_eq_true,Bool.or_eq_true, decide_eq_true_eq] at h
  intro c hc
  rcases h.2 c hc with hword | hmark
  · exact isSpace_of_isAlphanum hword
  · simp only [mem_cons,not_mem_nil,or_false] at hmark
    rcases hmark with rfl | rfl | rfl | rfl | rfl <;> decide

theorem stripText_of_legalIface (h : legalIface name=true) :
    stripText name=name := stripText_of_not_space (isSpace_of_legalIface h)

/-- One extra name keeps the names so far, and a legal one is among them afterwards. -/
theorem addIface_mem {names : List String} {extra : String}
    (h : name∈names ∨ (extra=name ∧ legalIface name=true)) :
    name∈(if stripText extra ≠ "" ∧ stripText extra∉names ∧ legalIface (stripText extra)
      then names++[stripText extra] else names) := by
  rcases h with hmem | ⟨rfl,hlegal⟩
  · split
    · exact mem_append_left _ hmem
    · exact hmem
  · rw [stripText_of_legalIface hlegal]
    have hne : extra ≠ "" := by
      intro he
      rw [he] at hlegal
      exact absurd hlegal (by decide)
    by_cases hmem : extra∈names
    · rw [if_neg fun hc => hc.2.1 hmem]
      exact hmem
    · rw [if_pos ⟨hne,hmem,hlegal⟩]
      simp

/-- The configured interface and every legal extra one are covered. -/
theorem mem_segmentIfaces
    (h : name=plan.segmentIface ∨ (name∈plan.extraIfaces ∧ legalIface name=true)) :
    name∈segmentIfaces plan := by
  have hfold (extras names : List String)
      (hn : name∈names ∨ (name∈extras ∧ legalIface name=true)) :
      name∈extras.foldl (fun names extra =>
        if stripText extra ≠ "" ∧ stripText extra∉names ∧ legalIface (stripText extra)
        then names++[stripText extra] else names) names := by
    induction extras generalizing names with
    | nil => simpa using hn
    | cons extra rest ih =>
      apply ih
      rcases hn with hmem | ⟨hmem,hlegal⟩
      · exact .inl (addIface_mem (.inl hmem))
      · rcases mem_cons.mp hmem with rfl | hmem
        · exact .inl (addIface_mem (.inr ⟨rfl,hlegal⟩))
        · exact .inr ⟨hmem,hlegal⟩
  apply hfold
  rcases h with rfl | h
  · exact .inl (by simp)
  · exact .inr h

/-- The kill-switch chain drops what arrives on a covered interface for outside the ranges. -/
theorem forwardChain_drops {w : ℕ} {ifaces : List String} {nets : List (Net w)} {p : Packet w}
    (hiif : p.iif∈ifaces) (hout : ∀ n∈nets, n.covers p.daddr=false) :
    runRules p (forwardChain ifaces nets).rules = .dropped := by
  refine runRules_drop [] ?_ rfl
  have hnone : nets.any (fun n => n.covers p.daddr)=false := by
    rw [any_eq_false]
    intro n hn
    simp [hout n hn]
  simp [Rule.covers,Match.holds,hiif,hnone]

/-- Destinations outside 127/8, 10/8, 172.16/12 and 192.168/16. -/
def outsidePrivate (a : BitVec 32) : Prop :=
  a.toNat / 2 ^ 24 ≠ 127 ∧ a.toNat / 2 ^ 24 ≠ 10 ∧ a.toNat / 2 ^ 20 ≠ 172 * 16 + 1 ∧
    a.toNat / 2 ^ 16 ≠ 192 * 256 + 168

theorem privateSet_covers {a : BitVec 32} (h : outsidePrivate a) :
    ∀ n∈privateSet, n.covers a=false := by
  obtain ⟨hloop,hten,htwelve,hsixteen⟩ := h
  intro n hn
  simp only [privateSet,mem_cons,not_mem_nil,or_false] at hn
  rcases hn with rfl | rfl | rfl | rfl
  · simpa [Net.covers] using hloop
  · simpa [Net.covers] using hten
  · simpa [Net.covers] using htwelve
  · simpa [Net.covers] using hsixteen

/-- With the kill switch on, the forward hook of the v4 table is the kill-switch chain. -/
theorem renderNft_forward (tunnelUp : Bool) (hkill : plan.killSwitch=true) :
    ((renderNft text plan tunnelUp).chains.filter fun c => c.hook = .forward) =
      [forwardChain (segmentIfaces plan) privateSet] := by
  have hacct : ((accounting text plan).2.filter fun c => c.hook = .forward)=[] := by
    unfold accounting
    dsimp only
    split <;> simp
  unfold renderNft
  simp only [filter_append,hacct,hkill,if_true]
  cases tunnelUp <;> cases plan.lanAccess <;> cases net24 text plan.segmentIp <;>
    cases net24 text plan.mgmtIp <;> simp [preroutingChain,forwardChain,postroutingChain]

/-- With the kill switch on or the tunnel up, there is a v6 table and its forward hook is the
kill-switch chain over the local ranges. -/
theorem renderNft6_forward {tunnelUp : Bool} (hon : plan.killSwitch=true ∨ tunnelUp=true) :
    ∃ table, renderNft6 text plan tunnelUp=some table ∧
      (table.chains.filter fun c => c.hook = .forward) =
        [forwardChain (segmentIfaces plan) (local6 text plan)] := by
  have honb : (plan.killSwitch || tunnelUp)=true := by simpa using hon
  by_cases h6 : (plan.ipv6Enabled && tunnelUp)=true
  · exact ⟨_,if_pos h6,by simp [preroutingChain6,forwardChain]⟩
  · exact ⟨_,(if_neg h6).trans (if_pos honb),by simp [forwardChain]⟩

/-- A packet arrives on the configured interface or on an extra one. -/
def onSegment {w : ℕ} (plan : NetPlan) (p : Packet w) : Prop :=
  p.iif = plan.segmentIface ∨ p.iif ∈ plan.extraIfaces

/-- Leak freedom: with the kill switch on no v4 packet from the segment to a non-private
destination is forwarded, tunnel up or down; and with the kill switch on or the tunnel up no
v6 packet from the segment to a destination outside the local set is. -/
theorem segment_never_leaks (text : IpText) (plan : NetPlan) (tunnelUp : Bool)
    (hextra : ∀ name ∈ plan.extraIfaces, legalIface name = true) :
    (plan.killSwitch = true → ∀ p : Packet 32, onSegment plan p → outsidePrivate p.daddr →
      p.deliveredLocally = false → (renderNft text plan tunnelUp).path p ≠ .forwarded) ∧
    (plan.killSwitch = true ∨ tunnelUp = true →
      ∃ table, renderNft6 text plan tunnelUp = some table ∧ ∀ p : Packet 128, onSegment plan p →
          (∀ n ∈ local6 text plan, n.covers p.daddr = false) →
          p.deliveredLocally = false → table.path p ≠ .forwarded) := by
  have hiif {w : ℕ} {p : Packet w} (hp : onSegment plan p) : p.iif∈segmentIfaces plan := by
    apply mem_segmentIfaces
    rcases hp with hp | hp
    · exact .inl hp
    · exact .inr ⟨hp,hextra _ hp⟩
  constructor
  · intro hkill p hp hout _
    apply Table.path_ne_forwarded
    rw [Table.atHook_of_filter p (renderNft_forward tunnelUp hkill)]
    exact forwardChain_drops (hiif hp) (privateSet_covers hout)
  · intro hon
    obtain ⟨table,htable,hforward⟩ :
        ∃ table, renderNft6 text plan tunnelUp=some table ∧ _ := renderNft6_forward hon
    refine ⟨table,htable,fun p hp hout _ => ?_⟩
    apply Table.path_ne_forwarded
    rw [Table.atHook_of_filter p hforward]
    exact forwardChain_drops (hiif hp) hout

/-- A segment being moved from `eth0.20` to `eth0.77`, tunnel stopped. -/
def samplePlan : NetPlan where
  tproxyPort := 12345
  fwmark := 1
  egressMark := 255
  segmentIface := "eth0.77"
  segmentIp := "192.168.77.1"
  killSwitch := true
  ipv6Enabled := false
  segmentIp6 := ""
  tproxyPort6 := 12346
  lanAccess := false
  mgmtIface := "eth0"
  mgmtIp := ""
  extraIfaces := ["eth0.20"]
  reservations := []

/-- The one text of the sample plan that is read. -/
def sampleText : IpText where
  address _ := none
  network text := if text = "192.168.77.1/24" then some (.v4 ⟨0xC0A84D01#32, 24⟩) else none

/-- An echo request of a client on the old interface to 8.8.8.8. -/
def sampleEcho : Packet 32 :=
  ⟨"eth0.20", "eth0", 0xC0A84D32#32, 0x08080808#32, .other 1, 0, 0, false⟩

/-- The client's echo request is not forwarded while the tunnel is down. -/
theorem segment_never_leaks_sample :
    (∀ name ∈ samplePlan.extraIfaces, legalIface name = true) ∧ onSegment samplePlan sampleEcho ∧
      outsidePrivate sampleEcho.daddr ∧
      (renderNft sampleText samplePlan false).path sampleEcho ≠ .forwarded := by
  have hextra : ∀ name∈samplePlan.extraIfaces, legalIface name=true := by decide
  have hon : onSegment samplePlan sampleEcho := .inr (by decide)
  have hout : outsidePrivate sampleEcho.daddr := by
    simp [outsidePrivate,sampleEcho]
  exact ⟨hextra,hon,hout,
    (segment_never_leaks sampleText samplePlan false hextra).1 rfl sampleEcho hon hout rfl⟩

end PiGwPanel.SegmentRuleset
