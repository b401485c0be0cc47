import PiGwPanel.BackupRestore
import PiGwPanel.CheckedResult
import PiGwPanel.IpAddress
import PiGwPanel.DelimitedText

/-!
# The network settings, their validators and the plan read from them

The fields of the network plan that the settings table may override, the checks
every writer of such a setting runs, and the two readers behind them:
`NetPlan.from_store`, which takes a stored text as it stands, and
`render_dnsmasq`, which writes it into a line of a configuration file.
-/

namespace PiGwPanel.NetworkSettings

open Models PyText ConfigStore BackupDocument SegmentRuleset IpAddress CheckedResult List
open DelimitedText hiding split join

/-- `_EDITABLE`: the fields of the plan a stored setting overrides. -/
inductive NetSetting where
  | segmentIface
  | segmentIp
  | segmentIp6
  | dhcpStart
  | dhcpEnd
  | dhcpLease
  | clientDns
  | clientDns6
  deriving DecidableEq, Repr

/-- The key of a field in the settings table. -/
def NetSetting.key : NetSetting → String
  | .segmentIface => "segment_iface"
  | .segmentIp => "segment_ip"
  | .segmentIp6 => "segment_ip6"
  | .dhcpStart => "dhcp_start"
  | .dhcpEnd => "dhcp_end"
  | .dhcpLease => "dhcp_lease"
  | .clientDns => "client_dns"
  | .clientDns6 => "client_dns6"

/-- The part of the running `Settings` a network plan is read with. -/
structure Settings where
  (segmentIface segmentIp segmentIp6 dhcpStart dhcpEnd dhcpLease clientDns clientDns6 : String)
  (dnsmasqLeases dataDir mgmtIface mgmtIp : String)
  lanAccess : Bool
  (tproxyPort tproxyPort6 fwmark egressMark table : ℕ)

section

variable (given : Given) (plan : SegmentPlan) (settings : Settings)

/-- The configured default of a field. -/
def Settings.value : NetSetting → String
  | .segmentIface => settings.segmentIface
  | .segmentIp => settings.segmentIp
  | .segmentIp6 => settings.segmentIp6
  | .dhcpStart => settings.dhcpStart
  | .dhcpEnd => settings.dhcpEnd
  | .dhcpLease => settings.dhcpLease
  | .clientDns => settings.clientDns
  | .clientDns6 => settings.clientDns6

/-- Settings as a document or a request gives them. -/
abbrev Given := String → Option SettingValue

/-- `ip_address` and `ip_network(.., strict=False)`; a plan does not use scopes. -/
def standardText : IpText where
  address text := (ipv4Address text.toList).map IpAddr.v4 <|>
      (ipv6Address text.toList).map fun addr => IpAddr.v6 (BitVec.ofNat 128 addr.value)
  network text := (ipv4Network text.toList).map IpNet.v4 <|>
      (ipv6Network text.toList).map fun net => IpNet.v6 ⟨BitVec.ofNat 128 net.base.value, net.len⟩

/-- `_NET_LEASE_RE`. -/
def legalLease (lease : String) : Bool :=
  let digits := lease.toList.takeWhile isDecimal
  let rest := lease.toList.dropWhile isDecimal
  lease = "infinite" ||
    (1 ≤ digits.length && digits.length ≤ 9 && rest ∈ [[], ['s'], ['m'], ['h'], ['d'], ['w']])

/-- The check of an IPv4 field. -/
def ipv4Value (field value : String) : Except String String :=
  if (ipv4Address value.toList).isSome then .ok value
  else .error (field ++ ": must be an IPv4 address")

/-- `_v6_prefix64`. -/
def v6Prefix64 (value field what : String) : Except String String :=
  match ipv6Network value.toList with
  | none => .error (field ++ ": must be " ++ what)
  | some net =>
    if net.len ≠ 64 then .error (field ++ ": must use a /64 prefix") else .ok (ipv6NetworkText net)

/-- The check of one field on its trimmed text, and the value it approves. -/
def normalized : NetSetting → String → Except String String
  | .segmentIface, value =>
    if legalIface value then .ok value else .error "segment_iface: must be a plain interface name"
  | .segmentIp, value => ipv4Value "segment_ip" value
  | .dhcpStart, value => ipv4Value "dhcp_start" value
  | .dhcpEnd, value => ipv4Value "dhcp_end" value
  | .clientDns, value => ipv4Value "client_dns" value
  | .clientDns6, value =>
    if (ipv6Address value.toList).isSome then .ok value
    else .error "client_dns6: must be an IPv6 address"
  | .dhcpLease, value =>
    if legalLease value then .ok value
    else .error "dhcp_lease: must be a lease time like '12h', '3600', or 'infinite'"
  | .segmentIp6, value =>
    if value.toLower = "auto" then .ok value
    else v6Prefix64 value "segment_ip6" "an IPv6 /64 or 'auto'"

/-- The check of one field of a request; a blank value is left alone, but an interface has no
blank. -/
def netValue (field : NetSetting) : Except String (Option String) :=
  match given field.key with
  | none => .ok none
  | some value =>
    let text := stripText value.str
    if text = "" ∧ field ≠ .segmentIface then .ok none else (normalized field text).map some

/-- The check of the ULA prefix, which no plan reads. -/
def ulaValue : Except String (Option String) :=
  match given "ula_prefix6" with
  | none => .ok none
  | some value =>
    let text := stripText value.str
    if text = "" then .ok none
    else (v6Prefix64 text "ula_prefix6" "an IPv6 /64 prefix").map some

/-- The fields in the order they are checked in. -/
def checkOrder : List NetSetting :=
  [.segmentIface, .segmentIp, .dhcpStart, .dhcpEnd, .clientDns, .clientDns6, .dhcpLease,
   .segmentIp6]

/-- `validate_net_settings`: the normalized values, the ULA prefix apart. -/
def validateNetSettings : Except String (List (NetSetting × String) × Option String) := do
  let values ← collect (netValue given) checkOrder
  let ula ← ulaValue given
  return (values, ula)

/-- `str(given.get(key) or "").strip()`. -/
def givenText (key : String) : String :=
  match given key with
  | none => ""
  | some (.text value) => stripText value
  | some (.number value) => if value = 0 then "" else stripText (toString value)
  | some (.flag value) => if value then "True" else ""

/-- `net24` as text. -/
def net24Text (ip : String) : String :=
  let ip := stripText ip
  if ip = "" then ""
  else match ipv4Network (ip ++ "/24").toList, ipv6Network (ip ++ "/24").toList with
    | some net, _ => ipv4NetworkText net
    | none, some net => ipv6NetworkText net
    | none, none => ""

/-- `_same_net24`. -/
def sameNet24 (a b : String) : Bool := net24Text a ≠ "" && net24Text a = net24Text b

/-- `_inside`. -/
def inside (ip network : String) : Bool :=
  match standardText.address ip, standardText.network network with
  | some (.v4 addr), some (.v4 net) => net.covers addr
  | some (.v6 addr), some (.v6 net) => net.covers addr
  | _, _ => false

/-- The values `check_change_safe` compares: each field as it would be after the change. -/
structure CrossFields where
  (segmentIface segmentIp clientDns : String)

/-- The refusal of a segment on the management interface. -/
def mgmtIfaceProblem (iface : String) : String :=
  "segment_iface: '" ++ iface ++ "' is also the management interface (mgmt_iface) — the " ++
    "kill-switch drop, the tproxy redirect and the segment's DHCP server would be " ++
    "installed on the leg this panel is reached on, and applying that would take away " ++
    "the access needed to undo it. Use a separate link (a VLAN of it, e.g. " ++
    "'" ++ iface ++ ".2', is fine)"

/-- The refusal of a segment in the management network. -/
def mgmtNetProblem (ip mgmtIp : String) : String :=
  "segment_ip: " ++ ip ++ " is in the management network (" ++ net24Text mgmtIp ++
    ", which holds mgmt_ip " ++ mgmtIp ++ ") — the segment, its DHCP pool and the LAN-access NAT " ++
    "would overlap the network this panel is reached on. Give the segment its own /24"

/-- The refusal of a resolver inside the segment. -/
def clientDnsProblem (dns ip : String) : String :=
  "client_dns: " ++ dns ++ " is inside the segment network (" ++ net24Text ip ++
    ") — traffic to a private destination is never tunneled, and nothing answers DNS at that " ++
    "address. Use a public resolver, or the gateway itself (" ++ ip ++ ")"

/-- `check_change_safe`. -/
def checkChangeSafe (net : CrossFields) (settings : Settings) : List String :=
  let iface := stripText net.segmentIface
  let ip := stripText net.segmentIp
  let dns := stripText net.clientDns
  let mgmtIface := stripText settings.mgmtIface
  let mgmtIp := stripText settings.mgmtIp
  (if iface ≠ "" ∧ mgmtIface ≠ "" ∧ iface = mgmtIface then [mgmtIfaceProblem iface] else []) ++
    (if ip ≠ "" ∧ mgmtIp ≠ "" ∧ sameNet24 ip mgmtIp then [mgmtNetProblem ip mgmtIp] else []) ++
    (if dns ≠ "" ∧ net24Text ip ≠ "" ∧ dns ≠ ip ∧ inside dns (net24Text ip) then
      [clientDnsProblem dns ip] else [])

/-- The checks of the DHCP range against the segment, once all three are given. -/
def dhcpRangeIssue : Option String :=
  match ipv4Int (givenText given "segment_ip").toList,
      ipv4Int (givenText given "dhcp_start").toList,
      ipv4Int (givenText given "dhcp_end").toList with
  | some ip, some start, some stop =>
    if start / 256 ≠ ip / 256 ∨ stop / 256 ≠ ip / 256 then
      some "DHCP range must be inside the segment subnet"
    else if stop < start then some "DHCP range start must not exceed end"
    else none
  | _, _, _ => none

/-- The checks of the segment against the panel's own management leg. -/
def managementIssue (live : Settings) : Option String :=
  let problems := checkChangeSafe
    { segmentIface := orDefault (givenText given "segment_iface") live.segmentIface
      segmentIp := orDefault (givenText given "segment_ip") live.segmentIp
      clientDns := orDefault (givenText given "client_dns") live.clientDns } live
  if problems = [] then none else some ("; ".intercalate problems)

/-- `_validate_network_settings` up to the road-warrior values. -/
def networkIssue (live : Option Settings) (given : Given) : Option String :=
  match validateNetSettings given with
  | .error why => some why
  | .ok _ => dhcpRangeIssue given <|> live.bind (managementIssue given)

/-- A network plan with the fields of the DHCP server. -/
structure SegmentPlan extends NetPlan where
  table : ℕ
  (dhcpStart dhcpEnd dhcpLease clientDns clientDns6 dnsmasqLeases : String)

/-- The overridable fields of a plan. -/
def SegmentPlan.value : NetSetting → String
  | .segmentIface => plan.segmentIface
  | .segmentIp => plan.segmentIp
  | .segmentIp6 => plan.segmentIp6
  | .dhcpStart => plan.dhcpStart
  | .dhcpEnd => plan.dhcpEnd
  | .dhcpLease => plan.dhcpLease
  | .clientDns => plan.clientDns
  | .clientDns6 => plan.clientDns6

/-- `os.path.basename`. -/
def basename (path : String) : String := String.ofList (path.toList.rtakeWhile fun c => c ≠ '/')

/-- `os.path.join(directory, name)` of a relative name. -/
def joinPath (directory name : String) : String :=
  if directory = "" ∨ directory.toList.getLast? = some '/' then directory ++ name
  else directory ++ "/" ++ name

/-- `_abs_leases`. -/
def absLeases (path dataDir : String) : String :=
  let path := orDefault path "data/dnsmasq.leases"
  if path.toList.head? = some '/' then path else joinPath dataDir (basename path)

/-- A flag of the settings table. -/
def flagOr (store : Store) (key fallback : String) : Bool := store.settingOr key fallback = "1"

/-- `NetPlan.from_store`. -/
def fromStore (store : Store) (settings : Settings) : SegmentPlan where
  tproxyPort := settings.tproxyPort
  fwmark := settings.fwmark
  egressMark := settings.egressMark
  table := settings.table
  tproxyPort6 := settings.tproxyPort6
  segmentIface := store.settingOr "segment_iface" settings.segmentIface
  segmentIp := store.settingOr "segment_ip" settings.segmentIp
  segmentIp6 := store.settingOr "segment_ip6" settings.segmentIp6
  dhcpStart := store.settingOr "dhcp_start" settings.dhcpStart
  dhcpEnd := store.settingOr "dhcp_end" settings.dhcpEnd
  dhcpLease := store.settingOr "dhcp_lease" settings.dhcpLease
  clientDns := store.settingOr "client_dns" settings.clientDns
  clientDns6 := store.settingOr "client_dns6" settings.clientDns6
  dnsmasqLeases := absLeases settings.dnsmasqLeases settings.dataDir
  killSwitch := flagOr store "kill_switch_enabled" "1"
  ipv6Enabled := flagOr store "ipv6_enabled" "0"
  lanAccess := flagOr store "lan_access_enabled" (if settings.lanAccess then "1" else "0")
  mgmtIface := settings.mgmtIface
  mgmtIp := settings.mgmtIp
  extraIfaces := []
  reservations := store.listReservations.map fun res => (res.mac, res.ip, res.name)

/-- A text with a carriage return or a line feed. -/
def hasLineBreak (text : String) : Bool := text.toList.any fun c => c = '\n' || c = '\r'

/-- The fields of `_DNSMASQ_FIELDS`, by name. -/
def dnsmasqFields : List (String × String) :=
  [("segment_iface", plan.segmentIface), ("dnsmasq_leases", plan.dnsmasqLeases),
   ("dhcp_start", plan.dhcpStart), ("dhcp_end", plan.dhcpEnd), ("dhcp_lease", plan.dhcpLease),
   ("segment_ip", plan.segmentIp), ("client_dns", plan.clientDns),
   ("client_dns6", plan.clientDns6)]

/-- `_no_line_break`: the refusal of the first field that would start another directive. -/
def noLineBreak : Option String :=
  (dnsmasqFields plan).findSome? fun (field, value) =>
    if hasLineBreak value then some (field ++ " must not contain a line break") else none

/-- The line of one pinned device. -/
def dhcpHost (mac ip name : String) : String :=
  "dhcp-host=" ++ mac ++ "," ++ ip ++ (if name = "" then "\n" else "," ++ name ++ "\n")

/-- The lines every configuration has. -/
def dnsmasqBase : String :=
  "interface=" ++ plan.segmentIface ++ "\nbind-interfaces\ndhcp-leasefile=" ++
    plan.dnsmasqLeases ++ "\ndhcp-range=" ++ plan.dhcpStart ++ "," ++ plan.dhcpEnd ++ "," ++
    plan.dhcpLease ++ "\ndhcp-option=3," ++ plan.segmentIp ++ "\ndhcp-option=6," ++
    plan.clientDns ++ "\n"

/-- The lines of the router advertisements. -/
def dnsmasqV6 : String :=
  "enable-ra\ndhcp-range=::,constructor:" ++ plan.segmentIface ++ ",ra-stateless,64," ++
    plan.dhcpLease ++ "\ndhcp-option=option6:dns-server,[" ++ plan.clientDns6 ++ "]\n"

end

/-- `render_dnsmasq`. -/
def renderDnsmasq (text : IpText) (plan : SegmentPlan) : Except String String :=
  match noLineBreak plan with
  | some why => .error why
  | none =>
    let applied := plan.reservations.filter fun (mac, ip, name) =>
      (reservationIssue text plan.toNetPlan mac ip name).isNone
    .ok (dnsmasqBase plan ++ String.join (applied.map fun (mac, ip, name) => dhcpHost mac ip name) ++
      if plan.ipv6Enabled then dnsmasqV6 plan else "")

/-- An overridable field of the plan is the stored text, or the configured default for a blank. -/
theorem fromStore_value (store : Store) (settings : Settings) (field : NetSetting) :
    (fromStore store settings).value field=store.settingOr field.key (settings.value field) := by
  cases field <;> rfl

theorem renderDnsmasq_ok_iff (text : IpText) (plan : SegmentPlan) :
    (∃ rendered, renderDnsmasq text plan = .ok rendered) ↔ hasLineBreak plan.dnsmasqLeases=false ∧
        ∀ field≠.segmentIp6, hasLineBreak (plan.value field)=false := by
  have hrender : (∃ rendered, renderDnsmasq text plan = .ok rendered) ↔ noLineBreak plan=none := by
    unfold renderDnsmasq
    cases noLineBreak plan with
    | none => simp
    | some why => simp
  have hfields : noLineBreak plan=none ↔
      ∀ entry∈dnsmasqFields plan, hasLineBreak entry.2=false := by
    simp [noLineBreak,findSome?_eq_none_iff]
  rw [hrender,hfields]
  constructor
  · intro h
    refine ⟨h ("dnsmasq_leases", _) (by simp [dnsmasqFields]),fun field hfield => ?_⟩
    have hmem : (field.key, plan.value field)∈dnsmasqFields plan := by
      cases field with
      | segmentIp6 => exact absurd rfl hfield
      | _ => simp [dnsmasqFields,NetSetting.key,SegmentPlan.value]
    exact h _ hmem
  · rintro ⟨hleases,hvals⟩ entry hentry
    simp only [dnsmasqFields,mem_cons,not_mem_nil,or_false] at hentry
    rcases hentry with rfl | rfl | rfl | rfl | rfl | rfl | rfl | rfl
    · exact hvals .segmentIface (by decide)
    · exact hleases
    · exact hvals .dhcpStart (by decide)
    · exact hvals .dhcpEnd (by decide)
    · exact hvals .dhcpLease (by decide)
    · exact hvals .segmentIp (by decide)
    · exact hvals .clientDns (by decide)
    · exact hvals .clientDns6 (by decide)

/-- The values the validators approve are those of the checks, field by field. -/
theorem lookup_of_validateNetSettings {given : Given} {values : List (NetSetting × String)}
    {ula : Option String} (h : validateNetSettings given = .ok (values, ula)) (field : NetSetting) :
    netValue given field = .ok (values.lookup field) := by
  obtain ⟨found,hfound,h⟩ := exists_of_bind_ok h
  obtain ⟨prefix64,-,h⟩ := exists_of_bind_ok h
  have hvals : found=values := congrArg Prod.fst (Except.ok.inj h)
  subst hvals
  have hmem : field∈checkOrder := by cases field <;> decide
  exact (lookup_collect (by decide) hfound).1 hmem

section Lines

/-! ### The lines of the configuration -/

variable {text : IpText} {plan : SegmentPlan}

/-- What ends a line, as `_no_line_break` has it. -/
def endsLine (c : Char) : Bool := c = '\n' || c = '\r'

/-- The pinned devices that `reservation_issue` accepts. -/
def accepted (text : IpText) (plan : SegmentPlan) : List (String × String × String) :=
  plan.reservations.filter fun (mac, ip, name) =>
    (reservationIssue text plan.toNetPlan mac ip name).isNone

/-- The directive of one pinned device. -/
def hostLine (res : String × String × String) : String :=
  "dhcp-host=" ++ res.1 ++ "," ++ res.2.1 ++ if res.2.2 = "" then "" else "," ++ res.2.2

/-- The directives ahead of the pinned devices. -/
def baseLines (plan : SegmentPlan) : List String :=
  ["interface=" ++ plan.segmentIface, "bind-interfaces", "dhcp-leasefile=" ++ plan.dnsmasqLeases,
   "dhcp-range=" ++ plan.dhcpStart ++ "," ++ plan.dhcpEnd ++ "," ++ plan.dhcpLease,
   "dhcp-option=3," ++ plan.segmentIp, "dhcp-option=6," ++ plan.clientDns]

/-- The directives of the router advertisements. -/
def v6Lines (plan : SegmentPlan) : List String :=
  if plan.ipv6Enabled then
    ["enable-ra", "dhcp-range=::,constructor:" ++ plan.segmentIface ++ ",ra-stateless,64," ++
      plan.dhcpLease, "dhcp-option=option6:dns-server,[" ++ plan.clientDns6 ++ "]"]
  else []

/-- What the configuration is to say: the fixed directives in order, and one for each pinned device
that is accepted. -/
def directives (text : IpText) (plan : SegmentPlan) : List String :=
  baseLines plan ++ (accepted text plan).map hostLine ++ v6Lines plan

theorem hasLineBreak_eq_false_iff {value : String} :
    hasLineBreak value=false ↔ Free endsLine value := by
  rw [hasLineBreak,any_eq_false]
  exact forall₂_congr fun c _ => iff_of_eq (Bool.not_eq_true (endsLine c))

theorem join_lines (lines : List String) :
    DelimitedText.join '\n' (lines++[""])=String.join (lines.map fun line => line ++ "\n") := by
  induction lines with
  | nil => exact join_singleton _ _
  | cons line rest ih =>
    rw [cons_append,map_cons,String.join_cons,← ih]
    cases rest with
    | nil => exact join_cons_cons _ _ _ _
    | cons next more => exact join_cons_cons _ _ _ _

theorem dnsmasqBase_eq_join (plan : SegmentPlan) :
    dnsmasqBase plan=String.join ((baseLines plan).map fun line => line ++ "\n") := by
  have hleases : "\nbind-interfaces\ndhcp-leasefile=" =
      "\n" ++ ("bind-interfaces" ++ ("\n" ++ "dhcp-leasefile=")) := by decide +kernel
  have hrange : "\ndhcp-range=" = "\n" ++ "dhcp-range=" := by decide +kernel
  have hgateway : "\ndhcp-option=3," = "\n" ++ "dhcp-option=3," := by decide +kernel
  have hdns : "\ndhcp-option=6," = "\n" ++ "dhcp-option=6," := by decide +kernel
  unfold dnsmasqBase baseLines
  simp only [hleases,hrange,hgateway,hdns,map_cons,map_nil,String.join_cons,
    String.join_nil,String.append_assoc,String.append_empty,-String.reduceAppend]

theorem dnsmasqV6_eq_join (plan : SegmentPlan) : (if plan.ipv6Enabled then dnsmasqV6 plan else "") =
    String.join ((v6Lines plan).map fun line => line ++ "\n") := by
  have hrange : "enable-ra\ndhcp-range=::,constructor:" =
      "enable-ra" ++ ("\n" ++ "dhcp-range=::,constructor:") := by decide +kernel
  have hsrv : "\ndhcp-option=option6:dns-server,[" =
      "\n" ++ "dhcp-option=option6:dns-server,[" := by decide +kernel
  have hlast : "]\n" = "]" ++ "\n" := by decide +kernel
  unfold dnsmasqV6 v6Lines
  split
  · simp only [hrange,hsrv,hlast,map_cons,map_nil,String.join_cons,
      String.join_nil,String.append_assoc,String.append_empty,-String.reduceAppend]
  · rfl

theorem renderDnsmasq_eq_join {rendered : String} (h : renderDnsmasq text plan = .ok rendered) :
    noLineBreak plan=none ∧ rendered=DelimitedText.join '\n' (directives text plan++[""]) := by
  unfold renderDnsmasq at h
  cases hbreak : noLineBreak plan with
  | some why =>
    rw [hbreak] at h
    cases h
  | none =>
    rw [hbreak] at h
    refine ⟨rfl,(Except.ok.inj h).symm.trans ?_⟩
    have hhosts : (accepted text plan).map (fun (mac, ip, name) => dhcpHost mac ip name) =
        ((accepted text plan).map hostLine).map fun line => line ++ "\n" := by
      rw [map_map]
      refine map_congr_left fun res _ => ?_
      change dhcpHost res.1 res.2.1 res.2.2=hostLine res ++ "\n"
      unfold dhcpHost hostLine
      split <;> simp [String.append_assoc]
    rw [join_lines,directives,map_append,map_append,String.join_append,
      String.join_append,← dnsmasqBase_eq_join,← hhosts,← dnsmasqV6_eq_join]
    rfl

theorem free_fixedLines (h : noLineBreak plan=none) :
    ∀ line∈baseLines plan++v6Lines plan, Free endsLine line := by
  simp only [noLineBreak,dnsmasqFields,findSome?_eq_none_iff,forall_mem_cons,
    ite_eq_right_iff,reduceCtorEq,imp_false,Bool.not_eq_true,hasLineBreak_eq_false_iff] at h
  obtain ⟨hiface,hleases,hstart,hend,hlease,hip,hdns,hdns6,-⟩ := h
  unfold baseLines v6Lines
  split
  · simp only [forall_mem_append,forall_mem_cons,free_append,hiface,hleases,hstart,
      hend,hlease,hip,hdns,hdns6]
    decide
  · simp only [forall_mem_append,forall_mem_cons,free_append,hiface,hleases,hstart,
      hend,hlease,hip,hdns]
    decide

theorem free_hostLine {res : String × String × String} : Free endsLine (hostLine res) ↔
      Free endsLine res.1 ∧ Free endsLine res.2.1 ∧ Free endsLine res.2.2 := by
  have hhead : Free endsLine "dhcp-host=" := by decide
  have hcomma : Free endsLine "," := by decide
  have hblank : Free endsLine "" := by decide
  unfold hostLine
  split <;> simp [*,and_assoc]

/-- A configuration that renders has exactly its directives as lines if and only if no accepted
reservation has a line break in its texts. -/
theorem lines_eq_directives_iff (text : IpText) (plan : SegmentPlan) (rendered : String)
    (h : renderDnsmasq text plan = .ok rendered) :
    DelimitedText.split endsLine rendered = directives text plan ++ [""] ↔
      ∀ res ∈ accepted text plan,
        Free endsLine res.1 ∧ Free endsLine res.2.1 ∧ Free endsLine res.2.2 := by
  obtain ⟨hbreak,rfl⟩ := renderDnsmasq_eq_join h
  have hblank : Free endsLine "" := by decide
  have hfixed := forall_mem_append.mp (free_fixedLines hbreak)
  rw [split_join_iff (by decide) (by simp),forall_mem_append,directives,
    forall_mem_append,forall_mem_append,forall_mem_map]
  simp only [free_hostLine,forall_mem_singleton,hblank,and_true]
  exact ⟨fun hall => hall.1.2,fun hall => ⟨⟨hfixed.1,hall⟩,hfixed.2⟩⟩

/-- A plan that pins one device. -/
def pinnedPlan (mac name : String) : SegmentPlan where
  tproxyPort := 52345
  fwmark := 1
  egressMark := 255
  segmentIface := "eth0.2"
  segmentIp := "192.168.20.1"
  killSwitch := true
  ipv6Enabled := true
  segmentIp6 := ""
  tproxyPort6 := 52346
  lanAccess := false
  mgmtIface := "eth0"
  mgmtIp := ""
  extraIfaces := []
  reservations := [(mac, "192.168.20.9", name)]
  table := 100
  dhcpStart := "192.168.20.50"
  dhcpEnd := "192.168.20.150"
  dhcpLease := "12h"
  clientDns := "1.1.1.1"
  clientDns6 := "2606:4700:4700::1111"
  dnsmasqLeases := "/data/dnsmasq.leases"

/-- A pinned device is one line among the fixed ones. -/
theorem lines_of_pinned_printer : DelimitedText.split endsLine (DelimitedText.join '\n' (directives
      standardText (pinnedPlan "aa:bb:cc:dd:ee:ff" "printer") ++ [""])) =
    directives standardText (pinnedPlan "aa:bb:cc:dd:ee:ff" "printer") ++ [""] := by
  refine (lines_eq_directives_iff standardText _ _ (by decide +kernel)).mpr ?_
  decide +kernel

/-- A line break ahead of the address of a device makes the address a directive of its own. -/
theorem mac_becomes_directive :
    let plan := pinnedPlan "\naa:bb:cc:dd:ee:ff" ""
    ∃ rendered, renderDnsmasq standardText plan = .ok rendered ∧
      "aa:bb:cc:dd:ee:ff,192.168.20.9" ∈ DelimitedText.split endsLine rendered ∧
      "aa:bb:cc:dd:ee:ff,192.168.20.9" ∉ directives standardText plan := by
  refine ⟨_,rfl,?_,?_⟩ <;> decide +kernel

end Lines

end PiGwPanel.NetworkSettings
