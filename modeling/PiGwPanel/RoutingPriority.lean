import PiGwPanel.ConfigBuilder

/-!
# Which outbound a flow leaves through

xray walks `routing.rules` in order and takes the first rule whose conditions
all hold. The intended decision is stated without the rule list: a chain of
priorities over the options the config was built with. Both agree on every flow.
What a geo, CIDR, domain or port token covers is xray's own business and stays a
parameter.
-/

namespace PiGwPanel.RoutingPriority

open Models PyText RoutingRules ConfigBuilder StableFirstMatch List

/-- Transport of a flow. -/
inductive Network where
  | tcp
  | udp
  deriving DecidableEq, Repr

/-- The word xray uses for a transport. -/
def Network.word : Network → String
  | .tcp => "tcp"
  | .udp => "udp"

/-- What the router sees of a flow. -/
structure Flow (Addr : Type) where
  /-- Tag of the inbound it came in through. -/
  inbound : String
  source : Addr
  /-- Destination name, when the flow carries one. -/
  name : Option String
  /-- Destination addresses the router knows: the literal one, or those of the name. -/
  addresses : List Addr
  port : ℕ
  network : Network
  /-- Sniffed application protocol. -/
  protocol : Option String

/-- What xray's condition tokens cover. -/
structure Matchers (Addr : Type) where
  /-- Address tokens: CIDRs, `geoip:` and `ext:` references. -/
  address : String → Addr → Bool
  /-- Name tokens: plain, `full:`, `geosite:` and `ext:` references. -/
  name : String → String → Bool
  /-- Port texts: numbers and ranges separated by commas. -/
  ports : String → ℕ → Bool

variable {Addr : Type} (M : Matchers Addr) (f : Flow Addr)

/-- The destination is covered by one of the address tokens. -/
def toAddress (tokens : List String) : Bool :=
  tokens.any fun token => f.addresses.any (M.address token)

/-- The destination name is covered by one of the name tokens. -/
def toName (tokens : List String) : Bool :=
  tokens.any fun token => f.name.any (M.name token)

/-- The source is covered by one of the address tokens. -/
def fromSource (tokens : List String) : Bool :=
  tokens.any fun token => M.address token f.source

/-- A port condition holds of the destination port. -/
def onPort : PortSpec → Bool
  | .number port => f.port = port
  | .text ports => M.ports ports f.port

/-- All conditions a rule carries hold of the flow. -/
def covers (r : FieldRule) : Bool :=
  r.inboundTag.all (fun tags => f.inbound ∈ tags) && r.source.all (fromSource M f) &&
    r.ip.all (toAddress M f) && r.domain.all (toName M f) && r.port.all (onPort M f) &&
    r.network.all (fun text => f.network.word ∈ commaParts text) &&
    r.protocol.all (fun names => f.protocol.any fun name => name ∈ names)

/-- The outbound of the first rule that covers the flow. -/
def firstMatch (rules : List FieldRule) : Option String :=
  (rules.find? (covers M f)).map (·.outboundTag)

/-- The token a geo rule of a dataset stands for. -/
def geoToken (type dataset token : String) : String :=
  if dataset = "" then type ++ ":" ++ token else "ext:" ++ (type ++ "_ru.dat") ++ ":" ++ token

/-- What a stored rule is about: any of its values, on the side of the flow its type names. -/
def about (r : RoutingRule) : Bool :=
  match r.type with
  | .device => fromSource M f (split r.value)
  | .geoip => toAddress M f ((split r.value).map (geoToken "geoip" r.dataset))
  | .ip => toAddress M f (split r.value)
  | .geosite => toName M f ((split r.value).map (geoToken "geosite" r.dataset))
  | .domain => toName M f (split r.value)
  | .port => M.ports (",".intercalate (split r.value)) f.port
  | .unknown _ => false

/-- The enabled stored rule about the flow with the least position. -/
def userRule (opts : BuildOptions) : Option RoutingRule :=
  match opts.routing with
  | some (rules, _) => leading (fun r => r.position) (fun r => r.enabled && about M f r) rules
  | none => none

/-- The action for everything no rule is about. -/
def defaultAction (opts : BuildOptions) : Action :=
  match opts.routing with
  | some (_, action) => action
  | none => .proxy

/-- The flow came in through the gateway's transparent proxy. -/
def fromSegment (opts : BuildOptions) : Prop :=
  f.inbound = "tproxy-in" ∨ (opts.ipv6Tproxy ∧ f.inbound = "tproxy-in6")

instance (opts : BuildOptions) : Decidable (fromSegment f opts) :=
  inferInstanceAs (Decidable (_ ∨ _))

/-- The flow came in through an inbound that clients reach. -/
def fromClient (opts : BuildOptions) (rw : Option RwInbound) : Prop :=
  fromSegment f opts ∨ (rw.isSome ∧ f.inbound = "rw-in")

instance (opts : BuildOptions) (rw : Option RwInbound) : Decidable (fromClient f opts rw) :=
  inferInstanceAs (Decidable (_ ∨ _))

/-- What the profile chose for QUIC, when the flow is QUIC. -/
def quicChoice (opts : BuildOptions) : Option String :=
  if f.protocol = some "quic" then
    opts.profile.bind fun p => match p.quic with
      | .drop => some "block"
      | .proxy => some "proxy"
      | .allow => none
  else none

/-- The intended priority order. -/
def intended (opts : BuildOptions) (rw : Option RwInbound) : String :=
  if fromClient f opts rw ∧ toAddress M f loopbackNets then "block"
  else if opts.stats.isSome ∧ f.inbound = "api" then "api"
  else if opts.dnsIntercept ∧ fromSegment f opts ∧ f.port = 53 then "dns-out"
  else if toAddress M f ["geoip:private"] then "direct"
  else match quicChoice f opts with
    | some tag => tag
    | none => match userRule M f opts with
      | some r => r.action.tag
      | none =>
        if toName M f ((lanHosts rw).map fun host => "full:" ++ host.1) then "direct-lan"
        else (defaultAction opts).tag

variable {M f}

/-- A translated rule covers exactly the flows the stored rule is about, and sends them to
its action. -/
theorem ruleToField_covers {r : RoutingRule} {field : FieldRule} (h : ruleToField r = .ok field) :
    covers M f field=about M f r ∧ field.outboundTag=r.action.tag := by
  have geo {type : String} {tokens : List String}
      (ht : geoTokens type r.dataset (split r.value) = .ok tokens) :
      tokens=(split r.value).map (geoToken type r.dataset) := by
    unfold geoTokens extFile at ht
    unfold geoToken
    split at ht
    · next hd =>
      simp only [hd,if_true]
      exact (Except.ok.inj ht).symm
    · next hd =>
      simp only [hd,if_false]
      split at ht
      · exact (Except.ok.inj ht).symm
      · cases ht
  unfold ruleToField at h
  unfold about
  cases ht : r.type with
  | device =>
    rw [ht] at h
    cases h
    simp [covers]
  | geoip =>
    rw [ht] at h
    cases hg : geoTokens "geoip" r.dataset (split r.value) with
    | error e =>
      rw [hg] at h
      cases h
    | ok tokens =>
      rw [hg] at h
      cases h
      simp [covers,geo hg]
  | ip =>
    rw [ht] at h
    cases h
    simp [covers]
  | geosite =>
    rw [ht] at h
    cases hg : geoTokens "geosite" r.dataset (split r.value) with
    | error e =>
      rw [hg] at h
      cases h
    | ok tokens =>
      rw [hg] at h
      cases h
      simp [covers,geo hg]
  | domain =>
    rw [ht] at h
    cases h
    simp [covers]
  | port =>
    rw [ht] at h
    cases h
    simp [covers,onPort]
  | unknown type =>
    rw [ht] at h
    cases h

theorem firstMatch_cons (r : FieldRule) (rest : List FieldRule) : firstMatch M f (r::rest) =
      if covers M f r then some r.outboundTag else firstMatch M f rest := by
  unfold firstMatch
  cases hr : covers M f r with
  | true => rw [find?_cons_of_pos hr]; rfl
  | false => rw [find?_cons_of_neg (by simp [hr])]; rfl

theorem firstMatch_append (a b : List FieldRule) :
    firstMatch M f (a++b)=(firstMatch M f a).or (firstMatch M f b) := by
  unfold firstMatch
  rw [find?_append,Option.map_or]

variable {action : Action} {opts : BuildOptions} {fields : List FieldRule}

/-- The first translated rule that covers the flow comes from the first stored one about it. -/
theorem firstMatch_mapM {rules : List RoutingRule} (h : rules.mapM ruleToField = .ok fields) :
    firstMatch M f fields=(rules.find? (about M f)).map (·.action.tag) := by
  induction rules generalizing fields with
  | nil =>
    cases h
    rfl
  | cons r rest ih =>
    rw [mapM_cons] at h
    cases hr : ruleToField r with
    | error e =>
      rw [hr] at h
      cases h
    | ok field =>
      cases hrest : rest.mapM ruleToField with
      | error e =>
        rw [hr,hrest] at h
        cases h
      | ok others =>
        rw [hr,hrest] at h
        cases h
        obtain ⟨hcovers,htag⟩ := ruleToField_covers (M := M) (f := f) hr
        rw [firstMatch_cons,hcovers,htag,ih hrest]
        cases ha : about M f r with
        | true => simp [ha]
        | false => simp [ha]

/-- The translated stored rules decide by the enabled stored rule of least position. -/
theorem firstMatch_stored (h : StoredPart opts fields action) :
    firstMatch M f fields=(userRule M f opts).map (·.action.tag) ∧ action=defaultAction opts := by
  unfold StoredPart at h
  unfold userRule defaultAction
  cases hr : opts.routing with
  | none =>
    rw [hr] at h
    obtain ⟨rfl,rfl⟩ := h
    exact ⟨rfl,rfl⟩
  | some routing =>
    obtain ⟨rules,stored⟩ := routing
    rw [hr] at h
    obtain ⟨rfl,hfields⟩ := h
    refine ⟨?_,rfl⟩
    rw [firstMatch_mapM hfields,find?_filter]
    dsimp only [byPosition]
    rw [find?_sortByKey]
    simp only [Bool.decide_and,Bool.decide_eq_true]

theorem covers_rwLanRule (hosts : List (String × String)) :
    covers M f (rwLanRule hosts)=toName M f (hosts.map fun host => "full:" ++ host.1) := by
  have hany : toName M f
      (((hosts.map Prod.fst).insertionSort (·≤·)).map fun name => "full:" ++ name) =
      toName M f ((hosts.map Prod.fst).map fun name => "full:" ++ name) := by
    rw [Bool.eq_iff_iff]
    simp [toName,any_eq_true]
  simp only [covers,rwLanRule,Option.all_none,Option.all_some,Bool.true_and,Bool.and_true,
    hany,map_map]
  rfl

theorem firstMatch_catchAll (action : Action) :
    firstMatch M f [catchAll action]=some action.tag := by
  have hwords : commaParts "tcp,udp" = ["tcp", "udp"] := by decide
  have hcovers : covers M f (catchAll action)=true := by
    cases hn : f.network <;> simp [covers,catchAll,hwords,hn,Network.word]
  rw [firstMatch_cons,if_pos hcovers]
  rfl

theorem firstMatch_apiRules (opts : BuildOptions) : firstMatch M f (apiRules opts) =
      if opts.stats.isSome ∧ f.inbound = "api" then some "api" else none := by
  unfold apiRules
  by_cases hs : opts.stats.isSome
  · simp [covers,hs,firstMatch]
  · simp [hs,firstMatch]

theorem mem_tproxyTags (opts : BuildOptions) : f.inbound∈tproxyTags opts ↔ fromSegment f opts := by
  unfold tproxyTags fromSegment
  cases opts.ipv6Tproxy <;> simp

theorem mem_clientFacing (opts : BuildOptions) (rw : Option RwInbound) :
    f.inbound∈clientFacing opts rw ↔ fromClient f opts rw := by
  unfold clientFacing fromClient
  rw [mem_append,mem_tproxyTags]
  cases rw <;> simp [rwTag]

theorem firstMatch_dnsRules (opts : BuildOptions) : firstMatch M f (dnsRules opts) =
      if opts.dnsIntercept ∧ fromSegment f opts ∧ f.port=53
      then some "dns-out" else none := by
  unfold dnsRules
  by_cases hd : opts.dnsIntercept
  · simp [covers,hd,firstMatch,onPort,mem_tproxyTags]
  · simp [hd,firstMatch]

theorem firstMatch_privateRule : firstMatch M f [privateRule] =
      if toAddress M f ["geoip:private"] then some "direct" else none := by
  simp [covers,privateRule,firstMatch]

theorem firstMatch_quicRules (opts : BuildOptions) :
    firstMatch M f (quicRules opts)=quicChoice f opts := by
  have hcovers (tag : String) : covers M f { protocol := some ["quic"], outboundTag := tag } =
      decide (f.protocol=some "quic") := by
    cases hp : f.protocol <;> simp [covers,hp]
  unfold quicRules quicTag quicChoice
  cases opts.profile with
  | none => simp [firstMatch]
  | some p =>
    cases hq : p.quic <;> simp [hcovers,firstMatch,hq]

theorem firstMatch_lanRules (rw : Option RwInbound) : firstMatch M f (lanRules rw) =
      if toName M f ((lanHosts rw).map fun host => "full:" ++ host.1)
      then some "direct-lan" else none := by
  unfold lanRules
  by_cases hh : lanHosts rw=[]
  · rw [if_pos hh,hh]
    rfl
  · rw [if_neg hh,firstMatch_cons,covers_rwLanRule]
    rfl

theorem firstMatch_layeredRules {rw : Option RwInbound} (h : StoredPart opts fields action) :
    firstMatch M f (layeredRules opts rw fields action)=some (intended M f opts rw) := by
  obtain ⟨hfields,haction⟩ := firstMatch_stored (M := M) (f := f) h
  have hloop : covers M f (loopbackRule opts rw) =
      decide (fromClient f opts rw ∧ toAddress M f loopbackNets) := by
    simp [covers,loopbackRule,mem_clientFacing]
  unfold layeredRules intended
  rw [firstMatch_cons,hloop]
  simp only [firstMatch_append,firstMatch_apiRules,firstMatch_dnsRules,firstMatch_privateRule,
    firstMatch_quicRules,hfields,firstMatch_lanRules,firstMatch_catchAll,← haction,
    decide_eq_true_eq]
  -- One split for every priority; a layer that is not taken falls through to the next.
  split_ifs <;> cases quicChoice f opts <;> cases userRule M f opts <;> rfl

/-- For every node, profile, stored rules, default action and option, the rules a successful
build emits send every flow where the intended priority order does. -/
theorem buildConfig_routes_by_priority {Addr : Type} (M : Matchers Addr) (node : Node)
    (settings : Settings) (opts : BuildOptions) (rw : Option RwInbound) (cfg : Config)
    (hbuild : buildConfig node settings opts rw = .ok cfg) (f : Flow Addr) :
    firstMatch M f cfg.rules = some (intended M f opts rw) := by
  obtain ⟨servers,proxy,fields,action,hstored,-,rfl,-⟩ := buildConfig_eq_ok hbuild
  exact firstMatch_layeredRules hstored

/-- A reality node, for evaluating builds. -/
def sampleNode : Node :=
  { id := 1, name := "exit", address := "203.0.113.7", port := 443
    uuid := "8d4a6c50-0000-4000-8000-000000000001", sni := "example.org", publicKey := "k"
    shortId := "ab" }

/-- Settings for evaluating builds. -/
def sampleSettings : Settings := ⟨"https://1.1.1.1/dns-query", 255, 12345, 12346, 10808⟩

/-- Two stored rules out of position order, DNS interception and the stats service. -/
def sampleOptions : BuildOptions where
  profile := none
  routing := some
    ([⟨none, 2, .domain, "example.com", .direct, true, "", ""⟩,
      ⟨none, 1, .port, "443", .block, true, "", ""⟩], .proxy)
  tunneledFetch := false
  stats := some 10085
  dnsIntercept := true
  domainStrategy := "IPIfNonMatch"
  ipv6Tproxy := false
  profileExplicit := false

/-- Tokens read as xray reads them on the sample: one network, whole names, single ports. -/
def sampleMatchers : Matchers ℕ where
  address token addr := token = "geoip:private" && addr / 2 ^ 24 = 10
  name token name := token = name || token = "full:" ++ name
  ports text port := text = toString port

/-- Both stored rules are about the sample flow and the one of lesser position decides. -/
theorem buildConfig_routes_by_priority_sample :
    ∃ cfg, buildConfig sampleNode sampleSettings sampleOptions none = .ok cfg ∧
      firstMatch sampleMatchers
        ⟨"tproxy-in", 0, some "example.com", [], 443, .tcp, none⟩ cfg.rules = some "block" := by
  refine ⟨_,rfl,?_⟩
  rw [buildConfig_routes_by_priority sampleMatchers sampleNode sampleSettings sampleOptions none _
    rfl]
  decide

end PiGwPanel.RoutingPriority
