import PiGwPanel.CheckedResult
import PiGwPanel.RoutingRules

/-!
# Building the xray config

The typed counterpart of `xray_config/builder.py`. The rule list is assembled
by the same sequence of positional insertions as in the source; constant blocks
of the config (the log section, fixed policy flags) carry no information and are
left out.
-/

namespace PiGwPanel.ConfigBuilder

open Models PyText RoutingRules CheckedResult

/-- The panel settings the builder reads. -/
structure Settings where
  dohUrl : String
  (egressMark tproxyPort tproxyPort6 localProxyPort : ℕ)
  deriving DecidableEq, Repr

/-- One remote-access client handed to the builder. -/
structure RwClient where
  (id email : String)
  deriving DecidableEq, Repr

/-- What `rw_inbound.resolve` hands to the builder. -/
structure RwInbound where
  port : ℕ
  dest : String
  serverNames : List String
  privateKey : String
  shortIds : List String
  clients : List RwClient
  hosts : List (String × String)
  deriving DecidableEq, Repr

/-- Socket options of a stream. -/
structure Sockopt where
  mark : ℕ
  tproxy : Option String := none
  dialerProxy : Option String := none
  deriving DecidableEq, Repr

/-- Sniffing block of an enabled sniffer. -/
structure Sniffing where
  destOverride : List String
  routeOnly : Option Bool := none
  deriving DecidableEq, Repr

/-- One client entry of a vless inbound. -/
structure VlessClient where
  (id flow email : String)
  deriving DecidableEq, Repr

/-- Protocol settings of an inbound. -/
inductive InboundSettings where
  | dokodemo (network : String) (followRedirect : Bool)
  | address (address : String)
  | http
  | vless (clients : List VlessClient) (decryption : String)
  deriving DecidableEq, Repr

/-- Stream settings of an inbound. -/
inductive InboundStream where
  | sockopt (options : Sockopt)
  | reality (dest : String) (serverNames : List String) (privateKey : String)
      (shortIds : List String)
  deriving DecidableEq, Repr

/-- One inbound. -/
structure Inbound where
  (tag protocol : String)
  listen : Option String := none
  port : ℕ
  settings : InboundSettings
  sniffing : Option Sniffing := none
  stream : Option InboundStream := none
  deriving DecidableEq, Repr

/-- `tlsSettings` of the proxy outbound. -/
structure TlsSettings where
  (serverName fingerprint : String)
  alpn : Option (List String)
  (minVersion maxVersion : Option String)
  deriving DecidableEq, Repr

/-- `realitySettings` of the proxy outbound. -/
structure RealitySettings where
  (serverName fingerprint publicKey shortId : String)
  deriving DecidableEq, Repr

/-- `xhttpSettings` of the proxy outbound; an empty value is not emitted. -/
structure XhttpSettings where
  (path host mode xPaddingBytes maxConcurrency maxConnections : String)
  deriving DecidableEq, Repr

/-- Stream settings of an outbound. -/
structure OutboundStream where
  network : Option String := none
  security : Option String := none
  sockopt : Sockopt
  reality : Option RealitySettings := none
  tls : Option TlsSettings := none
  xhttp : Option XhttpSettings := none
  deriving DecidableEq, Repr

/-- The fragment block of the dialer outbound. -/
structure Fragment where
  (packets length interval : String)
  deriving DecidableEq, Repr

/-- Protocol settings of an outbound. -/
inductive OutboundSettings where
  | trojan (address : String) (port : ℕ) (password : String)
  | shadowsocks (address : String) (port : ℕ) (method password : String)
  | vless (address : String) (port : ℕ) (id : String) (flow : Option String)
  | freedom (domainStrategy : Option String) (fragment : Option Fragment)
      (noises : Option (List Noise))
  | blackhole
  deriving DecidableEq, Repr

/-- The mux block of the proxy outbound. -/
structure Mux where
  enabled : Bool
  concurrency : Option ℤ
  xudpProxyUdp443 : Option String
  deriving DecidableEq, Repr

/-- One outbound. -/
structure Outbound where
  (tag protocol : String)
  settings : Option OutboundSettings := none
  stream : Option OutboundStream := none
  mux : Option Mux := none
  deriving DecidableEq, Repr

/-- The resolver list: the one encrypted resolver, or the host resolver. -/
inductive DnsServers where
  | doh (url : String)
  | localhost
  deriving DecidableEq, Repr

/-- The config the panel writes. -/
structure Config where
  dnsServers : DnsServers
  dnsHosts : Option (List (String × String))
  inbounds : List Inbound
  outbounds : List Outbound
  domainStrategy : String
  rules : List FieldRule
  /-- Services of the api block; the stats and policy blocks stand beside it. -/
  apiServices : Option (List String)
  deriving DecidableEq, Repr

/-- The options of `build_config` apart from node, settings and remote access. -/
structure BuildOptions where
  profile : Option TuningProfile
  routing : Option (List RoutingRule × Action)
  tunneledFetch : Bool
  stats : Option ℕ
  dnsIntercept : Bool
  domainStrategy : String
  (ipv6Tproxy profileExplicit : Bool)
  deriving DecidableEq, Repr

/-- `LOOPBACK_NETS`: destinations no client-facing inbound may reach. -/
def loopbackNets : List String :=
  ["0.0.0.0/8", "127.0.0.0/8", "169.254.0.0/16", "::/128", "::1/128", "fe80::/10"]

/-- `RW_TAG`. -/
def rwTag : String := "rw-in"

/-- `DIRECT_LAN_TAG`. -/
def directLanTag : String := "direct-lan"

/-- `rw_inbound_block`. -/
def rwInboundBlock (rw : RwInbound) : Inbound where
  tag := rwTag
  protocol := "vless"
  listen := some "0.0.0.0"
  port := rw.port
  settings := .vless (rw.clients.map fun c => ⟨c.id, "xtls-rprx-vision", c.email⟩) "none"
  sniffing := some { destOverride := ["http", "tls", "quic"], routeOnly := some true }
  stream := some (.reality rw.dest rw.serverNames rw.privateKey rw.shortIds)

section

variable (node : Node) (settings : Settings) (opts : BuildOptions) (rw : Option RwInbound)

/-- `rw_lan_outbound`. -/
def rwLanOutbound : Outbound where
  tag := directLanTag
  protocol := "freedom"
  settings := some (.freedom (some "UseIP") none none)
  stream := some { sockopt := { mark := settings.egressMark } }

/-- `rw_lan_rule`: one exact-name rule for every mapped host. -/
def rwLanRule (hosts : List (String × String)) : FieldRule where
  domain := some (((hosts.map Prod.fst).insertionSort (· ≤ ·)).map fun name => "full:" ++ name)
  outboundTag := directLanTag

/-- The resolver: DoH unless a profile switched it off and DNS is not intercepted. -/
def dnsServers : Except String DnsServers :=
  let dohOn := match opts.profile with
    | some p => p.dohEnabled
    | none => true
  let dohUrl := match opts.profile with
    | some p => orDefault p.dohUrl settings.dohUrl
    | none => settings.dohUrl
  if opts.dnsIntercept || dohOn then
    if "https://".toList.isPrefixOf dohUrl.toList then .ok (.doh dohUrl)
    else .error ("DoH resolver URL must use https:// (got " ++ pyRepr dohUrl ++
      "); a plaintext resolver would expose every client's domains and is never installed " ++
      "as dns.servers")
  else .ok .localhost

/-- `proxy_settings`: protocol and server block of the node's outbound. -/
def proxySettings : Except String (String × OutboundSettings) :=
  match node.protocol with
  | .trojan => .ok ("trojan", .trojan node.address node.port node.password)
  | .shadowsocks =>
    if node.method ∈ ssMethods then
      .ok ("shadowsocks", .shadowsocks node.address node.port node.method node.password)
    else .error ("unsupported shadowsocks cipher " ++ pyRepr node.method)
  | .vless => .ok ("vless", .vless node.address node.port node.uuid
      (if node.flow = "" then none else some node.flow))

/-- `security_choices`. -/
def securityChoices : List String :=
  match node.protocol with
  | .shadowsocks => ["none"]
  | .trojan => ["reality", "tls"]
  | .vless => ["reality", "tls"]

/-- A value that is emitted only when it is not empty. -/
def nonEmpty (value : String) : Option String := if value = "" then none else some value

/-- The profile when it was assigned to the node explicitly. -/
def BuildOptions.explicitProfile : Option TuningProfile :=
  if opts.profileExplicit then opts.profile else none

/-- The uTLS fingerprint: only an explicitly assigned profile overrides the node's own. -/
def fingerprint : String :=
  match opts.explicitProfile with
  | some p => p.fingerprint
  | none => node.fingerprint

/-- `tlsSettings` of the proxy outbound. -/
def tlsSettings : TlsSettings :=
  let alpn := match opts.explicitProfile with
    | some p => orDefault p.alpn node.alpn
    | none => node.alpn
  { serverName := node.sni
    fingerprint := fingerprint node opts
    alpn := if alpn = "" then none else some (commaParts alpn)
    minVersion := opts.profile.bind fun p => nonEmpty p.tlsMin
    maxVersion := opts.profile.bind fun p => nonEmpty p.tlsMax }

/-- `xhttpSettings` of the proxy outbound. -/
def xhttpSettings : XhttpSettings where
  path := node.path
  host := node.host
  mode := node.mode
  xPaddingBytes := (opts.profile.map (·.xhttpPadding)).getD ""
  maxConcurrency := (opts.profile.map (·.xmuxMaxConcurrency)).getD ""
  maxConnections := (opts.profile.map (·.xmuxMaxConnections)).getD ""

/-- The freedom outbound the proxy dials through, when fragmentation or noise is on. -/
def fragmentOutbound : Option Outbound :=
  match opts.profile with
  | none => none
  | some p =>
    let noisy := p.noiseEnabled && !p.noises.isEmpty
    if p.fragEnabled || noisy then
      some { tag := "fragment"
             protocol := "freedom"
             settings := some (.freedom none
               (if p.fragEnabled then some ⟨p.fragPackets, p.fragLength, p.fragInterval⟩ else none)
               (if noisy then some p.noises else none))
             stream := some { sockopt := { mark := settings.egressMark } } }
    else none

/-- Stream settings of the proxy outbound; an unknown security is refused. -/
def proxyStream (protocol : String) : Except String OutboundStream :=
  let network := orDefault node.network "tcp"
  let security := orDefault node.security "reality"
  if security ∈ securityChoices node then
    .ok { network := some network
          security := some security
          sockopt := { mark := settings.egressMark
                       dialerProxy := (fragmentOutbound settings opts).map (·.tag) }
          reality := if security = "reality" then
            some ⟨node.sni, fingerprint node opts, node.publicKey, node.shortId⟩ else none
          tls := if security = "tls" then some (tlsSettings node opts) else none
          xhttp := if network = "xhttp" then some (xhttpSettings node opts) else none }
  else .error ("unsupported security '" ++ security ++ "' for a " ++ protocol ++
    " node (expected " ++ " or ".intercalate (securityChoices node) ++ ")")

/-- The mux block: only for a profiled node without a Vision flow. -/
def muxBlock : Except String (Option Mux) :=
  match opts.profile with
  | none => .ok none
  | some p =>
    if node.flow = "" ∧ node.protocol ≠ .shadowsocks then do
      let concurrency ← if p.muxEnabled && !(strip p.muxConcurrency.toList).isEmpty
        then (intOrRaise p.muxConcurrency).map some else .ok none
      pure (some { enabled := p.muxEnabled
                   concurrency := concurrency
                   xudpProxyUdp443 := if p.muxEnabled then nonEmpty p.xudpProxyUdp443 else none })
    else .ok none

/-- The proxy outbound of the node. -/
def proxyOutbound : Except String Outbound := do
  let (protocol, server) ← proxySettings node
  let stream ← proxyStream node settings opts protocol
  let mux ← muxBlock node opts
  pure { tag := "proxy", protocol := protocol, settings := some server,
         stream := some stream, mux := mux }

/-- A transparent-proxy inbound. -/
def tproxyInbound (tag : String) (listen : Option String) (port mark : ℕ) : Inbound where
  tag := tag
  protocol := "dokodemo-door"
  listen := listen
  port := port
  settings := .dokodemo "tcp,udp" true
  sniffing := some { destOverride := ["http", "tls", "quic"] }
  stream := some (.sockopt { mark := mark, tproxy := some "tproxy" })

/-- Tags of the transparent-proxy inbounds that are emitted. -/
def tproxyTags : List String :=
  "tproxy-in" :: if opts.ipv6Tproxy then ["tproxy-in6"] else []

/-- Tags of the inbounds clients reach the gateway through. -/
def clientFacing : List String :=
  tproxyTags opts ++ if rw.isSome then [rwTag] else []

/-- The inbounds, in the order they are appended. -/
def inbounds : List Inbound :=
  [tproxyInbound "tproxy-in" none settings.tproxyPort settings.egressMark] ++
  (if opts.ipv6Tproxy then
    [tproxyInbound "tproxy-in6" (some "::") settings.tproxyPort6 settings.egressMark] else []) ++
  (match opts.stats with
    | some apiPort => [{ tag := "api", protocol := "dokodemo-door", listen := some "127.0.0.1",
                         port := apiPort, settings := .address "127.0.0.1" }]
    | none => []) ++
  (if opts.tunneledFetch then
    [{ tag := "sub-fetch", protocol := "http", listen := some "127.0.0.1",
       port := settings.localProxyPort, settings := .http }] else []) ++
  (rw.map rwInboundBlock).toList

/-- The LAN names remote access maps; none without the inbound. -/
def lanHosts : List (String × String) := (rw.map (·.hosts)).getD []

/-- The outbounds: the proxy, its dialer, the fixed ones, then the optional ones. -/
def outbounds (proxy : Outbound) (settings : Settings) (opts : BuildOptions)
    (rw : Option RwInbound) : List Outbound :=
  [proxy] ++ (fragmentOutbound settings opts).toList ++
  [{ tag := "direct", protocol := "freedom", settings := some (.freedom none none none),
     stream := some { sockopt := { mark := settings.egressMark } } },
   { tag := "block", protocol := "blackhole", settings := some .blackhole }] ++
  (if opts.dnsIntercept then [{ tag := "dns-out", protocol := "dns" }] else []) ++
  (if lanHosts rw = [] then [] else [rwLanOutbound settings])

/-- The rules before anything is layered on top: the stored ones, or the two built-in ones. -/
def baseRules : Except String (List FieldRule) :=
  match opts.routing with
  | some (rules, defaultAction) => rulesToXray rules defaultAction
  | none => .ok [privateRule, catchAll .proxy]

/-- The outbound a profile sends QUIC to. -/
def quicTag : Option String :=
  match opts.profile with
  | none => none
  | some p => match p.quic with
    | .allow => none
    | .drop => some "block"
    | .proxy => some "proxy"

/-- The index right after the built-in private rule. -/
def afterPrivate (rules : List FieldRule) : ℕ :=
  match rules.findIdx? fun r => r.ip = some ["geoip:private"] && r.outboundTag = "direct" with
  | some i => i + 1
  | none => 0

/-- The QUIC rule goes in behind the private rule and ahead of every user rule. -/
def layerQuic (rules : List FieldRule) : List FieldRule :=
  match quicTag opts with
  | none => rules
  | some tag =>
    rules.insertIdx (afterPrivate rules) { protocol := some ["quic"], outboundTag := tag }

/-- Intercepted DNS is matched first of what is there. -/
def layerDns (rules : List FieldRule) : List FieldRule :=
  if opts.dnsIntercept then
    rules.insertIdx 0 { inboundTag := some (tproxyTags opts), port := some (.number 53),
                        outboundTag := "dns-out" }
  else rules

/-- The api inbound is dispatched first of what is there. -/
def layerStats (rules : List FieldRule) : List FieldRule :=
  if opts.stats.isSome then
    rules.insertIdx 0 { inboundTag := some ["api"], outboundTag := "api" }
  else rules

/-- The LAN-name rule goes in right before the last rule. -/
def layerLan (rules : List FieldRule) : List FieldRule :=
  if lanHosts rw = [] then rules
  else rules.insertIdx (rules.length - 1) (rwLanRule (lanHosts rw))

/-- The loopback block of the client-facing inbounds. -/
def loopbackRule : FieldRule :=
  { inboundTag := some (clientFacing opts rw), ip := some loopbackNets, outboundTag := "block" }

/-- The loopback block goes in last, and first. -/
def layerLoopback (rules : List FieldRule) : List FieldRule :=
  rules.insertIdx 0 (loopbackRule opts rw)

/-- `build_config`. -/
def buildConfig : Except String Config := do
  let servers ← dnsServers settings opts
  let proxy ← proxyOutbound node settings opts
  let base ← baseRules opts
  let rules := layerStats opts (layerDns opts (layerQuic opts base))
  pure { dnsServers := servers
         dnsHosts := if lanHosts rw = [] then none else some (lanHosts rw)
         inbounds := inbounds settings opts rw
         outbounds := outbounds proxy settings opts rw
         domainStrategy := opts.domainStrategy
         rules := layerLoopback opts rw (layerLan rw rules)
         apiServices := opts.stats.map fun _ => ["StatsService", "RoutingService"] }

end

variable {settings : Settings} {node : Node}

section Layers

variable {opts : BuildOptions} {rw : Option RwInbound}

/-- The QUIC rule a profile asks for. -/
def quicRules (opts : BuildOptions) : List FieldRule :=
  (quicTag opts).toList.map fun tag => { protocol := some ["quic"], outboundTag := tag }

/-- The DNS interception rule, when it is on. -/
def dnsRules (opts : BuildOptions) : List FieldRule :=
  if opts.dnsIntercept then
    [{ inboundTag := some (tproxyTags opts), port := some (.number 53), outboundTag := "dns-out" }]
  else []

/-- The api dispatch rule, when the stats service is on. -/
def apiRules (opts : BuildOptions) : List FieldRule :=
  if opts.stats.isSome then [{ inboundTag := some ["api"], outboundTag := "api" }] else []

/-- The LAN-name rule, when names are mapped. -/
def lanRules (rw : Option RwInbound) : List FieldRule :=
  if lanHosts rw = [] then [] else [rwLanRule (lanHosts rw)]

theorem insertIdx_length_append {α : Type} (front back : List α) (new : α) :
    (front++back).insertIdx front.length new=front++new::back := by
  induction front with
  | nil => rfl
  | cons a rest ih =>
    simp only [List.cons_append,List.length_cons,List.insertIdx_succ_cons,ih]

theorem insertIdx_before_last {α : Type} (l : List α) (last new : α) :
    (l++[last]).insertIdx ((l++[last]).length-1) new=l++[new,last] := by
  have hlen : (l++[last]).length-1=l.length := by simp
  rw [hlen,insertIdx_length_append]

/-- What the stored routing contributes: the translated enabled rules and the default action. -/
def StoredPart (opts : BuildOptions) (fields : List FieldRule) (action : Action) : Prop :=
  match opts.routing with
  | some (rules, defaultAction) => action = defaultAction ∧
      ((byPosition rules).filter fun r => r.enabled).mapM ruleToField = .ok fields
  | none => action = .proxy ∧ fields = []

/-- The stored or built-in rules start with the private rule and end with a catch-all. -/
theorem baseRules_eq_ok {base : List FieldRule} (h : baseRules opts = .ok base) :
    ∃ fields action, base=privateRule::fields++[catchAll action] ∧
      StoredPart opts fields action := by
  unfold baseRules at h
  unfold StoredPart
  cases hr : opts.routing with
  | none =>
    rw [hr] at h
    cases h
    exact ⟨[],.proxy,rfl,rfl,rfl⟩
  | some routing =>
    obtain ⟨rules,defaultAction⟩ := routing
    rw [hr] at h
    dsimp only [rulesToXray] at h
    cases hf : ((byPosition rules).filter fun r => r.enabled).mapM ruleToField with
    | error e =>
      rw [hf] at h
      cases h
    | ok fields =>
      rw [hf] at h
      cases h
      exact ⟨fields,defaultAction,rfl,rfl,hf⟩

theorem layerQuic_cons (rest : List FieldRule) :
    layerQuic opts (privateRule::rest)=privateRule::(quicRules opts++rest) := by
  unfold layerQuic quicRules
  cases quicTag opts with
  | none => rfl
  | some tag => rfl

theorem layerDns_eq (rules : List FieldRule) : layerDns opts rules=dnsRules opts++rules := by
  unfold layerDns dnsRules
  cases opts.dnsIntercept <;> rfl

theorem layerStats_eq (rules : List FieldRule) : layerStats opts rules=apiRules opts++rules := by
  unfold layerStats apiRules
  cases opts.stats.isSome <;> rfl

theorem layerLan_append (rules : List FieldRule) (last : FieldRule) :
    layerLan rw (rules++[last])=rules++lanRules rw++[last] := by
  unfold layerLan lanRules
  split
  · simp
  · rw [insertIdx_before_last]
    simp

/-- The rule list a successful build emits, written out. -/
def layeredRules (opts : BuildOptions) (rw : Option RwInbound) (fields : List FieldRule)
    (action : Action) : List FieldRule :=
  loopbackRule opts rw :: (apiRules opts ++ dnsRules opts ++ [privateRule] ++ quicRules opts ++
    fields ++ lanRules rw ++ [catchAll action])

/-- The insertions of the builder produce the layers in their written-out order. -/
theorem layers_eq (fields : List FieldRule) (action : Action) :
    layerLoopback opts rw (layerLan rw (layerStats opts (layerDns opts
      (layerQuic opts (privateRule::fields++[catchAll action]))))) =
      layeredRules opts rw fields action := by
  rw [List.cons_append,layerQuic_cons,layerDns_eq,layerStats_eq]
  have hsplit : apiRules opts++(dnsRules opts ++
      privateRule::(quicRules opts++(fields++[catchAll action]))) =
      (apiRules opts++dnsRules opts++[privateRule]++quicRules opts++fields) ++
        [catchAll action] := by simp
  rw [hsplit,layerLan_append]
  simp [layerLoopback,layeredRules]

/-- The config a build assembles from its parts. -/
def assemble (settings : Settings) (opts : BuildOptions) (rw : Option RwInbound)
    (servers : DnsServers) (proxy : Outbound) (fields : List FieldRule) (action : Action) :
    Config where
  dnsServers := servers
  dnsHosts := if lanHosts rw = [] then none else some (lanHosts rw)
  inbounds := inbounds settings opts rw
  outbounds := outbounds proxy settings opts rw
  domainStrategy := opts.domainStrategy
  rules := layeredRules opts rw fields action
  apiServices := opts.stats.map fun _ => ["StatsService", "RoutingService"]

/-- A successful build assembles parts that do not depend on remote access, so that it
succeeds with any other remote-access inbound too. -/
theorem buildConfig_eq_ok {cfg : Config} (h : buildConfig node settings opts rw = .ok cfg) :
    ∃ servers proxy fields action, StoredPart opts fields action ∧
      proxyOutbound node settings opts = .ok proxy ∧
      cfg=assemble settings opts rw servers proxy fields action ∧
      ∀ rw', buildConfig node settings opts rw' =
        .ok (assemble settings opts rw' servers proxy fields action) := by
  unfold buildConfig at h ⊢
  cases hs : dnsServers settings opts with
  | error e =>
    rw [hs] at h
    cases h
  | ok servers =>
    cases hp : proxyOutbound node settings opts with
    | error e =>
      rw [hs,hp] at h
      cases h
    | ok proxy =>
      cases hb : baseRules opts with
      | error e =>
        rw [hs,hp,hb] at h
        cases h
      | ok base =>
        obtain ⟨fields,action,rfl,hstored⟩ := baseRules_eq_ok hb
        rw [hs,hp,hb] at h
        have hcfg := Except.ok.inj h
        refine ⟨servers,proxy,fields,action,hstored,rfl,?_,?_⟩
        · rw [← hcfg,layers_eq]
          rfl
        · intro rw'
          change .ok _=Except.ok _
          rw [layers_eq]
          rfl

end Layers

/-- The parts a proxy outbound is put together from. -/
theorem proxyOutbound_parts {opts : BuildOptions}
    {proxy : Outbound} (h : proxyOutbound node settings opts = .ok proxy) :
    ∃ protocol server stream mux, proxySettings node = .ok (protocol, server) ∧
      proxyStream node settings opts protocol = .ok stream ∧ muxBlock node opts = .ok mux ∧
      proxy = { tag := "proxy", protocol := protocol, settings := some server,
                stream := some stream, mux := mux } := by
  obtain ⟨⟨protocol,server⟩,hsrv,h⟩ := exists_of_bind_ok h
  obtain ⟨stream,hstream,h⟩ := exists_of_bind_ok h
  obtain ⟨mux,hmux,h⟩ := exists_of_bind_ok h
  exact ⟨protocol,server,stream,mux,hsrv,hstream,hmux,(Except.ok.inj h).symm⟩

end PiGwPanel.ConfigBuilder
