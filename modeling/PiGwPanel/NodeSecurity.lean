import PiGwPanel.ConfigBuilder

/-!
# No node is dialled in the clear

A node arrives from feeds and forms with text in every field. Normalisation and
the builder both decide what its stream security may be, each by comparing text;
here the node keeps its text, normalisation is the source's sequence of tests,
and the outbound of every config that builds is shown to be encrypted.
-/

namespace PiGwPanel.NodeSecurity

open Models ConfigBuilder List

/-- A node as it is handed to the panel: text in every field. -/
structure RawNode where
  id : ℕ
  (name address : String)
  port : ℕ
  uuid : String
  protocol : String := "vless"
  (password method : String := "")
  transport : String := "vision"
  (sni publicKey shortId : String := "")
  fingerprint : String := "chrome"
  flow : String := "xtls-rprx-vision"
  network : String := "tcp"
  security : String := "reality"
  (path host mode alpn note : String := "")
  subscriptionId : Option ℕ := none
  stale : Bool := false
  tuningProfileId : Option ℕ := none
  position : ℕ := 0
  deriving DecidableEq, Repr

/-- `PROTOCOLS`. -/
def protocols : List String := ["vless", "trojan", "shadowsocks"]

/-- An unknown protocol is taken for VLESS. -/
def RawNode.knownProtocol (node : RawNode) : RawNode :=
  if node.protocol ∉ protocols then { node with protocol := "vless" } else node

/-- The fields a protocol without XHTTP clears. -/
def RawNode.clearXhttp (node : RawNode) : RawNode :=
  { node with
    transport := "vision", network := "tcp", flow := "", path := "", host := "", mode := "" }

/-- The branch on the transport of a VLESS node. -/
def RawNode.settleTransport (node : RawNode) : RawNode :=
  if node.transport = "xhttp" then { node with network := "xhttp", flow := "" }
  else { node with network := "tcp", flow := orDefault node.flow "xtls-rprx-vision" }

/-- The two tests of the security field, in the source's order. -/
def RawNode.settleSecurity (node : RawNode) : RawNode :=
  let honoured := if node.security ∉ ["reality", "tls"] then
    { node with security := if node.publicKey ≠ "" then "reality" else "tls" } else node
  if honoured.security = "reality" ∧ honoured.publicKey = "" then
    { honoured with security := "tls" } else honoured

/-- What follows the test of the protocol. -/
def RawNode.settle (node : RawNode) : RawNode :=
  if node.protocol ≠ "vless" then
    let node := node.clearXhttp
    if node.protocol = "shadowsocks" then
      { node with security := "none", method := orDefault node.method defaultSsMethod }
    else node.settleSecurity
  else node.settleTransport.settleSecurity

/-- `Node.normalize` on text. -/
def RawNode.normalize (node : RawNode) : RawNode := node.knownProtocol.settle

/-- The builder's tests of the protocol: whatever is neither Trojan nor Shadowsocks is VLESS. -/
def readProtocol (protocol : String) : Protocol :=
  if protocol = "trojan" then .trojan
  else if protocol = "shadowsocks" then .shadowsocks
  else .vless

/-- The one transport that is told apart. -/
def readTransport (transport : String) : Transport :=
  if transport = "xhttp" then .xhttp else .vision

/-- The node as the builder reads it. -/
def RawNode.read (node : RawNode) : Node :=
  { node with protocol := readProtocol node.protocol, transport := readTransport node.transport }

theorem settleSecurity_eq (node : RawNode) : node.settleSecurity =
      { node with security := securityChoice node.publicKey node.security } := by
  obtain ⟨⟩ := node
  rename_i publicKey _ _ _ _ security _ _ _ _ _ _ _ _ _
  unfold RawNode.settleSecurity securityChoice
  by_cases hkey : publicKey = ""
  · by_cases hreal : security = "reality"
    · simp [hkey,hreal]
    · by_cases htls : security = "tls" <;> simp [hkey,hreal,htls]
  · by_cases hreal : security = "reality"
    · simp [hkey,hreal]
    · by_cases htls : security = "tls" <;> simp [hkey,hreal,htls]

section Settle

variable {node : RawNode}

/-- A Shadowsocks node carries its own cipher and no security layer. -/
theorem settle_shadowsocks (h : node.protocol = "shadowsocks") :
    node.settle = { node.clearXhttp with
      security := "none", method := orDefault node.method defaultSsMethod } := by
  have hclear : node.clearXhttp.protocol = "shadowsocks" := h
  rw [RawNode.settle,if_pos (by rw [h]; decide)]
  exact if_pos hclear

theorem settle_trojan (h : node.protocol = "trojan") : node.settle = { node.clearXhttp with
      security := securityChoice node.publicKey node.security } := by
  have hclear : node.clearXhttp.protocol ≠ "shadowsocks" := by
    change node.protocol ≠ "shadowsocks"
    rw [h]
    decide
  rw [RawNode.settle,if_pos (by rw [h]; decide)]
  exact (if_neg hclear).trans (settleSecurity_eq node.clearXhttp)

theorem settle_xhttp (h : node.protocol = "vless") (htrans : node.transport = "xhttp") :
    node.settle = { node with
      network := "xhttp", flow := ""
      security := securityChoice node.publicKey node.security } := by
  rw [RawNode.settle,if_neg (not_not_intro h),settleSecurity_eq,RawNode.settleTransport,
    if_pos htrans]

theorem settle_vision (h : node.protocol = "vless") (htrans : node.transport ≠ "xhttp") :
    node.settle = { node with
      network := "tcp", flow := orDefault node.flow "xtls-rprx-vision"
      security := securityChoice node.publicKey node.security } := by
  rw [RawNode.settle,if_neg (not_not_intro h),settleSecurity_eq,RawNode.settleTransport,
    if_neg htrans]

end Settle

variable {protocol : String}

theorem mem_protocols (h : protocol∈protocols) :
    protocol = "vless" ∨ protocol = "trojan" ∨ protocol = "shadowsocks" := by
  simpa only [protocols,mem_cons,not_mem_nil,or_false] using h

theorem knownProtocol_mem (node : RawNode) : node.knownProtocol.protocol∈protocols := by
  unfold RawNode.knownProtocol
  split
  · exact mem_cons_self
  next hknown =>
    exact not_not.mp hknown

variable {node : RawNode}

theorem read_knownProtocol (node : RawNode) : node.knownProtocol.read=node.read := by
  unfold RawNode.knownProtocol
  split
  next hunknown =>
    have hread : readProtocol node.protocol=readProtocol "vless" := by
      simp only [protocols,mem_cons,not_or] at hunknown
      rw [readProtocol,if_neg hunknown.2.1,if_neg hunknown.2.2.1]
      rfl
    simp only [RawNode.read,hread]
  · rfl

theorem settle_protocol (node : RawNode) : node.settle.protocol=node.protocol := by
  unfold RawNode.settle
  split
  · dsimp only
    split
    · rfl
    · rw [settleSecurity_eq]
      rfl
  · rw [settleSecurity_eq,RawNode.settleTransport]
    split <;> rfl

section

variable (h : node.protocol ∈ protocols)

include h

theorem knownProtocol_of_mem : node.knownProtocol=node :=
  if_neg (not_not_intro h)

/-- The two readings of normalisation agree: normalising the text and then reading it is reading
it and then normalising. -/
theorem read_settle : node.settle.read=node.read.normalize := by
  obtain hvless | htrojan | hss := mem_protocols h
  · by_cases hxhttp : node.transport = "xhttp"
    · rw [settle_xhttp hvless hxhttp]
      simp [RawNode.read,Node.normalize,readProtocol,readTransport,hvless,hxhttp]
    · rw [settle_vision hvless hxhttp]
      simp [RawNode.read,Node.normalize,readProtocol,readTransport,hvless,hxhttp]
  · rw [settle_trojan htrojan]
    simp [RawNode.read,RawNode.clearXhttp,Node.normalize,readProtocol,readTransport,htrojan]
  · rw [settle_shadowsocks hss]
    simp [RawNode.read,RawNode.clearXhttp,Node.normalize,readProtocol,readTransport,hss]

theorem settle_idem : node.settle.settle=node.settle := by
  have hproto := settle_protocol node
  obtain hvless | htrojan | hss := mem_protocols h
  · rw [hvless] at hproto
    by_cases hxhttp : node.transport = "xhttp"
    · have hstep := settle_xhttp hvless hxhttp
      rw [settle_xhttp hproto (by rw [hstep,hxhttp]),hstep]
      simp only [securityChoice_idem]
    · have hstep := settle_vision hvless hxhttp
      rw [settle_vision hproto (by rw [hstep]; exact hxhttp),hstep]
      simp only [securityChoice_idem,orDefault_idem]
  · rw [htrojan] at hproto
    have hstep := settle_trojan htrojan
    rw [settle_trojan hproto,hstep]
    simp only [RawNode.clearXhttp,securityChoice_idem]
  · rw [hss] at hproto
    have hstep := settle_shadowsocks hss
    rw [settle_shadowsocks hproto,hstep]
    simp only [RawNode.clearXhttp,orDefault_idem]

end

theorem read_normalize (node : RawNode) : node.normalize.read=node.read.normalize := by
  rw [RawNode.normalize,read_settle (knownProtocol_mem node),read_knownProtocol]

theorem normalize_protocol_mem (node : RawNode) : node.normalize.protocol∈protocols := by
  rw [RawNode.normalize,settle_protocol]
  exact knownProtocol_mem node

/-- Normalising a normalised node changes nothing, whatever text its fields hold. -/
theorem RawNode.normalize_idem (node : RawNode) : node.normalize.normalize=node.normalize := by
  rw [RawNode.normalize,knownProtocol_of_mem (normalize_protocol_mem node)]
  exact settle_idem (knownProtocol_mem node)

/-- An outbound that encrypts: reality with a key or TLS for VLESS and Trojan, and no layer only
over a cipher of the supported list. -/
inductive Encrypted (outbound : Outbound) (stream : OutboundStream) : Prop
  | reality (settings : RealitySettings) (protocol : outbound.protocol ∈ ["vless", "trojan"])
      (security : stream.security = some "reality") (given : stream.reality = some settings)
      (key : settings.publicKey ≠ "")
  | tls (settings : TlsSettings) (protocol : outbound.protocol ∈ ["vless", "trojan"])
      (security : stream.security = some "tls") (given : stream.tls = some settings)
  | cipher (address : String) (port : ℕ) (method password : String)
      (protocol : outbound.protocol = "shadowsocks") (security : stream.security = some "none")
      (given : outbound.settings = some (.shadowsocks address port method password))
      (supported : method ∈ ssMethods)

/-- The choice of a security is one of the two honoured ones, and reality comes with a key. -/
theorem securityChoice_cases (publicKey security : String) :
    (securityChoice publicKey security = "reality" ∧ publicKey ≠ "") ∨
      securityChoice publicKey security = "tls" := by
  unfold securityChoice
  split
  · exact .inr rfl
  next hkey =>
    split
    next hgiven =>
      obtain hreal | htls := hgiven
      · exact .inl ⟨hreal,hkey⟩
      · exact .inr htls
    · exact .inl ⟨rfl,hkey⟩

theorem normalize_security (node : Node) : node.normalize.security =
      if node.protocol = .shadowsocks then "none"
      else securityChoice node.publicKey node.security := by
  unfold Node.normalize
  cases hproto : node.protocol with
  | shadowsocks => rfl
  | trojan => rfl
  | vless => cases htrans : node.transport <;> rfl

theorem normalize_protocol (node : Node) : node.normalize.protocol=node.protocol := by
  unfold Node.normalize
  split <;> rfl

theorem normalize_publicKey (node : Node) : node.normalize.publicKey=node.publicKey := by
  unfold Node.normalize
  split <;> rfl

section Builder

variable {node : Node} {settings : Settings} {opts : BuildOptions}

/-- The stream settings of a node that names its security. -/
theorem proxyStream_eq_ok {stream : OutboundStream} (hsec : node.security ≠ "")
    (h : proxyStream node settings opts protocol = .ok stream) :
    stream.security=some node.security ∧ (node.security = "reality" → stream.reality =
        some ⟨node.sni,fingerprint node opts,node.publicKey,node.shortId⟩) ∧
      (node.security = "tls" → stream.tls=some (tlsSettings node opts)) := by
  have hgiven : orDefault node.security "reality" = node.security := if_neg hsec
  unfold proxyStream at h
  rw [hgiven] at h
  dsimp only at h
  split at h
  · cases h
    exact ⟨rfl,fun hreal => if_pos hreal,fun htls => if_pos htls⟩
  · cases h

end Builder

/-- The protocol of the outbound is the text the node's protocol was read from. -/
theorem proxySettings_protocol {node : Node} {server : OutboundSettings}
    (h : proxySettings node = .ok (protocol, server)) :
    protocol∈protocols ∧ readProtocol protocol=node.protocol := by
  unfold proxySettings at h
  cases hproto : node.protocol with
  | vless =>
    rw [hproto] at h
    cases h
    decide
  | trojan =>
    rw [hproto] at h
    cases h
    decide
  | shadowsocks =>
    rw [hproto] at h
    dsimp only at h
    split at h
    · cases h
      decide
    · cases h

theorem readProtocol_inj {a b : String} (ha : a∈protocols) (hb : b∈protocols)
    (h : readProtocol a=readProtocol b) : a=b := by
  obtain rfl | rfl | rfl := mem_protocols ha <;> obtain rfl | rfl | rfl := mem_protocols hb <;>
    first | rfl | exact absurd h (by decide)

/-- Whatever the profile and the other options are, the outbound of a normalised node encrypts,
under the security normalisation gave it. -/
theorem proxyOutbound_encrypted {node : Node} {settings : Settings} {opts : BuildOptions}
    {proxy : Outbound} (h : proxyOutbound node.normalize settings opts = .ok proxy) :
    ∃ stream, proxy.stream=some stream ∧ stream.security=some node.normalize.security ∧
      Encrypted proxy stream := by
  obtain ⟨protocol,server,stream,mux,hsrv,hstream,-,rfl⟩ := proxyOutbound_parts h
  have hsec := normalize_security node
  cases hproto : node.protocol with
  | shadowsocks =>
    rw [hproto,if_pos rfl] at hsec
    obtain ⟨hsecurity,-,-⟩ := proxyStream_eq_ok (by rw [hsec]; decide) hstream
    rw [proxySettings,normalize_protocol,hproto] at hsrv
    dsimp only at hsrv
    split at hsrv
    next hsupp =>
      cases hsrv
      exact ⟨stream,rfl,hsecurity, .cipher _ _ _ _ rfl (hsec ▸ hsecurity) rfl hsupp⟩
    · cases hsrv
  | trojan | vless =>
    rw [hproto,if_neg (by decide)] at hsec
    have hknown : protocol∈["vless", "trojan"] := by
      obtain ⟨hmem,hread⟩ := proxySettings_protocol hsrv
      rw [normalize_protocol,hproto] at hread
      obtain rfl | rfl | rfl := mem_protocols hmem
      · decide
      · decide
      · exact absurd hread (by decide)
    obtain ⟨hreal,hkey⟩ | htls := securityChoice_cases node.publicKey node.security
    · rw [hreal] at hsec
      obtain ⟨hsecurity,hgiven,-⟩ := proxyStream_eq_ok (by rw [hsec]; decide) hstream
      refine ⟨stream,rfl,hsecurity,.reality _ hknown (hsec ▸ hsecurity) (hgiven hsec) ?_⟩
      rw [normalize_publicKey]
      exact hkey
    · rw [htls] at hsec
      obtain ⟨hsecurity,-,hgiven⟩ := proxyStream_eq_ok (by rw [hsec]; decide) hstream
      exact ⟨stream,rfl,hsecurity,.tls _ hknown (hsec ▸ hsecurity) (hgiven hsec)⟩

/-- The proxy outbound stands first, and no other one carries its tag. -/
theorem outbounds_proxy (proxy : Outbound) (settings : Settings) (opts : BuildOptions)
    (rw : Option RwInbound) : (outbounds proxy settings opts rw).head? = some proxy ∧
      ∀ other∈outbounds proxy settings opts rw, other.tag = "proxy" → other=proxy := by
  refine ⟨rfl,?_⟩
  intro other hother htag
  simp only [outbounds,mem_append,mem_singleton,Option.mem_toList] at hother
  obtain (((hproxy | hfrag) | hfixed) | hdns) | hlan := hother
  · exact hproxy
  · have hfragmentTag : other.tag = "fragment" := by
      unfold fragmentOutbound at hfrag
      split at hfrag
      · cases hfrag
      · dsimp only at hfrag
        split at hfrag
        · cases hfrag
          rfl
        · cases hfrag
    rw [hfragmentTag] at htag
    exact absurd htag (by decide)
  · simp only [mem_cons,not_mem_nil,or_false] at hfixed
    obtain rfl | rfl := hfixed <;> exact absurd htag (by simp)
  · split at hdns
    · rw [mem_singleton.mp hdns] at htag
      exact absurd htag (by simp)
    · cases hdns
  · split at hlan
    · cases hlan
    · rw [mem_singleton.mp hlan] at htag
      exact absurd htag (by simp [rwLanOutbound,directLanTag])

/-- Whatever text a node carries, once it is normalised every config that
builds for it, under any profile and any options, has one proxy outbound; it speaks the node's
protocol under the node's security and encrypts. Normalising again changes nothing. -/
theorem buildConfig_never_plaintext (node : RawNode) : node.normalize.normalize = node.normalize ∧
      ∀ settings opts rw cfg, buildConfig node.normalize.read settings opts rw = .ok cfg →
        ∃ proxy stream, cfg.outbounds.head? = some proxy ∧ proxy.tag = "proxy" ∧
          (∀ other ∈ cfg.outbounds, other.tag = "proxy" → other = proxy) ∧
          proxy.stream = some stream ∧ proxy.protocol = node.normalize.protocol ∧
          stream.security = some node.normalize.security ∧ Encrypted proxy stream := by
  refine ⟨node.normalize_idem,?_⟩
  intro settings opts rw cfg h
  obtain ⟨servers,proxy,fields,action,-,hproxy,rfl,-⟩ := buildConfig_eq_ok h
  obtain ⟨hfst,hunique⟩ := outbounds_proxy proxy settings opts rw
  obtain ⟨protocol,server,_,mux,hsrv,-,-,heq⟩ := proxyOutbound_parts hproxy
  have hproto : proxy.protocol=node.normalize.protocol := by
    obtain ⟨hmem,hread⟩ := proxySettings_protocol hsrv
    rw [heq]
    exact readProtocol_inj hmem (normalize_protocol_mem node) hread
  have hsecurity : node.normalize.security=node.read.normalize.security := by
    rw [← read_normalize]
    rfl
  rw [read_normalize] at hproxy
  obtain ⟨stream,hstream,hsec,hencrypted⟩ := proxyOutbound_encrypted hproxy
  refine ⟨proxy,stream,hfst,by rw [heq],hunique,hstream,hproto,?_,hencrypted⟩
  rw [hsec,hsecurity]

/-- A feed entry of an unknown protocol that asks for no security. -/
def clearFeedNode : RawNode :=
  { id := 1, name := "feed", address := "203.0.113.5", port := 443
    uuid := "0b9d1b5c-5d0c-4a52-8a43-0f0e6a3c8f11", protocol := "hysteria2", transport := "ws"
    sni := "example.org", flow := "", network := "ws", security := "none", alpn := "h2"
    subscriptionId := some 1 }

/-- The settings of a stock panel. -/
def stockSettings : Settings := ⟨"https://1.1.1.1/dns-query", 255, 12345, 12346, 10809⟩

/-- A build without profile, rules or extras. -/
def bareOptions : BuildOptions := ⟨none, none, false, none, false, "IPIfNonMatch", false, false⟩

theorem buildConfig_never_plaintext_feed :
    ∃ cfg proxy stream, buildConfig clearFeedNode.normalize.read stockSettings bareOptions none =
        .ok cfg ∧ cfg.outbounds.head? = some proxy ∧ proxy.stream = some stream ∧
      stream.security = some "tls" ∧ Encrypted proxy stream := by
  have hbuilt : ∃ cfg, buildConfig clearFeedNode.normalize.read stockSettings bareOptions none =
      .ok cfg := ⟨_,rfl⟩
  obtain ⟨cfg,h⟩ := hbuilt
  obtain ⟨proxy,stream,hfst,-,-,hstream,-,hsec,hencrypted⟩ :=
    (buildConfig_never_plaintext clearFeedNode).2 stockSettings bareOptions none cfg h
  exact ⟨cfg,proxy,stream,h,hfst,hstream,hsec,hencrypted⟩

end PiGwPanel.NodeSecurity
