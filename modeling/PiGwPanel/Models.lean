import Mathlib.Data.List.Sort
import Mathlib.Data.String.Basic

/-!
# Records the panel stores

Nodes, tuning profiles and routing rules with every field `models.py` gives
them, and the normalisation a node goes through each time it is built. Closed
vocabularies are types; text that only xray interprets stays text.
-/

namespace PiGwPanel.Models

/-- What a node speaks. -/
inductive Protocol where
  | vless
  | trojan
  | shadowsocks
  deriving DecidableEq, Repr

/-- The transport choice of the node editor. -/
inductive Transport where
  | vision
  | xhttp
  deriving DecidableEq, Repr

/-- `SS_METHODS`: the Shadowsocks ciphers the panel builds an outbound for. -/
def ssMethods : List String :=
  ["aes-128-gcm", "aes-256-gcm", "chacha20-poly1305", "chacha20-ietf-poly1305",
   "xchacha20-poly1305", "2022-blake3-aes-128-gcm", "2022-blake3-aes-256-gcm",
   "2022-blake3-chacha20-poly1305"]

/-- `DEFAULT_SS_METHOD`. -/
def defaultSsMethod : String := "aes-128-gcm"

/-- A proxy server on record. -/
structure Node where
  id : ℕ
  (name address : String)
  port : ℕ
  uuid : String
  protocol : Protocol := .vless
  (password method : String := "")
  transport : Transport := .vision
  (sni publicKey shortId : String := "")
  fingerprint : String := "chrome"
  flow : String := "xtls-rprx-vision"
  network : String := "tcp"
  security : String := "reality"
  (path host mode alpn note : String := "")
  subscriptionId : Option ℕ := none
  stale : Bool := false
  tuningProfileId : Option ℕ := none
  position : ℕ := 0
  deriving DecidableEq, Repr

/-- The security a non-Shadowsocks node ends up with: only reality and tls are honoured, and
reality needs a public key. -/
def securityChoice (publicKey security : String) : String :=
  if publicKey = "" then "tls"
  else if security = "reality" ∨ security = "tls" then security
  else "reality"

/-- A value, or its default when it is empty. -/
def orDefault (value fallback : String) : String := if value = "" then fallback else value

/-- `Node.normalize`: transport, network, security and flow brought into agreement. -/
def Node.normalize (node : Node) : Node :=
  let plain := { node with
    transport := .vision, network := "tcp", flow := "", path := "", host := "", mode := "" }
  let security := securityChoice node.publicKey node.security
  match node.protocol, node.transport with
  | .shadowsocks, _ =>
    { plain with security := "none", method := orDefault node.method defaultSsMethod }
  | .trojan, _ => { plain with security := security }
  | .vless, .xhttp => { node with network := "xhttp", flow := "", security := security }
  | .vless, .vision => { node with
      network := "tcp", flow := orDefault node.flow "xtls-rprx-vision", security := security }

/-- One UDP noise entry of a profile. -/
structure Noise where
  (type packet delay : String)
  deriving DecidableEq, Repr

/-- What a profile does with QUIC. -/
inductive QuicMode where
  | allow
  | drop
  | proxy
  deriving DecidableEq, Repr

/-- A set of anti-DPI knobs. -/
structure TuningProfile where
  id : ℕ
  name : String
  fingerprint : String := "chrome"
  fragEnabled : Bool := false
  fragPackets : String := "tlshello"
  fragLength : String := "100-200"
  fragInterval : String := "10-20"
  muxEnabled : Bool := false
  dohEnabled : Bool := true
  dohUrl : String := ""
  quic : QuicMode := .allow
  noiseEnabled : Bool := false
  noises : List Noise := []
  (xhttpPadding xmuxMaxConcurrency xmuxMaxConnections muxConcurrency : String := "")
  (xudpProxyUdp443 alpn tlsMin tlsMax : String := "")
  deriving DecidableEq, Repr

/-- What a routing rule looks at. A stored type outside the vocabulary is kept so that the
builder can refuse it. -/
inductive RuleType where
  | geoip
  | geosite
  | domain
  | ip
  | port
  | device
  | unknown (type : String)
  deriving DecidableEq, Repr

/-- A rule type as it is stored. -/
def RuleType.text : RuleType → String
  | .geoip => "geoip"
  | .geosite => "geosite"
  | .domain => "domain"
  | .ip => "ip"
  | .port => "port"
  | .device => "device"
  | .unknown type => type

/-- Where a routing rule sends its traffic. -/
inductive Action where
  | direct
  | proxy
  | block
  deriving DecidableEq, Repr

/-- The outbound tag of an action. -/
def Action.tag : Action → String
  | .direct => "direct"
  | .proxy => "proxy"
  | .block => "block"

/-- A stored routing rule. -/
structure RoutingRule where
  id : Option ℕ
  position : ℤ
  type : RuleType
  value : String
  action : Action
  enabled : Bool := true
  (label dataset : String := "")
  deriving DecidableEq, Repr

theorem securityChoice_idem (publicKey security : String) :
    securityChoice publicKey (securityChoice publicKey security) =
      securityChoice publicKey security := by
  unfold securityChoice
  by_cases hkey : publicKey = ""
  · rw [if_pos hkey,if_pos hkey]
  · by_cases hsec : security = "reality" ∨ security = "tls"
    · rw [if_neg hkey,if_neg hkey,if_pos hsec,if_pos hsec]
    · rw [if_neg hkey,if_neg hkey,if_neg hsec,if_pos (.inl rfl)]

theorem orDefault_idem (value fallback : String) :
    orDefault (orDefault value fallback) fallback=orDefault value fallback := by
  unfold orDefault
  by_cases hval : value = ""
  · rw [if_pos hval]
    split <;> rfl
  · rw [if_neg hval,if_neg hval]

/-- A node built from a normalised node is that node: reads and repeated edits are safe. -/
theorem Node.normalize_idem (node : Node) : node.normalize.normalize=node.normalize := by
  cases hp : node.protocol with
  | shadowsocks => simp only [normalize,hp,orDefault_idem]
  | trojan => simp only [normalize,hp,securityChoice_idem]
  | vless =>
    cases ht : node.transport with
    | vision => simp only [normalize,hp,ht,securityChoice_idem,orDefault_idem]
    | xhttp => simp only [normalize,hp,ht,securityChoice_idem]

theorem Node.normalize_id (node : Node) : node.normalize.id=node.id := by
  unfold Node.normalize
  split <;> rfl

end PiGwPanel.Models
