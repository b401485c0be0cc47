import PiGwPanel.BackupDocument
import PiGwPanel.EntryLoop
import PiGwPanel.NodeSecurity
import PiGwPanel.PyValue

/-!
# The parsers of subscription feeds

`subs/parsers`: the format of a feed is sniffed, its container decoded, and the
entries inside read one by one into nodes or skip counts. There are four
formats: JSON nodes, whole xray configs in JSON, Clash YAML and lists of share
links. Every conversion of an entry is written with the exception it may raise,
and only the exceptions the source catches are caught.
-/

namespace PiGwPanel.FeedParsers

open Models NodeSecurity PyText PyValue
open EntryLoop BackupDocument

/-- The parts of a URL as `urlsplit` names them. -/
structure UrlParts where
  scheme : String
  (username hostname : Option String)
  /-- The port, or nothing inside where there is none; reading it may raise `ValueError`. -/
  port : Option (Option ℕ)
  (query fragment : String)

/-- The functions of the standard library and of the YAML loader the parsers call. -/
structure Library where
  /-- `str` of floats, containers and other objects. -/
  render : Value → String
  /-- `str.lower`. -/
  lower : String → String
  /-- `json.loads`; nothing where it raises `ValueError`. -/
  loadJson : String → Option Value
  /-- `yaml.load`; nothing where it raises. -/
  loadYaml : String → Option Value
  /-- `urllib.parse.urlsplit`; nothing where it raises `ValueError`. -/
  urlsplit : String → Option UrlParts
  /-- `urllib.parse.parse_qsl`. -/
  parseQsl : String → List (String × String)
  /-- `urllib.parse.unquote`. -/
  unquote : String → String
  /-- `urlsafe_b64decode` of ASCII text, decoded; nothing where it raises `binascii.Error`. -/
  decode64 : String → Option String
  /-- `json.loads` refuses integers that have no text. -/
  loadJson_short : ∀ text data, loadJson text = some data → data.long = false

/-- A port `safe_port` lets through. -/
abbrev LegalPort := {port : ℕ // 1 ≤ port ∧ port ≤ 65535}

/-- A node a parser built. -/
structure FeedNode where
  node : RawNode
  /-- The transport of a VLESS entry whose JSON gave something other than text. -/
  oddTransport : Option Value
  built : node.normalize = node
  port_legal : 1 ≤ node.port ∧ node.port ≤ 65535

/-- `_SKIP_ALIASES`. -/
def skipAliases : List (String × String) :=
  [("shadowsocks", "ss"), ("ssr", "ss"), ("ss2022", "ss"), ("hysteria", "hysteria2"),
   ("hy2", "hysteria2"), ("hy", "hysteria2"), ("socks5", "socks"), ("https", "http")]

/-- `SKIP_LABELS`. -/
def skipLabels : List String :=
  ["vmess", "trojan", "ss", "hysteria2", "tuic", "wireguard", "socks", "http", "snell", "anytls",
   "juicity", "mieru", "invalid", "other"]

/-- The defaults of a node's fields. -/
def plainNode : RawNode := { id := 0, name := "", address := "", port := 0, uuid := "" }

theorem normalize_port (node : RawNode) : node.normalize.port=node.port := by
  have hread : node.read.normalize.port=node.read.port := by
    unfold Node.normalize
    split <;> rfl
  exact (congrArg Node.port (read_normalize node)).trans hread

/-- `Node(...)`. -/
def buildNode (fields : RawNode) (port : LegalPort) : FeedNode where
  node := { fields with port := port }.normalize
  oddTransport := none
  built := RawNode.normalize_idem _
  port_legal := by
    rw [normalize_port]
    exact port.2

/-- `Node(transport=..., ...)` with a transport of any type: one that is no text is unlike
`xhttp`, and only the protocols without a choice of transport replace it. -/
def buildOdd (fields : RawNode) (port : LegalPort) (transport : Value) : FeedNode :=
  match transport with
  | .str text => buildNode { fields with transport := text } port
  | other =>
    let plain := buildNode { fields with transport := "" } port
    { plain with oddTransport := if plain.node.protocol = "vless" then some other else none }

/-- The port `safe_port` makes of a value it can convert. -/
def portNumber (port : ℤ) : Option LegalPort :=
  if h : 1 ≤ port ∧ port ≤ 65535 then some ⟨port.toNat, by omega⟩ else none

/-- The conversion in `safe_port`, with the default port. -/
def portValue (value : Value) : Except PyError ℤ :=
  match value with
  | .none => .ok 443
  | .str "" => .ok 443
  | other => other.toInt

/-- `safe_port`: what is no number is no port; any other exception goes on. -/
def safePort (value : Value) : Except PyError (Option LegalPort) :=
  match portValue value with
  | .ok port => .ok (portNumber port)
  | .error .typeError => .ok none
  | .error .valueError => .ok none
  | .error why => .error why

/-- `part in text`. -/
def containsText (part text : String) : Bool := decide (part.toList <:+: text.toList)

variable (lib : Library)

/-- `str`. -/
def Library.str (value : Value) : Except PyError String := value.toStr lib.render

/-- `str(...).strip().lower()`. -/
def Library.word (text : String) : String := lib.lower (stripText text)

/-- `skip_label` of the text of an entry type. -/
def skipLabel (text : String) : String :=
  let key := String.ofList ((lib.word text).toList.take 32)
  let key := (skipAliases.lookup key).getD key
  if key ∈ skipLabels then key else "other"

/-- What an entry of a feed is read as. -/
abbrev Reading := Except PyError (Outcome FeedNode)

/-- `note_skip(skipped, raw)` and on to the next entry. -/
def noteSkip (raw : Value) : Reading := do
  let text ← lib.str (raw.orElse (.str ""))
  return .skipped (skipLabel lib text)

/-- `note_skip(skipped, "invalid")`. -/
def invalid : Reading := noteSkip lib (.str "invalid")

/-- `",".join(str(a) for a in alpn) if isinstance(alpn, list) else str(alpn or "")`. -/
def alpnText (alpn : Value) : Except PyError String :=
  match alpn with
  | .list items => do
    let texts ← items.mapM lib.str
    return ",".intercalate texts
  | other => lib.str (other.orElse (.str ""))

/-! ### JSON nodes -/

/-- The protocol has its credential and, for Shadowsocks, a cipher the panel builds. -/
def hasCredential (protocol uuid password method : String) : Bool :=
  (if protocol = "vless" then uuid ≠ "" else password ≠ "") && !(protocol = "shadowsocks" &&
      (method ∉ ssMethods || (ssPasswordIssue method password).isSome))

/-- The node of a JSON entry whose port is known. -/
def jsonBuild (item : Fields) (protocol uuid password method net pbk : String) (port : Option LegalPort) :
    Reading :=
  match port with
  | none => invalid lib
  | some port => do
    let transport := (get item "transport").orElse
      (.str (if net = "xhttp" ∨ net = "splithttp" then "xhttp" else "vision"))
    let name ← lib.str (getOr item "name" (get item "address"))
    let address ← lib.str (get item "address")
    let security ← lib.str (getOr item "security" (.str ""))
    let sni ← lib.str (getOr item "sni" (.str ""))
    let shortId ← lib.str (getOr item "short_id" (.str ""))
    let fingerprint ← lib.str (getOr item "fingerprint" (.str "chrome"))
    let flow ← lib.str (getOr item "flow" (.str "xtls-rprx-vision"))
    let path ← lib.str (getOr item "path" (.str ""))
    let host ← lib.str (getOr item "host" (.str ""))
    let mode ← lib.str (getOr item "mode" (.str ""))
    let alpn ← lib.str (getOr item "alpn" (.str ""))
    return .kept (buildOdd { plainNode with
        name := name, address := address, uuid := uuid, protocol := protocol
        password := password, method := method
        network := orDefault net (if transport.isText "xhttp" then "xhttp" else "tcp")
        security := orDefault security (if pbk ≠ "" then "reality" else "tls")
        sni := sni, publicKey := pbk, shortId := shortId, fingerprint := fingerprint, flow := flow
        path := path, host := host, mode := mode, alpn := alpn }
      port transport)

/-- The part of the loop body after the credential was looked at. -/
def jsonEndpoint (item : Fields) (protocol uuid password method : String) :
    Reading :=
  if hasCredential protocol uuid password method then do
    let net ← lib.str (getOr item "network" (.str ""))
    let pbk ← lib.str (getOr item "public_key" (.str ""))
    let port ← safePort (get item "port")
    jsonBuild lib item protocol uuid password method net pbk port
  else invalid lib

/-- The part of the loop body after the protocol was read. -/
def jsonCredential (item : Fields) (protocol : String) : Reading :=
  if protocol ∈ protocols then do
    let uuid ← lib.str (getOr item "uuid" (.str ""))
    let password ← lib.str (getOr item "password" (.str ""))
    let method ← lib.str (getOr item "method" (.str ""))
    jsonEndpoint lib item protocol uuid password (lib.word method)
  else noteSkip lib (.str protocol)

/-- The `try` block of the loop body. -/
def jsonTry (item : Fields) : Reading :=
  if (get item "address").truthy then do
    let protocol ← lib.str ((get item "protocol").orElse (.str "vless"))
    jsonCredential lib item (lib.word protocol)
  else invalid lib

/-- `json_nodes.parse_obj` on one item: `KeyError`, `TypeError` and `ValueError` are caught. -/
def readJsonNode (item : Value) : Reading :=
  match item with
  | .dict fields =>
    match jsonTry lib fields with
    | .ok outcome => .ok outcome
    | .error .keyError => invalid lib
    | .error .typeError => invalid lib
    | .error .valueError => invalid lib
    | .error why => .error why
  | _ => invalid lib

/-! ### Xray configs -/

/-- The configs of a decoded document. -/
def configItems : Value → List Value
  | .list items => items
  | other => [other]

/-- `looks_like`: the first three configs have lists of outbounds. -/
def looksLike (data : Value) : Bool :=
  let head := (configItems data).take 3
  !head.isEmpty && head.all fun item =>
    item.dict?.any fun fields => (get fields "outbounds").isList

/-- The outbound `_proxy_outbound` picks among mappings. -/
def pickOutbound (outbounds : List Fields) : Option Fields :=
  (outbounds.find? fun outbound => (get outbound "tag").isText "proxy") <|>
    outbounds.find? fun outbound =>
      !(["freedom", "blackhole", "dns"].any fun name => (get outbound "protocol").isText name)

/-- `_proxy_outbound`. -/
def proxyOutbound (config : Fields) : Except PyError (Option Fields) := do
  let items ← ((get config "outbounds").orElse (.list [])).iterate
  return pickOutbound (items.filterMap Value.dict?)

/-- `_first`. -/
def firstDict : Value → Option Fields
  | .list (first :: _) => first.dict?
  | _ => none

/-- The fields of a node that hold its credential. -/
structure Credential where
  (uuid flow password method : String)

/-- The server of a VLESS outbound and its first user. -/
def vlessServer (settings : Fields) : Option (Fields × Fields) := do
  let server ← firstDict (get settings "vnext")
  let user ← firstDict (get server "users")
  if (get user "id").truthy then some (server, user) else none

/-- The server of another outbound. -/
def passwordServer (settings : Fields) : Option Fields := do
  let server ← firstDict (get settings "servers")
  if (get server "password").truthy then some server else none

/-- The Shadowsocks credential of a server. -/
def ssCredential (server : Fields) (password : String) :
    Except PyError (Option (Fields × Credential)) := do
  let text ← lib.str ((get server "method").orElse (.str ""))
  let method := lib.word text
  return if method ∉ ssMethods ∨ (ssPasswordIssue method password).isSome then none
    else some (server, ⟨"", plainNode.flow, password, method⟩)

/-- The server of an outbound with its credential. -/
def xrayServer (protocol : String) (settings : Fields) :
    Except PyError (Option (Fields × Credential)) :=
  if protocol = "vless" then
    match vlessServer settings with
    | none => .ok none
    | some (server, user) => do
      let uuid ← lib.str (get user "id")
      let flow ← lib.str ((get user "flow").orElse (.str ""))
      return some (server, ⟨uuid, flow, "", ""⟩)
  else
    match passwordServer settings with
    | none => .ok none
    | some server => do
      let password ← lib.str (get server "password")
      if protocol = "shadowsocks" then ssCredential lib server password
      else .ok (some (server, ⟨"", plainNode.flow, password, ""⟩))

/-- `_TRANSPORTS`. -/
def xrayTransports : List (String × String) :=
  [("tcp", "vision"), ("raw", "vision"), ("xhttp", "xhttp"), ("splithttp", "xhttp")]

/-- The XHTTP settings of a stream. -/
def xhttpSettings (stream : Fields) : Fields :=
  (["xhttpSettings", "splithttpSettings"].findSome? fun key => (get stream key).dict?).getD []

/-- The node of a config whose endpoint and transport are known. -/
def xrayBuild (config stream : Fields) (protocol : String) (credential : Credential)
    (address : String) (port : LegalPort) (transport : String) : Reading := do
  let reality := (get stream "realitySettings").fields
  let tls := (get stream "tlsSettings").fields
  let xhttp := xhttpSettings stream
  let name ← lib.str ((get config "remarks").orElse (.str address))
  let security ← lib.str ((get stream "security").orElse (.str ""))
  let sni ← lib.str (((get reality "serverName").orElse (get tls "serverName")).orElse (.str ""))
  let publicKey ← lib.str
    (((get reality "publicKey").orElse (get reality "password")).orElse (.str ""))
  let shortId ← lib.str ((get reality "shortId").orElse (.str ""))
  let fingerprint ← lib.str
    (((get reality "fingerprint").orElse (get tls "fingerprint")).orElse (.str "chrome"))
  let alpn ← alpnText lib (get tls "alpn")
  let path ← lib.str ((get xhttp "path").orElse (.str ""))
  let host ← lib.str ((get xhttp "host").orElse (.str ""))
  let mode ← lib.str ((get xhttp "mode").orElse (.str ""))
  return .kept (buildNode { plainNode with
      name := name, address := address, protocol := protocol
      uuid := credential.uuid, flow := credential.flow, password := credential.password
      method := credential.method, transport := transport
      network := if transport = "xhttp" then "xhttp" else "tcp"
      security := security, sni := sni, publicKey := publicKey, shortId := shortId
      fingerprint := fingerprint, alpn := alpn, path := path, host := host, mode := mode }
    port)

/-- The transport of a config, when the panel builds it for the protocol. -/
def xrayTransport (protocol network : String) : Option String :=
  (xrayTransports.lookup (lib.lower network)).filter fun transport =>
    protocol = "vless" || transport = "vision"

/-- The part of `_node` after the endpoint was read. -/
def xrayStream (config stream : Fields) (protocol : String) (credential : Credential)
    (address : String) (port : Option LegalPort) : Reading :=
  match port with
  | none => invalid lib
  | some port =>
    if address = "" then invalid lib
    else do
      let network ← lib.str ((get stream "network").orElse (.str "tcp"))
      match xrayTransport lib protocol network with
      | none => invalid lib
      | some transport => xrayBuild lib config stream protocol credential address port transport

/-- `_node` of a server that has its credential. -/
def xrayEndpoint (config stream : Fields) (protocol : String) (server : Fields)
    (credential : Credential) : Reading := do
  let address ← lib.str ((get server "address").orElse (.str ""))
  let port ← safePort (get server "port")
  xrayStream lib config stream protocol credential address port

/-- `_node`. -/
def xrayNode (config outbound : Fields) (protocol : String) :
    Reading := do
  let found ← xrayServer lib protocol (get outbound "settings").fields
  match found with
  | none => invalid lib
  | some (server, credential) =>
    xrayEndpoint lib config (get outbound "streamSettings").fields protocol server credential

/-- The protocol of an outbound, when the panel has it. -/
def outboundProtocol (outbound : Fields) : Option String :=
  protocols.find? fun name => (get outbound "protocol").isText name

/-- The loop body of `xray_json.parse_obj` once the outbound was looked for. -/
def readOutbound (config : Fields) (outbound : Option Fields) :
    Reading :=
  match outbound with
  | none => invalid lib
  | some outbound =>
    match outboundProtocol outbound with
    | none => noteSkip lib (get outbound "protocol")
    | some protocol => xrayNode lib config outbound protocol

/-- `xray_json.parse_obj` on one config. -/
def readConfig (config : Value) : Reading :=
  match config with
  | .dict fields => do
    let outbound ← proxyOutbound fields
    readOutbound lib fields outbound
  | _ => invalid lib

/-! ### Clash proxies -/

/-- The first item of a list, and any other value as it is. -/
def headItem : Value → Value
  | .list [] => .str ""
  | .list (first :: _) => first
  | other => other

/-- The path and Host of one block of transport options. -/
def optsPair (opts : Fields) : Value × Value :=
  let headers := (get opts "headers").fields
  (headItem (get opts "path"),
    headItem (((get headers "Host").orElse (get headers "host")).orElse
      ((get opts "host").orElse (.str ""))))

/-- The path and Host `_opts_path_host` settles on, before they are written as text. -/
def optsValues (proxy : Fields) : Value × Value :=
  let pairs := ["xhttp-opts", "ws-opts", "h2-opts", "http-opts"].filterMap fun key =>
    (get proxy key).dict?.map optsPair
  match pairs.find? fun pair => pair.1.truthy || pair.2.truthy with
  | some (path, host) => (path.orElse (.str ""), host.orElse (.str ""))
  | none => (.str "", .str "")

/-- The node of a Clash VLESS proxy whose port is known. -/
def clashVlessBuild (proxy : Fields) (pbk path host alpn : String) (port : Option LegalPort) :
    Reading :=
  match port with
  | none => invalid lib
  | some port => do
    let xhttp := (get proxy "network").isText "xhttp" || (get proxy "network").isText "splithttp"
    let name ← lib.str (getOr proxy "name" (getOr proxy "server" (.str "")))
    let address ← lib.str (getOr proxy "server" (.str ""))
    let uuid ← lib.str (getOr proxy "uuid" (.str ""))
    let sni ← lib.str (getOr proxy "servername" (getOr proxy "sni" (.str "")))
    let shortId ← lib.str (getOr (get proxy "reality-opts").fields "short-id" (.str ""))
    let fingerprint ← lib.str (getOr proxy "client-fingerprint" (.str "chrome"))
    let flow ← lib.str (getOr proxy "flow" (.str "xtls-rprx-vision"))
    return .kept (buildNode { plainNode with
        name := name, address := address, uuid := uuid
        transport := if xhttp then "xhttp" else "vision"
        network := if xhttp then "xhttp" else "tcp"
        security := if pbk ≠ "" then "reality" else "tls"
        sni := sni, publicKey := pbk, shortId := shortId, fingerprint := fingerprint, flow := flow
        path := path, host := host, alpn := alpn }
      port)

/-- The VLESS part of the loop body of `clash_yaml.parse`. -/
def clashVless (proxy : Fields) : Reading := do
  let pbk ← lib.str (getOr (get proxy "reality-opts").fields "public-key" (.str ""))
  let path ← lib.str (optsValues proxy).1
  let host ← lib.str (optsValues proxy).2
  let alpn ← alpnText lib (get proxy "alpn")
  let port ← safePort (get proxy "port")
  clashVlessBuild lib proxy pbk path host alpn port

/-- The node of a Clash Trojan proxy over plain TCP. -/
def clashTrojanBuild (proxy : Fields) (address password : String) (port : LegalPort) :
    Reading := do
  let reality := (get proxy "reality-opts").fields
  let pbk ← lib.str (getOr reality "public-key" (.str ""))
  let name ← lib.str (getOr proxy "name" (.str address))
  let sni ← lib.str (getOr proxy "sni" (getOr proxy "servername" (.str "")))
  let shortId ← lib.str (getOr reality "short-id" (.str ""))
  let fingerprint ← lib.str (getOr proxy "client-fingerprint" (.str "chrome"))
  let alpn ← alpnText lib (get proxy "alpn")
  return .kept (buildNode { plainNode with
      name := name, address := address, protocol := "trojan", password := password
      security := if pbk ≠ "" then "reality" else "tls"
      sni := sni, publicKey := pbk, shortId := shortId, fingerprint := fingerprint, alpn := alpn }
    port)

/-- The part of `_trojan` after the endpoint was read. -/
def clashTrojanStream (proxy : Fields) (address password : String) (port : Option LegalPort) :
    Reading :=
  match port with
  | none => invalid lib
  | some port =>
    if address = "" ∨ password = "" then invalid lib
    else do
      let network ← lib.str ((get proxy "network").orElse (.str "tcp"))
      if lib.lower network ∈ ["tcp", "original", "none"] then
        clashTrojanBuild lib proxy address password port
      else invalid lib

/-- `_trojan`. -/
def clashTrojan (proxy : Fields) : Reading := do
  let port ← safePort (get proxy "port")
  let address ← lib.str (getOr proxy "server" (.str ""))
  let password ← lib.str (getOr proxy "password" (.str ""))
  clashTrojanStream lib proxy address password port

/-- The part of `_shadowsocks` after the fields it checks were read. -/
def clashSsBuild (proxy : Fields) (address password method : String) (port : Option LegalPort) :
    Reading :=
  match port with
  | none => invalid lib
  | some port =>
    if address = "" ∨ password = "" ∨ method ∉ ssMethods ∨ (get proxy "plugin").truthy = true ∨
        (ssPasswordIssue method password).isSome = true then invalid lib
    else do
      let name ← lib.str (getOr proxy "name" (.str address))
      return .kept (buildNode { plainNode with
          name := name, address := address, protocol := "shadowsocks"
          password := password, method := method }
        port)

/-- `_shadowsocks`. -/
def clashSs (proxy : Fields) : Reading := do
  let port ← safePort (get proxy "port")
  let address ← lib.str (getOr proxy "server" (.str ""))
  let password ← lib.str (getOr proxy "password" (.str ""))
  let cipher ← lib.str (getOr proxy "cipher" (.str ""))
  clashSsBuild lib proxy address password (lib.word cipher) port

/-- The branch on the type of a proxy. -/
def readKind (proxy : Fields) (kind : String) : Reading :=
  if kind = "vless" then clashVless lib proxy
  else if kind = "trojan" then clashTrojan lib proxy
  else if kind = "ss" then clashSs lib proxy
  else noteSkip lib (get proxy "type")

/-- `clash_yaml.parse` on one proxy. -/
def readProxy (proxy : Value) : Reading :=
  match proxy with
  | .dict fields => do
    let kind ← lib.str ((get fields "type").orElse (.str ""))
    readKind lib fields kind
  | _ => invalid lib

/-! ### Share links -/

/-- A character of `[a-z0-9+.\-]`. -/
def isSchemeChar (c : Char) : Bool := c.isLower || c.isDigit || c = '+' || c = '.' || c = '-'

/-- The scheme `_OTHER_SCHEME` finds at the start of a line. -/
def lineScheme (line : String) : Option String :=
  let scheme := line.toList.takeWhile isSchemeChar
  if scheme.head?.any Char.isLower && 2 ≤ scheme.length && scheme.length ≤ 16 &&
      "://".toList.isPrefixOf (line.toList.drop scheme.length) then
    some (String.ofList scheme)
  else none

/-- A line that is looked at: it starts with a scheme. -/
structure ShareLink where
  (scheme line : String)

/-- The share links of a text. -/
def shareLinks (text : String) : List ShareLink :=
  (strippedLines text).filterMap fun line => (lineScheme line).map fun scheme => ⟨scheme, line⟩

/-- `"".join(text.split())`. -/
def squeezed (text : String) : String := String.join (splitText text)

/-- Every character is ASCII. -/
def isAscii (text : String) : Bool := text.toList.all fun c => c.toNat < 128

/-- `_b64decode`: text that is not ASCII raises `ValueError`, which nothing catches. -/
def b64decode (text : String) : Except PyError String :=
  let text := squeezed text
  if isAscii text then
    let padding := String.ofList (List.replicate ((4 - text.length % 4) % 4) '=')
    .ok ((lib.decode64 (text ++ padding)).getD "")
  else .error .valueError

/-- `q.get(key, [other])[0]`. -/
def queryOr (query : List (String × String)) (key other : String) : String :=
  (query.lookup key).getD other

/-- The host and port of a URL, when `urlsplit` and the port could be read. -/
def linkEndpoint (parts : UrlParts) : Option (String × ℕ) := do
  let port ← parts.port
  let port ← port
  let host := parts.hostname.getD ""
  if host = "" then none else some (host, port)

/-- The scheme, the user and the endpoint a VLESS or Trojan link must have. -/
def userLink (scheme uri : String) : Option (UrlParts × String × String × ℕ) := do
  let parts ← lib.urlsplit uri
  let (host, port) ← linkEndpoint parts
  let user := parts.username.getD ""
  if parts.scheme = scheme ∧ user ≠ "" then some (parts, user, host, port) else none

/-- The security a link asks for, when it is one the panel has. -/
def linkSecurity (query : List (String × String)) : String :=
  let requested := lib.word (queryOr query "security" "")
  if requested = "reality" ∨ requested = "tls" then requested
  else if queryOr query "pbk" "" ≠ "" then "reality" else "tls"

/-- `_parse_vless`. -/
def parseVless (uri : String) : Option FeedNode := do
  let (parts, user, host, port) ← userLink lib "vless" uri
  let query := lib.parseQsl parts.query
  let xhttp : Bool := queryOr query "type" "" = "xhttp" ∨ queryOr query "type" "" = "splithttp"
  let port ← portNumber port
  return buildNode { plainNode with
      name := orDefault (lib.unquote parts.fragment) host, address := host
      uuid := lib.unquote user
      transport := if xhttp then "xhttp" else "vision"
      network := if xhttp then "xhttp" else "tcp"
      security := linkSecurity lib query
      sni := queryOr query "sni" "", publicKey := queryOr query "pbk" ""
      shortId := queryOr query "sid" "", fingerprint := queryOr query "fp" "chrome"
      flow := queryOr query "flow" "xtls-rprx-vision", path := queryOr query "path" ""
      host := queryOr query "host" "", mode := queryOr query "mode" ""
      alpn := queryOr query "alpn" "" }
    port

/-- `_parse_trojan`. -/
def parseTrojan (uri : String) : Option FeedNode := do
  let (parts, user, host, port) ← userLink lib "trojan" uri
  let query := lib.parseQsl parts.query
  if lib.word (queryOr query "type" "tcp") ∉ ["", "tcp", "original", "none"] then none
  else
    let port ← portNumber port
    return buildNode { plainNode with
        name := orDefault (lib.unquote parts.fragment) host, address := host
        protocol := "trojan", password := lib.unquote user
        security := linkSecurity lib query
        sni := orDefault (queryOr query "sni" "") (queryOr query "peer" "")
        publicKey := queryOr query "pbk" "", shortId := queryOr query "sid" ""
        fingerprint := queryOr query "fp" "chrome", alpn := queryOr query "alpn" "" }
      port

/-- The parts of an `ss://` link: what it names, its query and its fragment. -/
def ssParts (uri : String) : String × String × String :=
  let (body, fragment) := partition '#' (String.ofList (uri.toList.drop 5))
  let (body, query) := partition '?' body
  (body, query, fragment)

/-- The cipher and password of a link, when the panel builds the cipher. -/
def ssAccount (userinfo : String) : Option (String × String) :=
  let (name, password) := partition ':' userinfo
  let method := lib.word name
  if password = "" ∨ method ∉ ssMethods ∨ (ssPasswordIssue method password).isSome = true then none
  else some (method, password)

/-- The node of an `ss://` link whose user part is decoded. -/
def ssNode (fragment userinfo hostport : String) : Option FeedNode := do
  let (method, password) ← ssAccount lib userinfo
  let parts ← lib.urlsplit ("//" ++ hostport)
  let (host, port) ← linkEndpoint parts
  let port ← portNumber port
  return buildNode { plainNode with
      name := orDefault (lib.unquote fragment) host, address := host
      protocol := "shadowsocks", password := password, method := method }
    port

/-- The user part of an `ss://` link, decoded when it is not spelled out. -/
def ssUserinfo (userinfo : String) : Except PyError String :=
  let userinfo := lib.unquote userinfo
  if ':' ∈ userinfo.toList then .ok userinfo else b64decode lib userinfo

/-- The part of `_parse_ss` after the body was decoded. -/
def ssAuthority (fragment body : String) : Except PyError (Option FeedNode) :=
  match rpartition '@' body with
  | none => .ok none
  | some (userinfo, hostport) =>
    if userinfo = "" then .ok none
    else do
      let userinfo ← ssUserinfo lib userinfo
      return ssNode lib fragment userinfo hostport

/-- The body of an `ss://` link, decoded when it is one base64 blob. -/
def ssBody (body : String) : Except PyError String :=
  if '@' ∈ body.toList then .ok body else b64decode lib body

/-- `_parse_ss`. -/
def parseSs (uri : String) : Except PyError (Option FeedNode) :=
  let (body, query, fragment) := ssParts uri
  if containsText "plugin=" query then .ok none
  else do
    let body ← ssBody lib body
    ssAuthority lib fragment body

/-- A node is kept, and nothing is an invalid entry. -/
def keptOr (node : Option FeedNode) : Reading :=
  match node with
  | some node => .ok (.kept node)
  | none => invalid lib

/-- `base64_vless.parse` on one share link. -/
def readLink (link : ShareLink) : Reading :=
  if link.scheme = "vless" then keptOr lib (parseVless lib link.line)
  else if link.scheme = "trojan" then keptOr lib (parseTrojan lib link.line)
  else if link.scheme = "ss" then do
    let node ← parseSs lib link.line
    keptOr lib node
  else noteSkip lib (.str link.scheme)

/-! ### Whole feeds -/

/-- An entry of a feed, by the format it came in. -/
inductive Entry where
  | jsonNode (item : Value)
  | config (item : Value)
  | proxy (item : Value)
  | link (share : ShareLink)

/-- One round of the parser's loop. -/
def Entry.read : Entry → Reading
  | .jsonNode item => readJsonNode lib item
  | .config item => readConfig lib item
  | .proxy item => readProxy lib item
  | .link share => readLink lib share

/-- The loop of each parser. -/
def parseEntries (limit : Option ℕ) (entries : List Entry) :
    Except PyError (List FeedNode × Counts) :=
  readAll (Entry.read lib) limit entries [] []

/-- `json_nodes.parse_obj`. -/
def parseJson (limit : Option ℕ) (data : Value) : Except PyError (List FeedNode × Counts) :=
  if looksLike data then parseEntries lib limit ((configItems data).map .config)
  else match data with
    | .list items => parseEntries lib limit (items.map .jsonNode)
    | .dict fields => do
      let items ← (getOr fields "nodes" (.list [])).iterate
      parseEntries lib limit (items.map .jsonNode)
    | _ => parseEntries lib limit []

/-- `clash_yaml.parse`. -/
def parseClash (limit : Option ℕ) (text : String) : Except PyError (List FeedNode × Counts) :=
  match lib.loadYaml text with
  | none => .error .yamlError
  | some (.dict fields) => do
    let items ← (getOr fields "proxies" (.list [])).iterate
    parseEntries lib limit (items.map .proxy)
  | some _ => parseEntries lib limit []

/-- The text the share links stand in, decoded unless a known scheme shows in it. -/
def linkText (text : String) : Except PyError String :=
  if ["vless://", "trojan://", "ss://"].any (containsText · text) then .ok text
  else b64decode lib text

/-- `base64_vless.parse`. -/
def parseLinks (limit : Option ℕ) (text : String) : Except PyError (List FeedNode × Counts) := do
  let text ← linkText lib text
  parseEntries lib limit ((shareLinks text).map .link)

/-- The JSON document a feed is, if it is one. -/
def jsonBody (text : String) : Option Value :=
  if text.toList.head? = some '[' ∨ text.toList.head? = some '{' then lib.loadJson text else none

/-- `parse_subscription`. -/
def parseSubscription (limit : Option ℕ) (body : String) :
    Except PyError (List FeedNode × Counts) :=
  let text := stripText body
  match jsonBody lib text with
  | some data => parseJson lib limit data
  | none =>
    if containsText "proxies:" text then parseClash lib limit text else parseLinks lib limit text

end PiGwPanel.FeedParsers
