import PiGwPanel.ConfigStore
import PiGwPanel.GatewayPanel
import PiGwPanel.SegmentRuleset

/-!
# Remote access as its settings say and as it is served

Remote access is stored as text. `rw_inbound.resolve` turns the text into the
inbound a config serves, with its own defaults and checks; the save route takes
a snapshot of the same text and decides from two snapshots whether a save takes
access away. The two readings agree but for one field: a blank list of server
names is served as the default name and snapshotted as no name.
-/

namespace PiGwPanel.RemoteAccessSettings

open Models PyText ConfigBuilder RemoteAccessReconcile CheckedResult List
open ConfigStore (Json)
open SegmentRuleset (IpText)
open GatewayPanel (Client)

/-- The settings table. -/
abbrev Stored := String → Option String

/-- Readers of the standard library: JSON texts and addresses. -/
structure Readers where
  /-- `json.loads`. -/
  loads : String → Option Json
  text : IpText

/-- `DEFAULTS`. -/
def rwDefaults : List (String × String) :=
  [("rw_enabled", "0"), ("rw_port", "443"), ("rw_dest", "www.microsoft.com:443"),
   ("rw_server_names", "www.microsoft.com"), ("rw_short_ids", ""), ("rw_endpoint", ""),
   ("rw_clients", "[]"), ("rw_hosts", "{}"), ("rw_routed_nets", "")]

section

variable (text : IpText) (readers : Readers) (stored : Stored)

/-- `_get`. -/
def rwGet (key : String) : String :=
  (stored key).getD ((rwDefaults.lookup key).getD "")

/-- `validate_port`. -/
def validatePort (raw : String) : Except String ℕ :=
  match pyInt raw with
  | none => .error ("rw_port must be an integer, got " ++ pyRepr raw)
  | some port =>
    if 1 ≤ port ∧ port ≤ 65535 then .ok port.toNat
    else .error ("rw_port out of range: " ++ toString port)

/-- One label of a host name. -/
def legalLabel (label : List Char) : Bool :=
  label ≠ [] && label.all (fun c => c.isAlphanum || c = '-') && label.head? ≠ some '-' &&
    label.getLast? ≠ some '-'

/-- The labels of a name. -/
def labels (name : List Char) : List (List Char) := name.splitOnP fun c => c = '.'

/-- `validate_hostname`. -/
def validateHostname (raw what : String) : Except String String :=
  let name := stripText raw
  if name = "" then .error (what ++ " must not be empty")
  else if 253 < name.length then .error (what ++ " is longer than 253 characters")
  else if (labels name.toList).all fun label => legalLabel label && label.length ≤ 63 then .ok name
  else .error (what ++ " must be a host name (letters, digits, dashes and dots), got " ++
    pyRepr name)

/-- `validate_server_names`. -/
def validateServerNames (names : List String) : Except String (List String) :=
  if names = [] then .error "at least one server name is required"
  else names.mapM fun name => validateHostname name "server name"

/-- The host part of `rw_dest`: a bracketed IPv6 literal or a host name. -/
def validateDestHost (dest : String) (host : List Char) : Except String Unit :=
  if host.head? = some '[' && host.getLast? = some ']' then
    match text.address (String.ofList (host.drop 1).dropLast) with
    | some (.v6 _) => .ok ()
    | _ => .error ("rw_dest has an invalid IPv6 literal, got " ++ pyRepr dest)
  else (validateHostname (String.ofList host) "the rw_dest host").map fun _ => ()

/-- `validate_dest`; the port is what follows the last colon. -/
def validateDest (raw : String) : Except String String := do
  let dest := stripText raw
  let port := dest.toList.rtakeWhile fun c => c ≠ ':'
  let host := (dest.toList.rdropWhile fun c => c ≠ ':').dropLast
  if host = [] || port = [] then
    .error ("rw_dest must be host:port (e.g. www.microsoft.com:443), got " ++ pyRepr dest)
  else
    validateDestHost text dest host
    match pyInt (String.ofList port) with
    | none => .error ("rw_dest port must be an integer, got " ++ pyRepr (String.ofList port))
    | some number =>
      if 1 ≤ number ∧ number ≤ 65535 then
        .ok (String.ofList host ++ ":" ++ toString number)
      else .error ("rw_dest port out of range: " ++ toString number)

/-- A character of either base64 alphabet. -/
def isBase64 (c : Char) : Bool := c.isAlphanum || c ∈ ['+', '/', '_', '-']

/-- `validate_key`. The 43 characters of the pattern always decode to 32 bytes, so the checks of
the source behind it cannot fail. -/
def validateKey (raw what : String) : Except String String :=
  let key := stripText raw
  let body := if key.toList.getLast? = some '=' then key.toList.dropLast else key.toList
  if body.length = 43 && body.all isBase64 then .ok key
  else .error (what ++
    " must be a base64 x25519 key — 43 characters, exactly as \x60xray x25519\x60 prints it")

/-- A hexadecimal digit. -/
def isHex (c : Char) : Bool := c.isDigit || ('a' ≤ c && c ≤ 'f') || ('A' ≤ c && c ≤ 'F')

/-- `validate_short_ids`. -/
def validateShortIds (ids : List String) : Except String (List String) :=
  match ids.find? fun id => id.length % 2 ≠ 0 || id.length < 2 || 16 < id.length ||
      !id.toList.all isHex with
  | some id => .error ("short id must be 2-16 hex chars of even length, got " ++ pyRepr id)
  | none => .ok ids

/-- Text up to one final line break: where an end anchor of a pattern may stand. -/
def beforeBreak (text : List Char) : List Char :=
  if text.getLast? = some '\n' then text.dropLast else text

/-- `_UUID`. -/
def isUuid (text : String) : Bool :=
  let groups := (beforeBreak text.toList).splitOnP fun c => c = '-'
  groups.map List.length = [8, 4, 4, 4, 12] && groups.all fun group => group.all isHex

/-- `_EMAIL`. -/
def isEmail (text : String) : Bool :=
  let name := beforeBreak text.toList
  1 ≤ name.length && name.length ≤ 40 && name.all fun c => c.isAlphanum || c ∈ ['.', '_', '-']

/-- `bool(value)`. -/
def truthy : Json → Bool
  | .null => false
  | .bool value => value
  | .num value => value ≠ 0
  | .str value => value ≠ ""
  | .arr items => !items.isEmpty
  | .obj fields => !fields.isEmpty

/-- `str(value)`; of a list or an object only the opening bracket, which no pattern accepts. -/
def jsonText : Json → String
  | .null => "None"
  | .bool value => if value then "True" else "False"
  | .num value => toString value
  | .str value => value
  | .arr _ => "["
  | .obj _ => "\x7b"

/-- `str(entry.get(key) or "")`. -/
def fieldText (fields : List (String × Json)) (key : String) : String :=
  match fields.lookup key with
  | some value => if truthy value then jsonText value else ""
  | none => ""

/-- One entry of the roster, when it has the shape `add_client` gives it. -/
def rosterClient : Json → Option Client
  | .obj fields =>
    let id := fieldText fields "id"
    let email := fieldText fields "email"
    if isUuid id && isEmail email then
      some ⟨id, email, ((fields.lookup "enabled").map truthy).getD true⟩
    else none
  | _ => none

/-- `get_clients`: an unreadable roster serves no one. -/
def getClients : List Client :=
  match readers.loads (rwGet stored "rw_clients") with
  | some (.arr entries) => entries.filterMap rosterClient
  | _ => []

/-- The name a key of the host mapping stands for. -/
def mappedName (key : String) : String :=
  String.ofList ((lowerText (stripText key)).toList.rdropWhile fun c => c = '.')

/-- The checks of one mapped name. -/
def validateHost (key : String) (ip : Json) : Except String (String × String) :=
  let name := mappedName key
  if 40 < name.length then
    .error ("host name " ++ pyRepr name ++ " is longer than 40 characters")
  else if !((labels (beforeBreak name.toList)).all legalLabel) ||
      (labels (beforeBreak name.toList)).length < 2 then
    .error ("invalid host name " ++ pyRepr name ++ " (need a dotted name, e.g. nas.v2pi)")
  else if ".local".toList.isSuffixOf name.toList then
    .error (pyRepr name ++ ": the .local suffix is captured by mDNS on iOS/macOS and never " ++
      "reaches the tunnel — use another suffix (e.g. .v2pi)")
  else match text.address (stripText (jsonText ip)) with
    | some (.v4 _) => .ok (name, stripText (jsonText ip))
    | _ => .error ("host " ++ pyRepr name ++ " must map to an IPv4 address, got " ++ jsonText ip)

/-- A mapping with one entry more; an entry of the same name is overwritten in place. -/
def putHost (hosts : List (String × String)) (entry : String × String) : List (String × String) :=
  if hosts.any fun other => other.1 = entry.1 then
    hosts.map fun other => if other.1 = entry.1 then entry else other
  else hosts ++ [entry]

/-- `validate_hosts`. -/
def validateHosts (hosts : List (String × Json)) : Except String (List (String × String)) :=
  if 32 < hosts.length then
    .error ("at most 32 host mappings, got " ++ toString hosts.length)
  else (hosts.mapM fun entry => validateHost text entry.1 entry.2).map fun entries =>
    entries.foldl putHost []

/-- `get_hosts`. -/
def getHosts : Except String (List (String × String)) :=
  match readers.loads (rwGet stored "rw_hosts") with
  | some (.obj fields) => validateHosts readers.text fields
  | _ => .ok []

/-- The server name of a panel that was never told one. -/
def defaultServerName : String := "www.microsoft.com"

/-- The server names a config serves: a list without a name counts as never set. -/
def servedNames : List String :=
  match commaParts (rwGet stored "rw_server_names") with
  | [] => [defaultServerName]
  | names => names

/-- The validated inbound for the given clients. -/
def validatedInbound (privateKey : String) (clients : List Client) : Except String RwInbound := do
  let port ← validatePort (rwGet stored "rw_port")
  let dest ← validateDest readers.text
    (orDefault (stripText (rwGet stored "rw_dest")) "www.microsoft.com:443")
  let serverNames ← validateServerNames (servedNames stored)
  let privateKey ← validateKey privateKey "the Reality private key"
  let shortIds ← validateShortIds (commaParts (rwGet stored "rw_short_ids"))
  let hosts ← getHosts readers stored
  pure { port := port, dest := dest, serverNames := serverNames, privateKey := privateKey,
         shortIds := shortIds, clients := clients.map fun c => ⟨c.id, c.email⟩, hosts := hosts }

/-- `resolve`: the inbound to serve, or none when remote access is off, has no key or no enabled
client. -/
def resolve : Except String (Option RwInbound) :=
  let privateKey := stripText (rwGet stored "rw_private_key")
  let clients := (getClients readers stored).filter fun c => c.enabled
  if rwGet stored "rw_enabled" ≠ "1" then .ok none
  else if privateKey = "" then .ok none
  else if clients = [] then .ok none
  else (validatedInbound readers stored privateKey clients).map some

/-- The snapshot of `_rw_credentials`. -/
structure Credentials where
  enabled : Bool
  port : String
  (shortIds serverNames : List String)
  privateKey : String
  deriving DecidableEq, Repr

/-- The port of a snapshot; a malformed one is compared as it stands. -/
def portText (raw : String) : String :=
  match validatePort raw with
  | .ok port => toString port
  | .error _ => stripText raw

/-- `_rw_credentials`. -/
def rwCredentials : Credentials where
  enabled := rwGet stored "rw_enabled" = "1"
  port := portText (rwGet stored "rw_port")
  shortIds := (commaParts (rwGet stored "rw_short_ids")).map String.toLower
  serverNames := (commaParts (rwGet stored "rw_server_names")).map String.toLower
  privateKey := stripText ((stored "rw_private_key").getD "")

end

/-- `_rw_narrows`. -/
def rwNarrows (before after : Credentials) : Bool :=
  if !before.enabled || before.privateKey = "" then false
  else !after.enabled || after.privateKey ≠ before.privateKey || after.port ≠ before.port ||
    !(before.shortIds ⊆ after.shortIds) || !(before.serverNames ⊆ after.serverNames)

theorem stripText_of_mem_commaParts {value part : String} (h : part∈commaParts value) :
    stripText part=part := by
  simp only [commaParts,stripParts,mem_filter,mem_map] at h
  obtain ⟨⟨chars,-,rfl⟩,-⟩ := h
  rw [stripText,String.toList_ofList,strip_idem]

variable {first second : Stored} {name raw : String} {rw rw' : RwInbound} {stored : Stored}

theorem stripText_of_mem_servedNames (h : name∈servedNames stored) : stripText name=name := by
  unfold servedNames at h
  split at h
  · rw [mem_singleton.mp h]
    decide
  · exact stripText_of_mem_commaParts h

theorem validateHostname_eq_ok {what : String} (h : validateHostname raw what = .ok name) :
    name=stripText raw := by
  obtain ⟨-,h⟩ := of_ite_error_ok h
  obtain ⟨-,h⟩ := of_ite_error_ok h
  obtain ⟨-,h⟩ := of_ite_ok h
  exact (Except.ok.inj h).symm

theorem validateServerNames_servedNames {checked : List String}
    (h : validateServerNames (servedNames stored) = .ok checked) : checked=servedNames stored := by
  obtain ⟨-,h⟩ := of_ite_error_ok h
  refine mapM_ok_fixed (fun name hname out hout => ?_) h
  rw [validateHostname_eq_ok hout,stripText_of_mem_servedNames hname]

/-- What the settings of a served inbound are, field by field. -/
structure Served (readers : Readers) (stored : Stored) (rw : RwInbound) : Prop where
  enabled : rwGet stored "rw_enabled" = "1"
  key : stripText (rwGet stored "rw_private_key") ≠ ""
  client : ∃ c ∈ getClients readers stored, c.enabled = true
  port : validatePort (rwGet stored "rw_port") = .ok rw.port
  serverNames : rw.serverNames = servedNames stored
  privateKey : rw.privateKey = stripText (rwGet stored "rw_private_key")
  shortIds : rw.shortIds = commaParts (rwGet stored "rw_short_ids")

section Resolve

variable {readers : Readers} {stored : Stored}

theorem validateKey_eq_ok {raw what key : String} (h : validateKey raw what = .ok key) :
    key=stripText raw :=
  (Except.ok.inj (of_ite_ok h).2).symm

theorem validateShortIds_eq_ok {ids checked : List String}
    (h : validateShortIds ids = .ok checked) : checked=ids := by
  unfold validateShortIds at h
  split at h
  · cases h
  · exact (Except.ok.inj h).symm

theorem filter_enabled_eq_nil_iff {clients : List Client} :
    clients.filter (fun c => c.enabled)=[] ↔ ¬∃ c∈clients, c.enabled=true := by
  simp [filter_eq_nil_iff]

variable {rw : RwInbound}

theorem served_of_resolve (h : resolve readers stored = .ok (some rw)) :
    Served readers stored rw := by
  unfold resolve at h
  dsimp only at h
  split at h
  · cases h
  next hon =>
    split at h
    · cases h
    next hkey =>
      split at h
      · cases h
      next hclients =>
        obtain ⟨inbound,h,hsome⟩ := exists_of_map_ok h
        cases hsome
        obtain ⟨port,hport,h⟩ := exists_of_bind_ok h
        obtain ⟨dest,-,h⟩ := exists_of_bind_ok h
        obtain ⟨names,hnames,h⟩ := exists_of_bind_ok h
        obtain ⟨key,hvalid,h⟩ := exists_of_bind_ok h
        obtain ⟨ids,hids,h⟩ := exists_of_bind_ok h
        obtain ⟨hosts,-,h⟩ := exists_of_bind_ok h
        cases h
        refine ⟨not_not.mp hon,hkey,?_,hport,validateServerNames_servedNames hnames,?_,
          validateShortIds_eq_ok hids⟩
        · rw [filter_enabled_eq_nil_iff] at hclients
          exact not_not.mp hclients
        · rw [validateKey_eq_ok hvalid,stripText_idem]

/-- Nothing is served without the switch, the key and an enabled client, and only then. -/
theorem resolve_eq_none (h : resolve readers stored = .ok none) :
    rwGet stored "rw_enabled" ≠ "1" ∨ stripText (rwGet stored "rw_private_key") = "" ∨
      ¬∃ c∈getClients readers stored, c.enabled=true := by
  unfold resolve at h
  dsimp only at h
  split at h
  · exact .inl ‹_›
  · split at h
    · exact .inr (.inl ‹_›)
    · split at h
      · exact .inr (.inr (filter_enabled_eq_nil_iff.mp ‹_›))
      · obtain ⟨inbound,-,hsome⟩ := exists_of_map_ok h
        cases hsome

theorem rwCredentials_served (h : Served readers stored rw) :
    (rwCredentials stored).enabled=true ∧ (rwCredentials stored).privateKey=rw.privateKey ∧
      rw.privateKey ≠ "" ∧ (rwCredentials stored).port=toString rw.port ∧
      (rwCredentials stored).shortIds=rw.shortIds.map String.toLower := by
  have hkey : (rwCredentials stored).privateKey=rw.privateKey := by
    rw [h.privateKey]
    rfl
  refine ⟨by simp [rwCredentials,h.enabled],hkey,?_,?_,?_⟩
  · rw [h.privateKey]
    exact h.key
  · simp only [rwCredentials,portText,h.port]
  · simp only [rwCredentials,h.shortIds]

end Resolve

/-- What a client connects with. Short ids and server names are matched without case. -/
def connectsWith : Grant → Option Grant
  | .port port => some (.port port)
  | .privateKey key => some (.privateKey key)
  | .shortId id => some (.shortId id.toLower)
  | .serverName name => some (.serverName name.toLower)
  | .client _ => none
  | .dest _ => none
  | .malformed _ => none

/-- What the remote-access inbound of a config offers. -/
def offers (cfg : Config) : List Grant := (liveGrants cfg).filterMap connectsWith

/-- A config serves remote access. -/
def Serves (cfg : Config) : Prop := ∃ inbound ∈ cfg.inbounds, inbound.tag = rwTag

/-- The first config serves remote access and the second one none, or less. -/
def TakesAway (first second : Config) : Prop :=
  Serves first ∧ (¬Serves second ∨ ∃ token ∈ offers first, token ∉ offers second)

section Built

variable {node : Node} {settings : Settings} {opts : BuildOptions} {cfg : Config}

theorem serves_buildConfig {rw : Option RwInbound}
    (h : buildConfig node settings opts rw = .ok cfg) : Serves cfg ↔ rw.isSome=true := by
  obtain ⟨servers,proxy,fields,action,-,-,rfl,-⟩ := buildConfig_eq_ok h
  constructor
  · rintro ⟨inbound,hmem,htag⟩
    cases rw with
    | some inbound => rfl
    | none =>
      have hself : (inbounds settings opts none).filter (fun i => i.tag≠rwTag)++[]=_ :=
        inbounds_filter none none
      rw [append_nil,filter_eq_self] at hself
      exact absurd htag (by simpa using hself inbound hmem)
  · intro hsome
    obtain ⟨inbound,rfl⟩ := Option.isSome_iff_exists.mp hsome
    exact ⟨rwInboundBlock inbound,by simp [assemble,inbounds],rfl⟩

variable {rw : RwInbound}

theorem offers_buildConfig (h : buildConfig node settings opts (some rw) = .ok cfg) :
    offers cfg = .port rw.port::.privateKey rw.privateKey ::
      (rw.shortIds.map (fun id => Grant.shortId id.toLower) ++
        rw.serverNames.map fun name => Grant.serverName name.toLower) := by
  rw [offers,liveGrants_buildConfig h]
  simp [granted,rwGrants,rwInboundBlock,filterMap_append,filterMap_map,
    filterMap_cons,connectsWith,Function.comp_def]

/-- The comparison of two served inbounds, field by field. -/
theorem takesAway_iff {node' : Node} {settings' : Settings} {opts' : BuildOptions} {cfg' : Config}
    {rw' : RwInbound} (h : buildConfig node settings opts (some rw) = .ok cfg)
    (h' : buildConfig node' settings' opts' (some rw') = .ok cfg') :
    TakesAway cfg cfg' ↔ rw.port≠rw'.port ∨ rw.privateKey≠rw'.privateKey ∨
      ¬rw.shortIds.map String.toLower ⊆ rw'.shortIds.map String.toLower ∨
      ¬rw.serverNames.map String.toLower ⊆ rw'.serverNames.map String.toLower := by
  have hserves : Serves cfg := (serves_buildConfig h).mpr rfl
  have hserves' : Serves cfg' := (serves_buildConfig h').mpr rfl
  have hless : TakesAway cfg cfg' ↔ ¬offers cfg ⊆ offers cfg' := by
    simp [TakesAway,hserves,hserves',subset_def]
  rw [hless,offers_buildConfig h,offers_buildConfig h',cons_subset,cons_subset,
    append_subset,not_and_or,not_and_or,not_and_or]
  simp [subset_def]

end Built

/-- The case the snapshot overlooks: the first settings list no server name, so that the default
one is served, the second ones list others, and nothing else is taken away. -/
structure Overlooked (readers : Readers) (first second : Stored) : Prop where
  enabled : rwGet first "rw_enabled" = "1"
  stillEnabled : rwGet second "rw_enabled" = "1"
  key : stripText (rwGet first "rw_private_key") ≠ ""
  sameKey : stripText (rwGet second "rw_private_key") = stripText (rwGet first "rw_private_key")
  client : ∃ c ∈ getClients readers first, c.enabled = true
  samePort : pyInt (rwGet second "rw_port") = pyInt (rwGet first "rw_port")
  shortIds : (commaParts (rwGet first "rw_short_ids")).map String.toLower ⊆
    (commaParts (rwGet second "rw_short_ids")).map String.toLower
  blank : commaParts (rwGet first "rw_server_names") = []
  named : commaParts (rwGet second "rw_server_names") ≠ []
  renamed : defaultServerName ∉ (commaParts (rwGet second "rw_server_names")).map String.toLower

theorem servedNames_of_ne_nil (h : commaParts (rwGet stored "rw_server_names")≠[]) :
    servedNames stored=commaParts (rwGet stored "rw_server_names") := by
  unfold servedNames
  split
  next hnil =>
    exact absurd hnil h
  · rfl

theorem servedNames_of_eq_nil (h : commaParts (rwGet stored "rw_server_names")=[]) :
    servedNames stored=[defaultServerName] := by
  simp only [servedNames,h]

theorem pyInt_of_validatePort {port : ℕ} (h : validatePort raw = .ok port) :
    pyInt raw=some (port : ℤ) := by
  unfold validatePort at h
  split at h
  · cases h
  next number hnumber =>
    obtain ⟨⟨hlow,-⟩,h⟩ := of_ite_ok h
    have hcast : ((number.toNat : ℕ) : ℤ)=number := Int.toNat_of_nonneg (by omega)
    rw [hnumber,← Except.ok.inj h,hcast]

variable {readers : Readers}

/-- Between two served inbounds the snapshot of the names misses what is taken away exactly when
the default name was served unlisted. -/
theorem names_overlooked_iff :
    (rwCredentials first).serverNames ⊆ (rwCredentials second).serverNames ∧
        ¬(servedNames first).map String.toLower ⊆ (servedNames second).map String.toLower ↔
      commaParts (rwGet first "rw_server_names")=[] ∧
        commaParts (rwGet second "rw_server_names")≠[] ∧
        defaultServerName∉(commaParts (rwGet second "rw_server_names")).map String.toLower := by
  have hlower : [defaultServerName].map String.toLower=[defaultServerName] := by decide +kernel
  by_cases hfst : commaParts (rwGet first "rw_server_names")=[]
  · have hnone : (rwCredentials first).serverNames=[] := by simp [rwCredentials,hfst]
    rw [hnone,servedNames_of_eq_nil hfst,hlower]
    by_cases hsnd : commaParts (rwGet second "rw_server_names")=[]
    · rw [servedNames_of_eq_nil hsnd,hlower]
      simp [hsnd]
    · rw [servedNames_of_ne_nil hsnd]
      simp [hfst,hsnd]
  · have hsome : (rwCredentials first).serverNames=(servedNames first).map String.toLower := by
      rw [servedNames_of_ne_nil hfst]
      rfl
    refine iff_of_false ?_ fun h => hfst h.1
    rintro ⟨hsub,hless⟩
    -- a name the first settings list is one the second ones list, so they list one
    have hsnd : commaParts (rwGet second "rw_server_names")≠[] := by
      intro hnil
      have hempty : (rwCredentials second).serverNames=[] := by simp [rwCredentials,hnil]
      rw [hempty,subset_nil] at hsub
      exact hfst (map_eq_nil_iff.mp hsub)
    rw [hsome] at hsub
    rw [servedNames_of_ne_nil hsnd] at hless
    exact hless hsub

/-- Two tests that differ in their last clause alone disagree only where it decides. -/
theorem differ_in_last_iff {port key ids listed served : Prop} :
    ((¬port ∨ ¬key ∨ ¬ids ∨ ¬served) → (¬port ∨ ¬key ∨ ¬ids ∨ ¬listed)) ↔
      ¬(port ∧ key ∧ ids ∧ listed ∧ ¬served) := by
  tauto

section

variable (h : Served readers first rw)

include h

/-- The snapshots of two served inbounds narrow exactly when a listed credential goes. -/
theorem rwNarrows_served (h' : Served readers second rw') :
    rwNarrows (rwCredentials first) (rwCredentials second)=true ↔
      rw.port≠rw'.port ∨ rw.privateKey≠rw'.privateKey ∨
        ¬rw.shortIds.map String.toLower ⊆ rw'.shortIds.map String.toLower ∨
        ¬(rwCredentials first).serverNames ⊆ (rwCredentials second).serverNames := by
  obtain ⟨hon,hkey,hset,hport,hids⟩ := rwCredentials_served h
  obtain ⟨henabled',hkey',-,hport',hids'⟩ := rwCredentials_served h'
  have hports : toString rw'.port=toString rw.port ↔ rw.port=rw'.port :=
    natText_injective.eq_iff.trans eq_comm
  have hkeys : rw'.privateKey=rw.privateKey ↔ rw.privateKey=rw'.privateKey := eq_comm
  unfold rwNarrows
  rw [hon,henabled',hkey,hkey',hport,hport',hids,hids']
  simp only [Bool.not_true,hset,decide_false,Bool.or_self,Bool.false_eq_true,if_false,
    Bool.false_or,Bool.or_eq_true,Bool.not_eq_true',decide_eq_false_iff_not,decide_eq_true_eq,
    ne_eq,hports,hkeys,or_assoc]
  exact or_left_comm

/-- Two resolved settings: the second one serves, or its snapshot narrows. -/
theorem served_or_narrows {found : Option RwInbound} (hresolve : resolve readers second = .ok found)
    (hclients : getClients readers second=getClients readers first) :
    (∃ rw', found=some rw' ∧ Served readers second rw') ∨
      found=none ∧ rwNarrows (rwCredentials first) (rwCredentials second)=true := by
  cases found with
  | some rw' => exact .inl ⟨rw',rfl,served_of_resolve hresolve⟩
  | none =>
    refine .inr ⟨rfl,?_⟩
    obtain ⟨hon,hkey,hset,-,-⟩ := rwCredentials_served h
    obtain hoff | hnokey | hnone := resolve_eq_none hresolve
    · have hoff' : (rwCredentials second).enabled=false := by simpa [rwCredentials] using hoff
      simp [rwNarrows,hon,hkey,hset,hoff']
    · have hnokey' : (rwCredentials second).privateKey = "" := hnokey
      simp [rwNarrows,hon,hkey,hset,hnokey',Ne.symm hset]
    · rw [hclients] at hnone
      exact absurd h.client hnone

/-- The overlooked case between two served inbounds: only a name goes, and no listed one. -/
theorem overlooked_iff (h' : Served readers second rw') :
    Overlooked readers first second ↔ rw.port=rw'.port ∧ rw.privateKey=rw'.privateKey ∧
      rw.shortIds.map String.toLower ⊆ rw'.shortIds.map String.toLower ∧
      (rwCredentials first).serverNames ⊆ (rwCredentials second).serverNames ∧
      ¬rw.serverNames.map String.toLower ⊆ rw'.serverNames.map String.toLower := by
  have hport := pyInt_of_validatePort h.port
  have hport' := pyInt_of_validatePort h'.port
  rw [h.privateKey,h'.privateKey,h.shortIds,h'.shortIds,h.serverNames,h'.serverNames,
    names_overlooked_iff]
  constructor
  · intro hover
    have hsame := hover.samePort
    rw [hport,hport',Option.some.injEq,Nat.cast_inj] at hsame
    exact ⟨hsame.symm,hover.sameKey.symm,hover.shortIds,hover.blank,hover.named,hover.renamed⟩
  · rintro ⟨hports,hkeys,hids,hblank,hnamed,hrenamed⟩
    exact ⟨h.enabled,h'.enabled,h.key,hkeys.symm,h.client,by rw [hport,hport',hports],hids,
      hblank,hnamed,hrenamed⟩

end

/-- For two settings that resolve, with the
same clients, a save that takes access away from the config built for the first one is recognised
as one that narrows, exactly when it is not the overlooked case. -/
theorem rwNarrows_recognises_iff (readers : Readers) {first second : Stored}
    {found found' : Option RwInbound} {node node' : Node} {settings settings' : Settings}
    {opts opts' : BuildOptions} {cfg cfg' : Config}
    (hfst : resolve readers first = .ok found) (hsnd : resolve readers second = .ok found')
    (hclients : getClients readers second = getClients readers first)
    (hbuilt : buildConfig node settings opts found = .ok cfg)
    (hbuilt' : buildConfig node' settings' opts' found' = .ok cfg') :
    (TakesAway cfg cfg' → rwNarrows (rwCredentials first) (rwCredentials second) = true) ↔
      ¬Overlooked readers first second := by
  cases found with
  | none =>
    -- nothing is served for the first settings: nothing can be taken away
    have hnot : ¬TakesAway cfg cfg' := fun h => by simpa using (serves_buildConfig hbuilt).mp h.1
    refine iff_of_true (fun h => absurd h hnot) ?_
    intro hover
    obtain hoff | hnokey | hnone := resolve_eq_none hfst
    · exact hoff hover.enabled
    · exact hover.key hnokey
    · exact hnone hover.client
  | some rw =>
    have hserved := served_of_resolve hfst
    obtain ⟨rw',rfl,hserved'⟩ | ⟨rfl,hnarrows⟩ := served_or_narrows hserved hsnd hclients
    · rw [takesAway_iff hbuilt hbuilt',rwNarrows_served hserved hserved',
        overlooked_iff hserved hserved']
      exact differ_in_last_iff
    · refine iff_of_true (fun _ => hnarrows) ?_
      intro hover
      obtain hoff | hnokey | hnone := resolve_eq_none hsnd
      · exact hoff hover.stillEnabled
      · exact hover.key (hover.sameKey.symm.trans hnokey)
      · exact hnone (hclients ▸ hover.client)

/-- A roster of one enabled client, the only text the reader knows. -/
def oneClientReaders : Readers where
  loads := fun text => if text = "roster" then
    some (.arr [.obj [("id", .str "0b9d1b5c-5d0c-4a52-8a43-0f0e6a3c8f11"),
      ("email", .str "phone")]]) else none
  text := ⟨fun _ => none, fun _ => none⟩

/-- Settings that differ in their server names only. -/
def savedNames (names : String) : Stored := fun key =>
  if key = "rw_enabled" then some "1"
  else if key = "rw_private_key" then some "AAAAAAAAAAAAAAAAAAAAAAAAAAAAAAAAAAAAAAAAAAA"
  else if key = "rw_clients" then some "roster"
  else if key = "rw_server_names" then some names
  else none

/-- The inbound served for them. -/
def servedWith (names : List String) : RwInbound where
  port := 443
  dest := "www.microsoft.com:443"
  serverNames := names
  privateKey := "AAAAAAAAAAAAAAAAAAAAAAAAAAAAAAAAAAAAAAAAAAA"
  shortIds := []
  clients := [⟨"0b9d1b5c-5d0c-4a52-8a43-0f0e6a3c8f11", "phone"⟩]
  hosts := []

theorem resolve_blank :
    resolve oneClientReaders (savedNames " ") = .ok (some (servedWith ["www.microsoft.com"])) := by
  decide +kernel

theorem resolve_listed : resolve oneClientReaders (savedNames "www.microsoft.com") =
      .ok (some (servedWith ["www.microsoft.com"])) := by
  decide +kernel

theorem resolve_other : resolve oneClientReaders (savedNames "Example.org") =
      .ok (some (servedWith ["Example.org"])) := by
  decide +kernel

theorem built_servedWith (names : List String) :
    ∃ cfg, buildConfig RoutingPriority.sampleNode RoutingPriority.sampleSettings
      RoutingPriority.sampleOptions (some (servedWith names)) = .ok cfg :=
  ⟨_,rfl⟩

theorem rwNarrows_recognises_iff_listed :
    ¬Overlooked oneClientReaders (savedNames "www.microsoft.com") (savedNames "Example.org") ∧
      rwNarrows (rwCredentials (savedNames "www.microsoft.com"))
        (rwCredentials (savedNames "Example.org")) = true := by
  have hnot : ¬Overlooked oneClientReaders (savedNames "www.microsoft.com")
      (savedNames "Example.org") := fun hover => absurd hover.blank (by decide +kernel)
  obtain ⟨cfg,hbuilt⟩ := built_servedWith ["www.microsoft.com"]
  obtain ⟨cfg',hbuilt'⟩ := built_servedWith ["Example.org"]
  have htakes : TakesAway cfg cfg' := by
    rw [takesAway_iff hbuilt hbuilt']
    decide +kernel
  exact ⟨hnot,(rwNarrows_recognises_iff oneClientReaders resolve_listed resolve_other rfl hbuilt
    hbuilt').mpr hnot htakes⟩

/-- The default name is served for a blank list and taken away by the first name that is saved,
and the snapshots do not show it. -/
theorem blank_names_overlooked :
    ∃ cfg cfg', buildConfig RoutingPriority.sampleNode RoutingPriority.sampleSettings
        RoutingPriority.sampleOptions (some (servedWith ["www.microsoft.com"])) = .ok cfg ∧
      buildConfig RoutingPriority.sampleNode RoutingPriority.sampleSettings
        RoutingPriority.sampleOptions (some (servedWith ["Example.org"])) = .ok cfg' ∧
      resolve oneClientReaders (savedNames " ") = .ok (some (servedWith ["www.microsoft.com"])) ∧
      resolve oneClientReaders (savedNames "Example.org") =
        .ok (some (servedWith ["Example.org"])) ∧
      getClients oneClientReaders (savedNames "Example.org") =
        getClients oneClientReaders (savedNames " ") ∧
      TakesAway cfg cfg' ∧
      rwNarrows (rwCredentials (savedNames " ")) (rwCredentials (savedNames "Example.org")) =
        false := by
  obtain ⟨cfg,hbuilt⟩ := built_servedWith ["www.microsoft.com"]
  obtain ⟨cfg',hbuilt'⟩ := built_servedWith ["Example.org"]
  have htakes : TakesAway cfg cfg' := by
    rw [takesAway_iff hbuilt hbuilt']
    decide +kernel
  exact ⟨cfg,cfg',hbuilt,hbuilt',resolve_blank,resolve_other,rfl,htakes,by decide +kernel⟩

end PiGwPanel.RemoteAccessSettings
