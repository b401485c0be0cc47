import PiGwPanel.NetworkSettings
import PiGwPanel.RemoteAccessSettings

/-!
# What a client is given to import

`rw_inbound` writes two artifacts for a client: a `.conf` of lines and
comma-separated fields, and a link. Neither format has escapes, so a value that
holds a separator would become structure. The validators keep almost every value
free of separators; three ends are left open, and the results say exactly where:
the scope of an IPv6 endpoint is any text, and two patterns let a line break
stand behind a client's id and behind a mapped name.
-/

namespace PiGwPanel.RemoteAccessArtifacts

open PyText IpAddress NetworkSettings RemoteAccessSettings CheckedResult DelimitedText List
open ConfigStore (Json)
open GatewayPanel (Client)

/-- `validate_endpoint`. -/
def validateEndpoint (raw : String) : Except String String :=
  let endpoint := stripText raw
  if endpoint = "" then .error "the external endpoint must not be empty"
  else if endpoint.toList.head? = some '[' ∧ endpoint.toList.getLast? = some ']' then
    if (ipv6Address (endpoint.toList.drop 1).dropLast).isSome then .ok endpoint
    else .error ("the external endpoint has an invalid IPv6 literal: " ++ pyRepr endpoint)
  else if (ipv4Address endpoint.toList).isSome then .ok endpoint
  else validateHostname endpoint "the external endpoint"

/-- `validate_nets`. -/
def validateNets (nets : List String) : Except String (List String) :=
  match nets.find? fun net => (ipv4Network net.toList).isNone with
  | some net => .error ("invalid CIDR " ++ pyRepr net)
  | none => .ok nets

/-- `validate_email`. -/
def validateEmail (email : String) : Except String String :=
  let email := stripText email
  if isEmail email then .ok email
  else .error "client name must be 1-40 chars of letters, digits, dot, dash or underscore"

/-- The values both artifacts are written with. -/
structure ArtifactFields where
  (endpoint publicKey : String)
  (names shortIds : List String)
  port : ℕ

/-- The checks of `_artifact_fields` on an endpoint and a key that are set. -/
def checkedFields (stored : Stored) (endpoint publicKey : String) :
    Except String ArtifactFields := do
  let endpoint ← validateEndpoint endpoint
  let publicKey ← validateKey publicKey "the Reality public key"
  let names ← validateServerNames (servedNames stored)
  let shortIds ← validateShortIds (commaParts (rwGet stored "rw_short_ids"))
  let port ← validatePort (rwGet stored "rw_port")
  return { endpoint, publicKey, names, shortIds, port }

/-- `_artifact_fields`. -/
def artifactFields (stored : Stored) : Except String ArtifactFields :=
  let endpoint := stripText (rwGet stored "rw_endpoint")
  let publicKey := stripText (rwGet stored "rw_public_key")
  if endpoint = "" then .error "set the external endpoint (DDNS name or WAN IP) first"
  else if publicKey = "" then .error "set the Reality public key first"
  else checkedFields stored endpoint publicKey

/-- `_artifact_client`: the id and the label of a client. -/
def artifactClient (client : Client) : Except String (String × String) :=
  if isUuid client.id then (validateEmail client.email).map fun email => (client.id, email)
  else .error "client id is malformed — remove and re-add the client"

/-- The digit of a percent escape. -/
def hexUpper (n : ℕ) : Char := if n < 10 then Char.ofNat (48 + n) else Char.ofNat (55 + n)

/-- A percent escape. -/
def escapeByte (byte : UInt8) : List Char :=
  ['%', hexUpper (byte.toNat / 16), hexUpper (byte.toNat % 16)]

/-- A character `quote` leaves alone. -/
def isUnreserved (c : Char) : Bool := c.isAlphanum || c ∈ ['_', '.', '-', '~', '/']

/-- `urllib.parse.quote`. -/
def quote (text : String) : String :=
  String.ofList (text.toList.flatMap fun c =>
    if isUnreserved c then [c] else (String.utf8EncodeChar c).flatMap escapeByte)

/-- `_tag`. -/
def clientTag (email : String) : String :=
  let tag := String.ofList (email.toList.map fun c =>
    if c.isAlphanum || c ∈ ['.', '_', '-'] then c else '-')
  if tag = "" then "v2pi" else tag

/-- The last label of a mapped name. -/
def lastLabel (name : String) : String := String.ofList (name.toList.rtakeWhile fun c => c ≠ '.')

/-- `host_suffixes`. -/
def hostSuffixes (hosts : List (String × String)) : List String :=
  ((hosts.map fun host => lastLabel host.1).dedup).insertionSort (· ≤ ·)

/-- What goes into an artifact once every check passed. -/
structure Artifact where
  fields : ArtifactFields
  (clientId email : String)

/-- The checks both artifacts begin with. -/
def artifact (stored : Stored) (client : Client) : Except String Artifact := do
  let fields ← artifactFields stored
  let (clientId, email) ← artifactClient client
  return { fields, clientId, email }

namespace Artifact

/-- The first server name. -/
def sni (a : Artifact) : String := a.fields.names.headD ""

/-- The first short id, if any. -/
def shortId (a : Artifact) : String := a.fields.shortIds.headD ""

def tag (a : Artifact) : String := clientTag a.email

/-- The `[Proxy]` line. -/
def proxyLine (a : Artifact) : String :=
  a.tag ++ " = vless, " ++ a.fields.endpoint ++ ", " ++ toString a.fields.port ++ ", username=" ++
    a.clientId ++ ", tls=true, network=tcp, flow=xtls-rprx-vision, sni=" ++ a.sni ++
    ", fingerprint=chrome, reality-public-key=" ++ a.fields.publicKey ++
    ", reality-short-id=" ++ a.shortId ++ ", udp=true"

/-- The parameters of the link. -/
def query (a : Artifact) : String :=
  "type=tcp&security=reality&encryption=none&flow=xtls-rprx-vision&fp=chrome&sni=" ++
    quote a.sni ++ "&pbk=" ++ quote a.fields.publicKey ++ "&sid=" ++ quote a.shortId

/-- The link up to its query. -/
def authority (a : Artifact) : String :=
  "vless://" ++ a.clientId ++ "@" ++ a.fields.endpoint ++ ":" ++ toString a.fields.port

/-- The text of the link. -/
def linkText (a : Artifact) : String :=
  a.authority ++ "?" ++ a.query ++ "#" ++ quote a.email

/-- The rule of a mapped suffix. -/
def suffixRule (a : Artifact) (suffix : String) : String :=
  "DOMAIN-SUFFIX," ++ suffix ++ "," ++ a.tag

/-- The rule of a routed network. -/
def netRule (a : Artifact) (net : String) : String :=
  "IP-CIDR," ++ net ++ "," ++ a.tag ++ ",no-resolve"

/-- The rule for everything else. -/
def finalRule (a : Artifact) : String := "FINAL," ++ a.tag

/-- The lines of the `.conf`. -/
def confLines (a : Artifact) (suffixes nets : List String) : List String :=
  ["#!name = " ++ a.tag, "# generated by pi-gw-panel — import into Shadowrocket", "", "[General]",
   "bypass-system = true", "ipv6 = false", "skip-proxy = 127.0.0.1, ::1, localhost, *.local", "",
   "[Proxy]", a.proxyLine, "", "[Rule]"] ++
    (suffixes.map a.suffixRule ++ nets.map a.netRule ++ [a.finalRule]) ++ [""]

end Artifact

/-- `link`. -/
def link (stored : Stored) (client : Client) : Except String String :=
  (artifact stored client).map Artifact.linkText

/-- What the `.conf` is written from: the artifact, the mapped hosts and the routed networks. -/
def confParts (readers : Readers) (stored : Stored) (client : Client) (nets : List String) :
    Except String (Artifact × List (String × String) × List String) := do
  let a ← artifact stored client
  let hosts ← getHosts readers stored
  let nets ← validateNets nets
  return (a, hosts, nets)

/-- `shadowrocket_conf`. -/
def shadowrocketConf (readers : Readers) (stored : Stored) (client : Client) (nets : List String) :
    Except String String :=
  (confParts readers stored client nets).map fun (a, hosts, nets) =>
    join '\n' (a.confLines (hostSuffixes hosts) nets)

/-- A carriage return or a line feed. -/
def isLineBreak (c : Char) : Bool := c = '\n' || c = '\r'

def isComma (c : Char) : Bool := c = ','

/-- A character that means something in either format. -/
def isStructural (c : Char) : Bool := c ∈ [',', '\n', '\r', '?', '#', '&']

namespace Artifact

/-- The fields the template puts into the `[Proxy]` line. -/
def proxyFields (a : Artifact) : List String :=
  [a.tag ++ " = vless", " " ++ a.fields.endpoint, " " ++ toString a.fields.port,
   " username=" ++ a.clientId, " tls=true", " network=tcp", " flow=xtls-rprx-vision",
   " sni=" ++ a.sni, " fingerprint=chrome", " reality-public-key=" ++ a.fields.publicKey,
   " reality-short-id=" ++ a.shortId, " udp=true"]

/-- The parameters the template puts into the link. -/
def parameters (a : Artifact) : List String :=
  ["type=tcp", "security=reality", "encryption=none", "flow=xtls-rprx-vision", "fp=chrome",
   "sni=" ++ quote a.sni, "pbk=" ++ quote a.fields.publicKey, "sid=" ++ quote a.shortId]

end Artifact

/-- A `.conf` of the lines and fields of its template, with no mapped name under `.local`. -/
structure ConfSound (a : Artifact) (hosts : List (String × String)) (nets : List String)
    (conf : String) : Prop where
  lines : split isLineBreak conf = a.confLines (hostSuffixes hosts) nets
  proxy : split isComma a.proxyLine = a.proxyFields
  suffixRules : ∀ suffix ∈ hostSuffixes hosts,
    split isComma (a.suffixRule suffix) = ["DOMAIN-SUFFIX", suffix, a.tag]
  netRules : ∀ net ∈ nets,
    split isComma (a.netRule net) = ["IP-CIDR", net, a.tag, "no-resolve"]
  finalRule : split isComma a.finalRule = ["FINAL", a.tag]
  names : ∀ host ∈ hosts, ¬".local".toList <:+ beforeBreak host.1.toList

/-- A link of one line with one query, one fragment and the parameters of its template. -/
structure LinkSound (a : Artifact) (text : String) : Prop where
  line : split isLineBreak text = [text]
  fragment : split (fun c => c = '#') text = [a.authority ++ "?" ++ a.query, quote a.email]
  query : split (fun c => c = '?') (a.authority ++ "?" ++ a.query) = [a.authority, a.query]
  parameters : split (fun c => c = '&') a.query = a.parameters

/-- Stored values that cannot become structure of the `.conf`. -/
structure ConfPlain (readers : Readers) (stored : Stored) (client : Client) : Prop where
  endpoint : Free (fun c => isComma c || isLineBreak c) (stripText (rwGet stored "rw_endpoint"))
  clientId : '\n' ∉ client.id.toList
  hosts : ∀ fields, readers.loads (rwGet stored "rw_hosts") = some (.obj fields) →
    ∀ entry ∈ fields, '\n' ∉ (mappedName entry.1).toList

/-- Stored values that cannot become structure of the link. -/
structure LinkPlain (stored : Stored) (client : Client) : Prop where
  endpoint : Free (fun c => c = '?' || c = '#' || isLineBreak c)
    (stripText (rwGet stored "rw_endpoint"))
  clientId : '\n' ∉ client.id.toList

section Languages

variable {c : Char} {raw what : String} {checked : List String}

theorem isStructural_of_isAlphanum (h : c.isAlphanum=true) : isStructural c=false := by
  by_contra hstructural
  have hmem : c∈[',', '\n', '\r', '?', '#', '&'] :=
    of_decide_eq_true (by simpa only [isStructural,Bool.not_eq_false] using hstructural)
  have hnone : [',', '\n', '\r', '?', '#', '&'].all (fun d => !d.isAlphanum)=true := by decide
  have hc := all_eq_true.mp hnone c hmem
  rw [h] at hc
  cases hc

theorem isStructural_of_mem {chars : List Char}
    (hchars : chars.all (fun d => !isStructural d)=true) (h : c∈chars) :
    isStructural c=false := by
  simpa using all_eq_true.mp hchars c h

theorem isAlphanum_of_isDigit (h : c.isDigit=true) : c.isAlphanum=true := by
  simp [Char.isAlphanum,h]

theorem isStructural_of_isHex (h : isHex c=true) : isStructural c=false := by
  apply isStructural_of_isAlphanum
  simp only [isHex,Bool.or_eq_true,Bool.and_eq_true,decide_eq_true_eq] at h
  delta Char.isAlphanum Char.isAlpha Char.isUpper Char.isLower
  simp only [Bool.or_eq_true,Bool.and_eq_true,decide_eq_true_eq]
  rcases h with (h | ⟨hlow,hhigh⟩) | ⟨hlow,hhigh⟩
  · exact .inr h
  · exact .inl (.inr ⟨hlow,hhigh.trans (by decide)⟩)
  · exact .inl (.inl ⟨hlow,hhigh.trans (by decide)⟩)

theorem isStructural_of_labels {name : List Char} (h : (labels name).all legalLabel=true) :
    ∀ c∈name, isStructural c=false := by
  refine forall_of_parts '.' (fun label hlabel c hc => ?_) (by decide)
  have hlegal := all_eq_true.mp h label hlabel
  simp only [legalLabel,Bool.and_eq_true,all_eq_true,Bool.or_eq_true, decide_eq_true_eq] at hlegal
  rcases hlegal.1.1.2 c hc with halnum | rfl
  · exact isStructural_of_isAlphanum halnum
  · decide

theorem free_of_validateHostname {name : String} (h : validateHostname raw what = .ok name) :
    Free isStructural name := by
  have hname := validateHostname_eq_ok h
  unfold validateHostname at h
  obtain ⟨-,h⟩ := of_ite_error_ok h
  obtain ⟨-,h⟩ := of_ite_error_ok h
  obtain ⟨hlabels,-⟩ := of_ite_ok h
  rw [hname]
  apply isStructural_of_labels
  rw [all_eq_true] at hlabels ⊢
  intro label hlabel
  have hboth := hlabels label hlabel
  simp only [Bool.and_eq_true] at hboth
  exact hboth.1

theorem free_of_validateKey {key : String} (h : validateKey raw what = .ok key) :
    Free isStructural key := by
  have hkey := validateKey_eq_ok h
  unfold validateKey at h
  obtain ⟨hbody,-⟩ := of_ite_ok h
  rw [← hkey] at hbody
  simp only [Bool.and_eq_true,all_eq_true] at hbody
  have hchars : ∀ c, isBase64 c=true → isStructural c=false := by
    intro c hc
    simp only [isBase64,Bool.or_eq_true,decide_eq_true_eq] at hc
    rcases hc with halnum | hmem
    · exact isStructural_of_isAlphanum halnum
    · exact isStructural_of_mem (by decide) hmem
  intro c hc
  by_cases hpad : key.toList.getLast? = some '='
  · rw [if_pos hpad] at hbody
    have hsplit := dropLast_append_getLast? '=' hpad
    rw [← hsplit] at hc
    rcases mem_append.mp hc with hfront | hlast
    · exact hchars c (hbody.2 c hfront)
    · rw [mem_singleton.mp hlast]
      decide
  · rw [if_neg hpad] at hbody
    exact hchars c (hbody.2 c hc)

theorem free_of_validateShortIds {ids : List String} (h : validateShortIds ids = .ok checked) :
    ∀ id∈checked, Free isStructural id := by
  have hids := validateShortIds_eq_ok h
  subst hids
  unfold validateShortIds at h
  split at h
  · cases h
  next hnone =>
    intro id hid c hc
    have hlegal := find?_eq_none.mp hnone id hid
    simp only [Bool.or_eq_true,Bool.not_eq_true',not_or,Bool.not_eq_false] at hlegal
    exact isStructural_of_isHex (all_eq_true.mp hlegal.2 c hc)

theorem free_toString (n : ℕ) : Free isStructural (toString n) := by
  intro c hc
  rw [Nat.toString_eq_ofList_toDigits,String.toList_ofList] at hc
  exact isStructural_of_isAlphanum
    (isAlphanum_of_isDigit (Nat.isDigit_of_mem_toDigits (by decide) (by decide) hc))

theorem free_clientTag (email : String) : Free isStructural (clientTag email) := by
  unfold clientTag
  dsimp only
  split
  · decide
  · intro c hc
    rw [String.toList_ofList] at hc
    obtain ⟨d,-,rfl⟩ := mem_map.mp hc
    split
    next hd =>
      simp only [Bool.or_eq_true,decide_eq_true_eq] at hd
      rcases hd with halnum | hmem
      · exact isStructural_of_isAlphanum halnum
      · exact isStructural_of_mem (by decide) hmem
    · decide

theorem free_of_validateNets {nets : List String} (h : validateNets nets = .ok checked) :
    ∀ net∈checked, Free isStructural net := by
  unfold validateNets at h
  split at h
  · cases h
  next hnone =>
    rw [← Except.ok.inj h]
    intro net hnet c hc
    have hsome := find?_eq_none.mp hnone net hnet
    obtain ⟨range,hrange⟩ := Option.ne_none_iff_exists'.mp (by simpa using hsome)
    rcases chars_of_ipv4Network hrange c hc with hdigit | rfl | rfl
    · exact isStructural_of_isAlphanum (isAlphanum_of_isDigit hdigit)
    · decide
    · decide

theorem free_quote (text : String) : Free isStructural (quote text) := by
  have hdigit : ∀ n<16, isStructural (hexUpper n)=false := by decide
  intro c hc
  rw [quote,String.toList_ofList] at hc
  obtain ⟨d,-,hc⟩ := mem_flatMap.mp hc
  split at hc
  next hd =>
    rw [mem_singleton.mp hc]
    simp only [isUnreserved,Bool.or_eq_true,decide_eq_true_eq] at hd
    rcases hd with halnum | hmem
    · exact isStructural_of_isAlphanum halnum
    · exact isStructural_of_mem (by decide) hmem
  · obtain ⟨byte,-,hc⟩ := mem_flatMap.mp hc
    have hbyte : byte.toNat<256 := byte.toNat_lt
    simp only [escapeByte,mem_cons,not_mem_nil,or_false] at hc
    rcases hc with rfl | rfl | rfl
    · decide
    · exact hdigit _ (by omega)
    · exact hdigit _ (by omega)

theorem mem_beforeBreak {text : List Char} (h : c∈text) : c∈beforeBreak text ∨ c = '\n' := by
  unfold beforeBreak
  split
  next hlast =>
    rw [← dropLast_append_getLast? '\n' hlast] at h
    exact (mem_append.mp h).imp_right mem_singleton.mp
  · exact .inl h

theorem free_of_isUuid {id : String} (h : isUuid id=true) :
    Free isStructural id ↔ '\n' ∉ id.toList := by
  constructor
  · intro hfree hbreak
    exact absurd (hfree _ hbreak) (by decide)
  · intro hbreak c hc
    have hpre := (mem_beforeBreak hc).resolve_right fun heq => hbreak (heq ▸ hc)
    simp only [isUuid,Bool.and_eq_true,all_eq_true] at h
    have hall : ∀ d∈beforeBreak id.toList, isStructural d=false :=
      forall_of_parts '-' (fun group hgroup d hd => isStructural_of_isHex (h.2 group hgroup d hd))
        (by decide)
    exact hall c hpre

end Languages

section Hosts

/-- A name the mapping takes: legal labels, a line break behind them at most, not under
`.local`. -/
structure LegalName (name : String) : Prop where
  labels : (labels (beforeBreak name.toList)).all legalLabel = true
  suffix : ¬".local".toList <:+ name.toList

theorem legalName_of_validateHost {text : SegmentRuleset.IpText} {key : String} {ip : Json}
    {entry : String × String} (h : validateHost text key ip = .ok entry) :
    entry.1=mappedName key ∧ LegalName (mappedName key) := by
  unfold validateHost at h
  obtain ⟨-,h⟩ := of_ite_error_ok h
  obtain ⟨hlabels,h⟩ := of_ite_error_ok h
  obtain ⟨hlocal,h⟩ := of_ite_error_ok h
  simp only [Bool.or_eq_true,Bool.not_eq_true',not_or,Bool.not_eq_false] at hlabels
  split at h
  · rw [← Except.ok.inj h]
    exact ⟨rfl,hlabels.1,fun hsuf => hlocal (isSuffixOf_iff_suffix.mpr hsuf)⟩
  · cases h

theorem mem_putHost (hosts : List (String × String)) (entry : String × String) (name : String) :
    name∈(putHost hosts entry).map Prod.fst ↔ name∈hosts.map Prod.fst ∨ name=entry.1 := by
  unfold putHost
  split
  next hthere =>
    have hsame : (hosts.map fun other => if other.1=entry.1 then entry else other).map
        Prod.fst=hosts.map Prod.fst := by
      rw [map_map]
      apply map_congr_left
      intro other _
      by_cases heq : other.1=entry.1
      · simp [heq]
      · simp [heq]
    rw [hsame]
    obtain ⟨other,hother,heq⟩ := any_eq_true.mp hthere
    have hentry : entry.1∈hosts.map Prod.fst := mem_map.mpr ⟨other,hother,of_decide_eq_true heq⟩
    constructor
    · exact .inl
    · rintro (hin | rfl)
      · exact hin
      · exact hentry
  · simp [map_append]

theorem mem_foldl_putHost (entries hosts : List (String × String)) (name : String) :
    name∈(entries.foldl putHost hosts).map Prod.fst ↔
      name∈hosts.map Prod.fst ∨ name∈entries.map Prod.fst := by
  induction entries generalizing hosts with
  | nil => simp
  | cons entry rest ih =>
    rw [foldl_cons,ih,mem_putHost,map_cons,mem_cons,or_assoc]

variable {hosts : List (String × String)}

/-- The mapped names are those of the stored keys, each of them legal. -/
theorem mem_getHosts {readers : Readers} {stored : Stored} (h : getHosts readers stored = .ok hosts) :
    (∀ name∈hosts.map Prod.fst, LegalName name ∧
      ∃ fields, readers.loads (rwGet stored "rw_hosts")=some (.obj fields) ∧
        ∃ entry∈fields, mappedName entry.1=name) ∧
    ∀ fields, readers.loads (rwGet stored "rw_hosts")=some (.obj fields) →
      ∀ entry∈fields, mappedName entry.1∈hosts.map Prod.fst := by
  unfold getHosts at h
  split at h
  next fields hloads =>
    obtain ⟨-,h⟩ := of_ite_error_ok h
    obtain ⟨entries,hents,rfl⟩ := exists_of_map_ok h
    obtain ⟨hout,hin⟩ := forall_mapM_ok hents
    constructor
    · intro name hname
      rw [mem_foldl_putHost] at hname
      obtain ⟨entry,hentry,rfl⟩ := mem_map.mp (hname.resolve_left (by simp))
      obtain ⟨field,hfield,hcheck⟩ := hout entry hentry
      obtain ⟨hname,hlegal⟩ := legalName_of_validateHost hcheck
      rw [hname]
      exact ⟨hlegal,fields,hloads,field,hfield,rfl⟩
    · intro other hother entry hentry
      rw [hloads,Option.some.injEq,Json.obj.injEq] at hother
      rw [← hother] at hentry
      obtain ⟨out,hout,hcheck⟩ := hin entry hentry
      rw [mem_foldl_putHost,← (legalName_of_validateHost hcheck).1]
      exact .inr (mem_map_of_mem hout)
  next hother =>
    rw [← Except.ok.inj h]
    exact ⟨by simp,fun fields hfields => absurd hfields (hother fields)⟩

/-- A line break behind a legal name is in its last label, and nothing else in there
separates. -/
theorem free_lastLabel {name : String} (h : LegalName name) :
    Free isStructural (lastLabel name) ↔ '\n' ∉ name.toList := by
  have hmem : ∀ c∈(lastLabel name).toList, c∈name.toList := by
    intro c hc
    rw [lastLabel,String.toList_ofList] at hc
    exact (rtakeWhile_suffix _ _).subset hc
  constructor
  · intro hfree hbreak
    have hlegal := isStructural_of_labels h.labels
    have hlast : name.toList.getLast? = some '\n' := by
      by_contra hlast
      rw [beforeBreak,if_neg hlast] at hlegal
      exact absurd (hlegal _ hbreak) (by decide)
    have hlabel : '\n' ∈ (lastLabel name).toList := by
      rw [lastLabel,String.toList_ofList,← dropLast_append_getLast? '\n' hlast,
        rtakeWhile_concat_pos _ _ _ (by decide)]
      simp
    exact absurd (hfree _ hlabel) (by decide)
  · intro hbreak c hc
    have hin := hmem c hc
    have hpre := (mem_beforeBreak hin).resolve_right fun heq => hbreak (heq ▸ hin)
    exact isStructural_of_labels h.labels c hpre

theorem mem_hostSuffixes {suffix : String} :
    suffix∈hostSuffixes hosts ↔ ∃ name∈hosts.map Prod.fst, lastLabel name=suffix := by
  simp [hostSuffixes,mem_insertionSort,mem_dedup]

end Hosts

/-- What the checks leave of an artifact: everything is free of separators but the endpoint, which
is the trimmed one, and the client's id, which is a UUID. -/
structure Checked (stored : Stored) (client : Client) (a : Artifact) : Prop where
  endpoint : a.fields.endpoint = stripText (rwGet stored "rw_endpoint")
  publicKey : Free isStructural a.fields.publicKey
  sni : Free isStructural a.sni
  shortId : Free isStructural a.shortId
  clientId : a.clientId = client.id
  uuid : isUuid client.id = true

theorem validateEndpoint_eq_ok {raw endpoint : String} (h : validateEndpoint raw = .ok endpoint) :
    endpoint=stripText raw := by
  unfold validateEndpoint at h
  obtain ⟨-,h⟩ := of_ite_error_ok h
  split_ifs at h
  · exact (Except.ok.inj h).symm
  · exact (Except.ok.inj h).symm
  · rw [validateHostname_eq_ok h,stripText_idem]

theorem checked_of_artifact {stored : Stored} {client : Client} {a : Artifact}
    (h : artifact stored client = .ok a) : Checked stored client a := by
  obtain ⟨fields,hfields,h⟩ := exists_of_bind_ok h
  obtain ⟨⟨clientId,email⟩,hclient,h⟩ := exists_of_bind_ok h
  rw [← Except.ok.inj h]
  unfold artifactFields at hfields
  obtain ⟨-,hfields⟩ := of_ite_error_ok hfields
  obtain ⟨-,hfields⟩ := of_ite_error_ok hfields
  obtain ⟨endpoint,hendpoint,hfields⟩ := exists_of_bind_ok hfields
  obtain ⟨key,hkey,hfields⟩ := exists_of_bind_ok hfields
  obtain ⟨names,hnames,hfields⟩ := exists_of_bind_ok hfields
  obtain ⟨ids,hids,hfields⟩ := exists_of_bind_ok hfields
  obtain ⟨port,-,hfields⟩ := exists_of_bind_ok hfields
  rw [← Except.ok.inj hfields]
  obtain ⟨huuid,hclient⟩ := of_ite_ok hclient
  obtain ⟨label,-,hpair⟩ := exists_of_map_ok hclient
  have hhead {items : List String} (hall : ∀ item∈items, Free isStructural item) :
      Free isStructural (items.headD "") := by
    cases items with
    | nil => decide
    | cons first rest => exact hall first mem_cons_self
  constructor
  · rw [validateEndpoint_eq_ok hendpoint,stripText_idem]
  · exact free_of_validateKey hkey
  · apply hhead
    intro name hname
    obtain ⟨-,hnames⟩ := of_ite_error_ok hnames
    obtain ⟨raw,-,hcheck⟩ := (forall_mapM_ok hnames).1 name hname
    exact free_of_validateHostname hcheck
  · exact hhead (free_of_validateShortIds hids)
  · exact (congrArg Prod.fst hpair).symm
  · exact huuid

section Templates

theorem proxy_template (tag endpoint port client sni key id : String) :
    tag ++ " = vless, " ++ endpoint ++ ", " ++ port ++ ", username=" ++ client ++
        ", tls=true, network=tcp, flow=xtls-rprx-vision, sni=" ++ sni ++
        ", fingerprint=chrome, reality-public-key=" ++ key ++ ", reality-short-id=" ++ id ++
        ", udp=true" =
      join ',' [tag ++ " = vless", " " ++ endpoint, " " ++ port, " username=" ++ client,
        " tls=true", " network=tcp", " flow=xtls-rprx-vision", " sni=" ++ sni,
        " fingerprint=chrome", " reality-public-key=" ++ key, " reality-short-id=" ++ id,
        " udp=true"] := by
  have hsep : String.singleton ',' = "," := rfl
  have hvless : " = vless, " = " = vless" ++ "," ++ " " := by decide
  have hport : ", " = "," ++ " " := by decide
  have hclient : ", username=" = "," ++ " username=" := by decide
  have hsni : ", tls=true, network=tcp, flow=xtls-rprx-vision, sni=" =
      "," ++ " tls=true" ++ "," ++ " network=tcp" ++ "," ++ " flow=xtls-rprx-vision" ++ "," ++
        " sni=" := by decide
  have hkey : ", fingerprint=chrome, reality-public-key=" =
      "," ++ " fingerprint=chrome" ++ "," ++ " reality-public-key=" := by decide
  have hid : ", reality-short-id=" = "," ++ " reality-short-id=" := by decide
  have hudp : ", udp=true" = "," ++ " udp=true" := by decide
  rw [hvless,hport,hclient,hsni,hkey,hid,hudp]
  simp only [join_cons_cons,join_singleton,hsep,String.append_assoc]

theorem query_template (sni key id : String) :
    "type=tcp&security=reality&encryption=none&flow=xtls-rprx-vision&fp=chrome&sni=" ++ sni ++
        "&pbk=" ++ key ++ "&sid=" ++ id =
      join '&' ["type=tcp", "security=reality", "encryption=none", "flow=xtls-rprx-vision",
        "fp=chrome", "sni=" ++ sni, "pbk=" ++ key, "sid=" ++ id] := by
  have hsep : String.singleton '&' = "&" := rfl
  have hstart : "type=tcp&security=reality&encryption=none&flow=xtls-rprx-vision&fp=chrome&sni=" =
      "type=tcp" ++ "&" ++ "security=reality" ++ "&" ++ "encryption=none" ++ "&" ++
        "flow=xtls-rprx-vision" ++ "&" ++ "fp=chrome" ++ "&" ++ "sni=" := by decide
  have hkey : "&pbk=" = "&" ++ "pbk=" := by decide
  have hid : "&sid=" = "&" ++ "sid=" := by decide
  rw [hstart,hkey,hid]
  simp only [join_cons_cons,join_singleton,hsep,String.append_assoc]

theorem suffix_template (suffix tag : String) :
    "DOMAIN-SUFFIX," ++ suffix ++ "," ++ tag=join ',' ["DOMAIN-SUFFIX",suffix,tag] := by
  have hsep : String.singleton ',' = "," := rfl
  have hword : "DOMAIN-SUFFIX," = "DOMAIN-SUFFIX" ++ "," := by decide
  simp only [join_cons_cons,join_singleton,hsep,hword,String.append_assoc]

theorem net_template (net tag : String) : "IP-CIDR," ++ net ++ "," ++ tag ++ ",no-resolve" =
      join ',' ["IP-CIDR",net,tag, "no-resolve"] := by
  have hsep : String.singleton ',' = "," := rfl
  have hword : "IP-CIDR," = "IP-CIDR" ++ "," := by decide
  have hlast : ",no-resolve" = "," ++ "no-resolve" := by decide
  simp only [join_cons_cons,join_singleton,hsep,hword,hlast,String.append_assoc]

variable (a : Artifact)

theorem proxyLine_eq_join : a.proxyLine=join ',' a.proxyFields := proxy_template ..

theorem query_eq_join : a.query=join '&' a.parameters := query_template ..

theorem suffixRule_eq_join (suffix : String) :
    a.suffixRule suffix=join ',' ["DOMAIN-SUFFIX",suffix,a.tag] := suffix_template ..

theorem netRule_eq_join (net : String) :
    a.netRule net=join ',' ["IP-CIDR",net,a.tag, "no-resolve"] := net_template ..

theorem finalRule_eq_join : a.finalRule=join ',' ["FINAL",a.tag] := by
  have hword : "FINAL," = "FINAL" ++ String.singleton ',' := by decide
  rw [Artifact.finalRule,hword,join_cons_cons,join_singleton]

theorem linkText_eq_join : a.linkText=join '#' [a.authority ++ "?" ++ a.query,quote a.email] := by
  rw [join_cons_cons,join_singleton]
  rfl

theorem authority_query_eq_join : a.authority ++ "?" ++ a.query=join '?' [a.authority,a.query] := by
  rw [join_cons_cons,join_singleton]
  rfl

end Templates

variable {text : String}

/-- What is free of every separator is free of line breaks, of commas and of each of the rest. -/
theorem free_lineBreak (h : Free isStructural text) : Free isLineBreak text := by
  refine h.mono fun c hc => ?_
  simp only [isLineBreak,Bool.or_eq_true,decide_eq_true_eq] at hc
  rcases hc with rfl | rfl <;> decide

theorem free_comma (h : Free isStructural text) : Free isComma text := by
  refine h.mono fun c hc => ?_
  simp only [isComma,decide_eq_true_eq] at hc
  rw [hc]
  decide

theorem free_separator {separator : Char} (hsep : isStructural separator=true)
    (h : Free isStructural text) : Free (fun c => c=separator) text := by
  refine h.mono fun c hc => ?_
  rw [of_decide_eq_true hc]
  exact hsep

theorem free_or {first second : Char → Bool} :
    Free (fun c => first c || second c) text ↔ Free first text ∧ Free second text := by
  simp [Free,forall_and]

section Sound

variable {readers : Readers} {stored : Stored} {client : Client} {nets checkedNets : List String}
  {a : Artifact} {hosts : List (String × String)}

theorem free_lineBreak_of_isUuid {id : String} (h : isUuid id=true) :
    Free isLineBreak id ↔ '\n' ∉ id.toList := by
  constructor
  · intro hfree hbreak
    exact absurd (hfree _ hbreak) (by decide)
  · exact fun hbreak => free_lineBreak ((free_of_isUuid h).mpr hbreak)

section

variable (h : Checked stored client a)

include h

/-- The `[Proxy]` line breaks at the endpoint and at the client's id only. -/
theorem free_proxyLine : Free isLineBreak a.proxyLine ↔
      Free isLineBreak a.fields.endpoint ∧ '\n' ∉ client.id.toList := by
  rw [← free_lineBreak_of_isUuid h.uuid,← h.clientId]
  have htag := free_lineBreak (free_clientTag a.email)
  have hport := free_lineBreak (free_toString a.fields.port)
  have hsni := free_lineBreak h.sni
  have hkey := free_lineBreak h.publicKey
  have hid := free_lineBreak h.shortId
  have htext : ∀ text∈[" = vless, ", ", ", ", username=",
      ", tls=true, network=tcp, flow=xtls-rprx-vision, sni=",
      ", fingerprint=chrome, reality-public-key=", ", reality-short-id=", ", udp=true"],
      Free isLineBreak text := by decide
  simp only [forall_mem_cons] at htext
  simp only [Artifact.proxyLine,Artifact.tag,free_append,htag,hport,hsni,hkey,hid,htext,
    true_and,and_true]

/-- The `[Proxy]` line has the fields of its template exactly when the endpoint has no comma. -/
theorem split_proxyLine :
    split isComma a.proxyLine=a.proxyFields ↔ Free isComma a.fields.endpoint := by
  have hid : Free isComma a.clientId := by
    -- a line break behind the id is no comma
    rw [h.clientId]
    intro c hc
    rcases mem_beforeBreak hc with hpre | rfl
    · have huuid := h.uuid
      simp only [isUuid,Bool.and_eq_true,all_eq_true] at huuid
      have hall : ∀ d∈beforeBreak client.id.toList, isComma d=false := by
        refine forall_of_parts '-' (fun group hgroup d hd => ?_) (by decide)
        have hplain := isStructural_of_isHex (huuid.2 group hgroup d hd)
        by_contra hcomma
        simp only [isComma,Bool.not_eq_false,decide_eq_true_eq] at hcomma
        rw [hcomma] at hplain
        exact absurd hplain (by decide)
      exact hall c hpre
    · decide
  have htag := free_comma (free_clientTag a.email)
  have hport := free_comma (free_toString a.fields.port)
  have hsni := free_comma h.sni
  have hkey := free_comma h.publicKey
  have hshort := free_comma h.shortId
  have htext : ∀ text∈[" = vless", " ", " username=", " tls=true", " network=tcp",
      " flow=xtls-rprx-vision", " sni=", " fingerprint=chrome", " reality-public-key=",
      " reality-short-id=", " udp=true"], Free isComma text := by decide
  simp only [forall_mem_cons] at htext
  rw [proxyLine_eq_join,split_join_iff (by decide) (by simp [Artifact.proxyFields])]
  simp only [Artifact.proxyFields,Artifact.tag,forall_mem_cons,free_append,htag,hport,
    hsni,hkey,hshort,hid,htext,true_and,and_true]
  simp

/-- The lines of the `.conf` come back exactly when none of its values breaks a line. -/
theorem split_conf (hnets : ∀ net∈nets, Free isStructural net) (suffixes : List String) :
    split isLineBreak (join '\n' (a.confLines suffixes nets))=a.confLines suffixes nets ↔
      (Free isLineBreak a.fields.endpoint ∧ '\n' ∉ client.id.toList) ∧
        ∀ suffix∈suffixes, Free isLineBreak suffix := by
  have htag := free_lineBreak (free_clientTag a.email)
  have htext : ∀ text∈["#!name = ", "# generated by pi-gw-panel — import into Shadowrocket", "",
      "[General]", "bypass-system = true", "ipv6 = false",
      "skip-proxy = 127.0.0.1, ::1, localhost, *.local", "[Proxy]", "[Rule]", "DOMAIN-SUFFIX,",
      ",", "IP-CIDR,", ",no-resolve", "FINAL,"], Free isLineBreak text := by decide
  simp only [forall_mem_cons] at htext
  rw [split_join_iff (by decide) (by simp [Artifact.confLines]),← free_proxyLine h]
  have hnetLines : ∀ net∈nets, Free isLineBreak (a.netRule net) := by
    intro net hnet
    have hfree := free_lineBreak (hnets net hnet)
    simp only [Artifact.netRule,Artifact.tag,free_append,hfree,htag,htext,and_self]
  have hsuffixLines : (∀ suffix∈suffixes, Free isLineBreak (a.suffixRule suffix)) ↔
      ∀ suffix∈suffixes, Free isLineBreak suffix := by
    have hrule (suffix : String) :
        a.suffixRule suffix = "DOMAIN-SUFFIX," ++ suffix ++ "," ++ a.tag := rfl
    simp only [hrule,Artifact.tag,free_append,htag,htext,true_and,and_true]
  have hfinal : Free isLineBreak a.finalRule := by
    simp only [Artifact.finalRule,Artifact.tag,free_append,htag,htext,and_self]
  have hname : Free isLineBreak ("#!name = " ++ a.tag) := by
    simp only [Artifact.tag,free_append,htag,htext,and_self]
  rw [← hsuffixLines]
  have hnil : (∀ text∈([] : List String), Free isLineBreak text) ↔ True := by simp
  simp only [Artifact.confLines,forall_mem_append,forall_mem_cons,forall_mem_map,
    htext,hname,hfinal,true_and,and_true,hnil]
  exact ⟨fun h => ⟨h.1,h.2.1⟩, fun h => ⟨h.1,h.2,hnetLines⟩⟩

end

theorem checked_of_confParts (h : confParts readers stored client nets = .ok (a, hosts, checkedNets)) :
    Checked stored client a ∧ getHosts readers stored = .ok hosts ∧
      ∀ net∈checkedNets, Free isStructural net := by
  obtain ⟨found,hartifact,h⟩ := exists_of_bind_ok h
  obtain ⟨mapped,hhosts,h⟩ := exists_of_bind_ok h
  obtain ⟨routed,hnets,h⟩ := exists_of_bind_ok h
  obtain ⟨rfl,hpair⟩ := Prod.mk.inj (Except.ok.inj h)
  obtain ⟨rfl,rfl⟩ := Prod.mk.inj hpair
  exact ⟨checked_of_artifact hartifact,hhosts,free_of_validateNets hnets⟩

/-- The `.conf` is sound exactly when the stored values are plain. -/
theorem confSound_iff (h : confParts readers stored client nets = .ok (a, hosts, checkedNets)) :
    ConfSound a hosts checkedNets (join '\n' (a.confLines (hostSuffixes hosts) checkedNets)) ↔
      ConfPlain readers stored client := by
  obtain ⟨hchk,hhosts,hnets⟩ := checked_of_confParts h
  obtain ⟨hlegal,hkeys⟩ := mem_getHosts hhosts
  have hlines := split_conf hchk hnets (hostSuffixes hosts)
  have hproxy := split_proxyLine hchk
  rw [hchk.endpoint] at hlines hproxy
  constructor
  · intro hsound
    obtain ⟨⟨hendpoint,hid⟩,hsuffixes⟩ := hlines.mp hsound.lines
    refine ⟨free_or.mpr ⟨hproxy.mp hsound.proxy,hendpoint⟩,hid,fun fields hfields entry hentry => ?_⟩
    have hname := hkeys fields hfields entry hentry
    have hlabel := hsuffixes _ (mem_hostSuffixes.mpr ⟨_,hname,rfl⟩)
    intro hbreak
    -- the break is in the last label, which would then break its rule's line
    have hstructural := mt (free_lastLabel (hlegal _ hname).1).mp (not_not.mpr hbreak)
    apply hstructural
    intro c hc
    by_contra hseparates
    have hin : c∈(mappedName entry.1).toList := by
      rw [lastLabel,String.toList_ofList] at hc
      exact (rtakeWhile_suffix _ _).subset hc
    rcases mem_beforeBreak hin with hpre | rfl
    · exact hseparates (isStructural_of_labels (hlegal _ hname).1.labels c hpre)
    · exact absurd (hlabel _ hc) (by decide)
  · intro hplain
    obtain ⟨hcomma,hendpoint⟩ := free_or.mp hplain.endpoint
    have hbreaks : ∀ name∈hosts.map Prod.fst, '\n' ∉ name.toList := by
      intro name hname
      obtain ⟨-,fields,hfields,entry,hentry,rfl⟩ := hlegal name hname
      exact hplain.hosts fields hfields entry hentry
    have hsuffixes : ∀ suffix∈hostSuffixes hosts, Free isStructural suffix := by
      intro suffix hsuf
      obtain ⟨name,hname,rfl⟩ := mem_hostSuffixes.mp hsuf
      exact (free_lastLabel (hlegal name hname).1).mpr (hbreaks name hname)
    have htag := free_comma (free_clientTag a.email)
    have hwords : ∀ text∈["DOMAIN-SUFFIX", "IP-CIDR", "no-resolve", "FINAL"],
        Free isComma text := by decide
    refine ⟨hlines.mpr ⟨⟨hendpoint,hplain.clientId⟩,fun suffix hsuf =>
      free_lineBreak (hsuffixes suffix hsuf)⟩,hproxy.mpr hcomma,fun suffix hsuf => ?_,
      fun net hnet => ?_,?_,fun host hhost hlocal => ?_⟩
    · rw [suffixRule_eq_join]
      refine split_join (by decide) (by simp) ?_
      simp [Artifact.tag,htag,hwords,free_comma (hsuffixes suffix hsuf)]
    · rw [netRule_eq_join]
      refine split_join (by decide) (by simp) ?_
      simp [Artifact.tag,htag,hwords,free_comma (hnets net hnet)]
    · rw [finalRule_eq_join]
      refine split_join (by decide) (by simp) ?_
      simp [Artifact.tag,htag,hwords]
    · have hname : host.1∈hosts.map Prod.fst := mem_map_of_mem hhost
      have hlast : host.1.toList.getLast?≠some '\n' := fun hlast =>
        hbreaks _ hname (mem_of_getLast? hlast)
      rw [beforeBreak,if_neg hlast] at hlocal
      exact (hlegal _ hname).1.suffix hlocal

/-- What a link is taken apart at ahead of its parameters. -/
def isLinkBreak (c : Char) : Bool := c = '?' || c = '#' || isLineBreak c

variable {text : String}

theorem free_linkBreak (h : Free isStructural text) : Free isLinkBreak text := by
  refine h.mono fun c hc => ?_
  simp only [isLinkBreak,isLineBreak,Bool.or_eq_true,decide_eq_true_eq] at hc
  rcases hc with (rfl | rfl) | rfl | rfl <;> decide

theorem free_linkBreak_iff :
    Free isLinkBreak text ↔ Free (fun c => c = '?') text ∧ Free (fun c => c = '#') text ∧
      Free isLineBreak text := by
  have heq : isLinkBreak = fun c => decide (c = '?') || (decide (c = '#') || isLineBreak c) := by
    funext c
    rw [isLinkBreak,Bool.or_assoc]
  rw [heq,free_or,free_or]

/-- The link is taken apart ahead of its query at the endpoint and at the client's id only. -/
theorem free_authority (h : Checked stored client a) : Free isLinkBreak a.authority ↔
      Free isLinkBreak a.fields.endpoint ∧ '\n' ∉ client.id.toList := by
  have hid : Free isLinkBreak a.clientId ↔ '\n' ∉ client.id.toList := by
    rw [h.clientId]
    constructor
    · intro hfree hbreak
      exact absurd (hfree _ hbreak) (by decide)
    · exact fun hbreak => free_linkBreak ((free_of_isUuid h.uuid).mpr hbreak)
  have hport := free_linkBreak (free_toString a.fields.port)
  have htext : ∀ text∈["vless://", "@", ":"], Free isLinkBreak text := by decide
  simp only [forall_mem_cons] at htext
  rw [← hid]
  simp only [Artifact.authority,free_append,hport,htext,true_and,and_true]
  exact and_comm

theorem free_query : Free isLinkBreak a.query ∧ split (fun c => c = '&') a.query=a.parameters := by
  constructor
  · have hstart : Free isLinkBreak
        "type=tcp&security=reality&encryption=none&flow=xtls-rprx-vision&fp=chrome&sni=" := by
      decide
    have hkey : Free isLinkBreak "&pbk=" := by decide
    have hid : Free isLinkBreak "&sid=" := by decide
    have hquote (text : String) : Free isLinkBreak (quote text) := free_linkBreak (free_quote text)
    unfold Artifact.query
    simp only [free_append]
    exact ⟨⟨⟨⟨⟨hstart,hquote _⟩,hkey⟩,hquote _⟩,hid⟩,hquote _⟩
  · have htext : ∀ text∈["type=tcp", "security=reality", "encryption=none",
        "flow=xtls-rprx-vision", "fp=chrome", "sni=", "pbk=", "sid="],
        Free (fun c => c = '&') text := by decide
    have hquote (text : String) : Free (fun c => c = '&') (quote text) :=
      free_separator (by decide) (free_quote text)
    rw [query_eq_join]
    refine split_join (by decide) (by simp [Artifact.parameters]) ?_
    simp [Artifact.parameters,htext,hquote]

theorem linkSound_iff (h : artifact stored client = .ok a) :
    LinkSound a a.linkText ↔ LinkPlain stored client := by
  have hchk := checked_of_artifact h
  have hauthority := free_authority hchk
  obtain ⟨hquery,hparameters⟩ := free_query (a := a)
  obtain ⟨hquery1,hquery2,hquery3⟩ := free_linkBreak_iff.mp hquery
  obtain ⟨hemail1,hemail2,hemail3⟩ := free_linkBreak_iff.mp (free_linkBreak (free_quote a.email))
  have hmarks : Free isLineBreak "?" ∧ Free isLineBreak "#" ∧ Free (fun c => c = '#') "?" := by
    decide
  have hline : split isLineBreak a.linkText=[a.linkText] ↔ Free isLineBreak a.authority := by
    have hsplit : split isLineBreak (join '\n' [a.linkText])=[a.linkText] ↔
        ∀ piece∈[a.linkText], Free isLineBreak piece :=
      split_join_iff rfl (cons_ne_nil _ _)
    rw [join_singleton] at hsplit
    rw [hsplit]
    simp [Artifact.linkText,hquery3,hemail3,hmarks]
  have hfrag : split (fun c => c = '#') a.linkText =
      [a.authority ++ "?" ++ a.query,quote a.email] ↔ Free (fun c => c = '#') a.authority := by
    rw [linkText_eq_join,split_join_iff (by decide) (by simp)]
    simp [hquery2,hemail2,hmarks]
  have hpart : split (fun c => c = '?') (a.authority ++ "?" ++ a.query) =
      [a.authority,a.query] ↔ Free (fun c => c = '?') a.authority := by
    rw [authority_query_eq_join,split_join_iff (by decide) (by simp)]
    simp [hquery1]
  rw [hchk.endpoint] at hauthority
  constructor
  · intro hsound
    have hfree : Free isLinkBreak a.authority := free_linkBreak_iff.mpr
      ⟨hpart.mp hsound.query,hfrag.mp hsound.fragment,hline.mp hsound.line⟩
    obtain ⟨hendpoint,hid⟩ := hauthority.mp hfree
    exact ⟨hendpoint,hid⟩
  · intro hplain
    obtain ⟨hq,hf,hl⟩ := free_linkBreak_iff.mp (hauthority.mpr ⟨hplain.endpoint,hplain.clientId⟩)
    exact ⟨hline.mpr hl,hfrag.mpr hf,hpart.mpr hq,hparameters⟩

end Sound

/-- For any stored settings and any client, a returned `.conf` has
exactly the lines and fields of its template exactly when the trimmed endpoint holds no comma and
no line break, no line break stands behind the client's id and none behind a mapped name; a
returned link has one line, one query, one fragment and the parameters of its template exactly
when the trimmed endpoint holds no question mark, number sign or line break and no line break
stands behind the client's id. -/
theorem artifacts_carry_values_iff (readers : Readers) (stored : Stored) (client : Client)
    (nets : List String) : (∀ conf, shadowrocketConf readers stored client nets = .ok conf →
      ∃ a hosts checkedNets, confParts readers stored client nets = .ok (a, hosts, checkedNets) ∧
        (ConfSound a hosts checkedNets conf ↔ ConfPlain readers stored client)) ∧
    ∀ text, link stored client = .ok text →
      ∃ a, artifact stored client = .ok a ∧ (LinkSound a text ↔ LinkPlain stored client) := by
  constructor
  · intro conf hconf
    obtain ⟨⟨a,hosts,checkedNets⟩,hparts,rfl⟩ := exists_of_map_ok hconf
    exact ⟨a,hosts,checkedNets,hparts,confSound_iff hparts⟩
  · intro text hlink
    obtain ⟨a,hartifact,rfl⟩ := exists_of_map_ok hlink
    exact ⟨a,hartifact,linkSound_iff hartifact⟩

/-- Stored remote access with the given endpoint. -/
def sampleStored (endpoint : String) : Stored := fun key =>
  [("rw_endpoint", endpoint), ("rw_short_ids", "ab12cd34"),
   ("rw_public_key", "mBwTKKQHYGKBsXTMrmYyvOFxVW9bVGnnWbnUTbGUtQ4")].lookup key

/-- Readers of a stored host mapping with one entry. -/
def sampleReaders (name : String) : Readers :=
  ⟨fun _ => some (.obj [(name, .str "192.168.1.88")]), standardText⟩

/-- The client of the samples, with text behind its id. -/
def sampleClient (behind : String) : Client :=
  ⟨"b831381d-6324-4d53-ad4f-8cda48b30811" ++ behind, "iphone", true⟩

theorem artifacts_carry_values_iff_sample :
    (∃ a hosts nets conf, shadowrocketConf (sampleReaders "nas.v2pi")
        (sampleStored "home.example.org") (sampleClient "") ["192.168.1.0/24"] = .ok conf ∧
      ConfSound a hosts nets conf) ∧
    ∃ a text, link (sampleStored "home.example.org") (sampleClient "") = .ok text ∧
      LinkSound a text := by
  obtain ⟨hconf,hlink⟩ := artifacts_carry_values_iff (sampleReaders "nas.v2pi")
    (sampleStored "home.example.org") (sampleClient "") ["192.168.1.0/24"]
  have hret : (shadowrocketConf (sampleReaders "nas.v2pi") (sampleStored "home.example.org")
      (sampleClient "") ["192.168.1.0/24"]).isOk=true := by decide +kernel
  have hlinks : (link (sampleStored "home.example.org") (sampleClient "")).isOk=true := by
    decide +kernel
  obtain ⟨conf,hret⟩ := exists_of_isOk hret
  obtain ⟨text,hlinks⟩ := exists_of_isOk hlinks
  obtain ⟨a,hosts,nets,-,hsound⟩ := hconf conf hret
  obtain ⟨b,-,hlinkSound⟩ := hlink text hlinks
  have hid : '\n' ∉ (sampleClient "").id.toList := by decide +kernel
  have hname : '\n' ∉ (mappedName "nas.v2pi").toList := by decide +kernel
  refine ⟨⟨a,hosts,nets,conf,hret,hsound.mpr ⟨by decide +kernel,hid,?_⟩⟩,
    b,text,hlinks,hlinkSound.mpr ⟨by decide +kernel,hid⟩⟩
  intro fields hfields entry hentry
  cases hfields
  rw [mem_singleton.mp hentry]
  exact hname

/-- An endpoint whose scope holds a comma and a line break. -/
def scopedEndpoint : String := "[fe80::1%a, b\nFINAL,DIRECT]"

/-- Accepted settings whose values become structure. The scope of an endpoint adds lines and fields
to the `[Proxy]` line, and a query and a fragment to a link; a line break behind a client's id
breaks the `[Proxy]` line; one behind a mapped name breaks its rule and brings back the `.local`
suffix. -/
theorem stored_values_become_structure :
    (∃ a hosts nets, confParts (sampleReaders "nas.v2pi") (sampleStored scopedEndpoint)
        (sampleClient "") [] = .ok (a, hosts, nets) ∧
      split isComma a.proxyLine ≠ a.proxyFields ∧ ¬Free isLineBreak a.proxyLine) ∧
    (confParts (sampleReaders "nas.local\n.") (sampleStored "home.example.org") (sampleClient "")
        []).map (fun (a, hosts, _) => (hostSuffixes hosts).map fun suffix =>
          split isLineBreak (a.suffixRule suffix)) = .ok [["DOMAIN-SUFFIX,local", ",iphone"]] ∧
    (∃ a, artifact (sampleStored "[fe80::1%?sni=x#]") (sampleClient "") = .ok a ∧
      ¬LinkSound a a.linkText) ∧
    ∃ a, artifact (sampleStored "home.example.org") (sampleClient "\n") = .ok a ∧
      ¬Free isLineBreak a.proxyLine := by
  refine ⟨?_,by decide +kernel,?_,?_⟩
  · have hret : (confParts (sampleReaders "nas.v2pi") (sampleStored scopedEndpoint)
        (sampleClient "") []).isOk=true := by decide +kernel
    obtain ⟨⟨a,hosts,nets⟩,hparts⟩ := exists_of_isOk hret
    have hchk := (checked_of_confParts hparts).1
    have hendpoint : a.fields.endpoint=stripText scopedEndpoint := hchk.endpoint
    refine ⟨a,hosts,nets,hparts,?_,?_⟩
    · rw [ne_eq,split_proxyLine hchk,hendpoint]
      decide +kernel
    · rw [free_proxyLine hchk,hendpoint]
      decide +kernel
  · have hret : (artifact (sampleStored "[fe80::1%?sni=x#]") (sampleClient "")).isOk=true := by
      decide +kernel
    obtain ⟨a,ha⟩ := exists_of_isOk hret
    refine ⟨a,ha,fun hsound => ?_⟩
    have hmark := ((linkSound_iff ha).mp hsound).endpoint
    exact absurd hmark (by decide +kernel)
  · have hret : (artifact (sampleStored "home.example.org") (sampleClient "\n")).isOk=true := by
      decide +kernel
    obtain ⟨a,ha⟩ := exists_of_isOk hret
    refine ⟨a,ha,fun hfree => ?_⟩
    have hid := ((free_proxyLine (checked_of_artifact ha)).mp hfree).2
    exact absurd hid (by decide +kernel)

end PiGwPanel.RemoteAccessArtifacts
