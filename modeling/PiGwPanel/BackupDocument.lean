import PiGwPanel.ConfigStore
import PiGwPanel.SegmentRuleset

/-!
# Backup documents and their validation

The document `backup/__init__.py` writes and reads back, and the preflight it
passes before a row is touched: one check per field, the checks of each record,
and the references across records. A refusal names the field it is about.

The validators of the network and road-warrior settings belong to other parts of
the panel and enter as parameters, so what is proved here holds for any of them.
-/

namespace PiGwPanel.BackupDocument

open Models PyText ConfigStore SegmentRuleset

/-- A value of the settings map of a document. -/
inductive SettingValue where
  | text (value : String)
  | number (value : ℤ)
  | flag (value : Bool)
  deriving DecidableEq, Repr

/-- `str(value)`. -/
def SettingValue.str : SettingValue → String
  | .text value => value
  | .number value => toString value
  | .flag value => if value then "True" else "False"

/-- The text a restore stores for a value. -/
def SettingValue.stored : SettingValue → String
  | .text value => value
  | .number value => toString value
  | .flag value => if value then "1" else "0"

/-- `int(value)`. -/
def SettingValue.int : SettingValue → Option ℤ
  | .text value => pyInt value
  | .number value => some value
  | .flag value => some (if value then 1 else 0)

/-- `BackupSubscription`. -/
structure BackupSubscription where
  id : ℕ
  (name url : String)
  injection : Json
  intervalSec : ℤ
  enabled : Bool
  defaultProfileId : Option ℕ

/-- `BackupRule`. -/
structure BackupRule where
  type : RuleType
  value : String
  action : Action
  enabled : Bool
  (label dataset : String)
  deriving DecidableEq, Repr

/-- `BackupReservation`. -/
structure BackupReservation where
  (mac ip name : String)
  deriving DecidableEq, Repr

/-- `BackupDocument`. Nodes and profiles carry the columns of their tables. -/
structure Document where
  schemaVersion : ℕ
  createdAt : Option ℤ
  nodes : List Node
  subscriptions : List BackupSubscription
  profiles : List TuningProfile
  rules : List BackupRule
  /-- The routing block's default action, when the document gives one. -/
  defaultAction : Option String
  reservations : List BackupReservation
  settings : List (String × SettingValue)

/-- The value of a key in the settings map. -/
def Document.setting (doc : Document) (key : String) : Option SettingValue :=
  doc.settings.lookup key

/-- The schema an export is written in. -/
def backupSchema : ℕ := 3

def maxNodes : ℕ := 5000

def maxSubscriptions : ℕ := 256

def maxProfiles : ℕ := 256

def maxRules : ℕ := 256

def maxReservations : ℕ := 64

/-- The keys of `SETTINGS_DEFAULTS`. -/
def settingsDefaults : List String :=
  ["tunneled_fetch", "subs_auto_switch", "routing_default_action", "health_enabled",
   "health_sweep_enabled", "health_interval", "health_active_interval", "health_hysteresis",
   "health_probe_url", "health_probe_url6", "failover_enabled", "failover_cooldown",
   "stats_enabled", "stats_api_port", "traffic_sample_ms", "dns_intercept",
   "routing_domain_strategy", "session_timeout_min", "auto_backup_enabled",
   "update_check_enabled", "traffic_cap_gb", "traffic_cap_reset_day", "diag_url", "diag_bytes",
   "ipv6_enabled", "segment_ip6", "manage_segment", "manage_dnsmasq", "ipv6_pd", "client_dns6"]

/-- `_SETTINGS_KEYS`: the settings a backup carries. -/
def settingsKeys : List String :=
  settingsDefaults ++
    ["segment_iface", "segment_ip", "dhcp_start", "dhcp_end", "dhcp_lease", "client_dns",
     "kill_switch_enabled", "lan_access_enabled", "default_profile_id", "ula_prefix6",
     "rw_enabled", "rw_port", "rw_dest", "rw_server_names", "rw_short_ids", "rw_public_key",
     "rw_endpoint", "rw_hosts", "rw_routed_nets"]

/-- `_SETTINGS_NEVER_BACKED_UP`: neither exported nor written by a restore. -/
def settingsNeverBackedUp : List String := ["rw_private_key", "rw_clients"]

/-- What is wrong with a document: the field and the reason. -/
abbrev Issue := List String × String

/-- The text of a refusal. -/
def Issue.render (issue : Issue) : String := ".".intercalate issue.1 ++ ": " ++ issue.2

/-- The issue seen from the record that holds the field. -/
def Issue.under (part : String) (issue : Issue) : Issue := (part :: issue.1, issue.2)

/-- The first issue of a list of checks. -/
def firstIssue (checks : List (Option Issue)) : Option Issue := checks.findSome? id

/-- A refusal raised by a validator of the whole record. -/
def valueError (why : String) : Issue := ([], "Value error, " ++ why)

/-- `Field(min_length=low, max_length=high)` on text. -/
def textIssue (field : String) (low high : ℕ) (value : String) : Option Issue :=
  if value.length < low then
    some ([field], "String should have at least " ++ toString low ++
      (if low = 1 then " character" else " characters"))
  else if high < value.length then
    some ([field], "String should have at most " ++ toString high ++ " characters")
  else none

/-- `Field(gt=low)` on an id. -/
def idIssue (field : String) (value : ℕ) : Option Issue :=
  if value = 0 then some ([field], "Input should be greater than 0") else none

/-- `Field(default=None, gt=0)`. -/
def optionalIdIssue (field : String) (value : Option ℕ) : Option Issue :=
  value.bind (idIssue field)

/-- `Field(ge=low, le=high)`. -/
def rangeIssue (field : String) (low high : ℤ) (value : ℤ) : Option Issue :=
  if high < value then
    some ([field], "Input should be less than or equal to " ++ toString high)
  else if value < low then
    some ([field], "Input should be greater than or equal to " ++ toString low)
  else none

/-- `Literal[...]` on text. -/
def choiceIssue (field : String) (choices : List String) (value : String) : Option Issue :=
  if value ∈ choices then none
  else some ([field], "Input should be " ++ ", ".intercalate (choices.dropLast.map pyRepr) ++
    " or " ++ pyRepr (choices.getLastD ""))

/-- `Field(min_length=low, max_length=high)` on a list, then each item at its index. -/
def listIssue {α : Type} (field : String) (low high : ℕ) (items : List α)
    (check : α → Option Issue) : Option Issue :=
  if high < items.length then
    some ([field], "List should have at most " ++ toString high ++
      " items after validation, not " ++ toString items.length)
  else if items.length < low then
    some ([field], "List should have at least " ++ toString low ++
      " item after validation, not " ++ toString items.length)
  else (items.zipIdx.findSome? fun (item, index) =>
    (check item).map (Issue.under (toString index))).map (Issue.under field)

/-- `BackupNoise`. -/
def noiseIssue (noise : Noise) : Option Issue :=
  firstIssue [choiceIssue "type" ["rand", "str", "base64", "hex"] noise.type,
     textIssue "packet" 0 256 noise.packet,
     textIssue "delay" 0 64 noise.delay]

/-- `BackupProfile`. -/
def profileIssue (profile : TuningProfile) : Option Issue :=
  firstIssue [idIssue "id" profile.id,
     textIssue "name" 1 512 profile.name,
     textIssue "fingerprint" 0 32 profile.fingerprint,
     textIssue "frag_packets" 0 64 profile.fragPackets,
     textIssue "frag_length" 0 64 profile.fragLength,
     textIssue "frag_interval" 0 64 profile.fragInterval,
     textIssue "doh_url" 0 2048 profile.dohUrl,
     listIssue "noises" 0 32 profile.noises noiseIssue,
     textIssue "xhttp_padding" 0 64 profile.xhttpPadding,
     textIssue "xmux_max_concurrency" 0 64 profile.xmuxMaxConcurrency,
     textIssue "xmux_max_connections" 0 64 profile.xmuxMaxConnections,
     textIssue "mux_concurrency" 0 64 profile.muxConcurrency,
     textIssue "xudp_proxy_udp443" 0 32 profile.xudpProxyUdp443,
     textIssue "alpn" 0 128 profile.alpn,
     textIssue "tls_min" 0 32 profile.tlsMin,
     textIssue "tls_max" 0 32 profile.tlsMax]

/-- The stack loop of `bounded_injection`; `left` items may still be visited. -/
def injectionLoop : (left : ℕ) → (stack : List (Json × ℕ)) → Option Issue
  | _, [] => none
  | left, (value, depth) :: rest =>
    if 8 < depth then some (valueError "subscription injection nesting is too deep")
    else match left with
      | 0 => some (valueError "subscription injection has too many items")
      | left + 1 =>
        match value with
        | .obj fields =>
          if fields.any fun field => 512 < field.1.length then
            some (valueError "subscription injection key is too long")
          else injectionLoop left ((fields.map fun field => (field.2, depth + 1)).reverse ++ rest)
        | .arr items =>
          injectionLoop left ((items.map fun item => (item, depth + 1)).reverse ++ rest)
        | .str text =>
          if 8192 < text.length then
            some (valueError "subscription injection value is too long")
          else injectionLoop left rest
        | _ => injectionLoop left rest

/-- The characters `json.dumps` writes for one character of a text. -/
def jsonCharSize (c : Char) : ℕ :=
  let n := c.toNat
  if n = 0x22 || n = 0x5C || (0x8 ≤ n && n ≤ 0xA) || n = 0xC || n = 0xD then 2
  else if 0x20 ≤ n && n ≤ 0x7E then 1
  else if n < 0x10000 then 6
  else 12

/-- The length of a text in `json.dumps`. -/
def jsonTextSize (text : String) : ℕ := 2 + (text.toList.map jsonCharSize).sum

mutual

/-- `len(json.dumps(value, separators=(",", ":")))`. -/
def jsonSize : Json → ℕ
  | .null => 4
  | .bool value => if value then 4 else 5
  | .num value => (toString value).length
  | .str value => jsonTextSize value
  | .arr items => 2 + (items.length - 1) + jsonItemsSize items
  | .obj fields => 2 + (fields.length - 1) + jsonFieldsSize fields

/-- The items of a list without its separators. -/
def jsonItemsSize : List Json → ℕ
  | [] => 0
  | item :: rest => jsonSize item + jsonItemsSize rest

/-- The fields of an object without its separators. -/
def jsonFieldsSize : List (String × Json) → ℕ
  | [] => 0
  | (key, value) :: rest => jsonTextSize key + 1 + jsonSize value + jsonFieldsSize rest

end

/-- `BackupSubscription` with `bounded_injection`. -/
def subscriptionIssue (sub : BackupSubscription) : Option Issue :=
  firstIssue [idIssue "id" sub.id,
     textIssue "name" 1 512 sub.name,
     textIssue "url" 1 2048 sub.url,
     rangeIssue "interval_sec" 0 31536000 sub.intervalSec,
     optionalIdIssue "default_profile_id" sub.defaultProfileId,
     injectionLoop 2048 [(sub.injection, 0)],
     if 65536 < jsonSize sub.injection then
       some (valueError "subscription injection is too large") else none]

/-- `_SS2022_KEY_BYTES`. -/
def ss2022KeyBytes : List (String × ℕ) :=
  [("2022-blake3-aes-128-gcm", 16), ("2022-blake3-aes-256-gcm", 32),
   ("2022-blake3-chacha20-poly1305", 32)]

/-- The bytes `base64.b64decode(text, validate=True)` yields, when it accepts the text. -/
def base64Length (text : String) : Option ℕ :=
  let body := text.toList.takeWhile fun c => c ≠ '='
  let padding := text.toList.drop body.length
  if body.all (fun c => c.isAlphanum || c = '+' || c = '/') && padding.all (fun c => c = '=') &&
      padding.length ≤ 2 && (body.length + padding.length) % 4 = 0 then
    some (3 * ((body.length + padding.length) / 4) - padding.length)
  else none

/-- `ss_password_issue`. -/
def ssPasswordIssue (method password : String) : Option String :=
  (ss2022KeyBytes.lookup method).bind fun needed =>
    match base64Length password with
    | none => some (method ++ " needs a base64-encoded " ++ toString needed ++ "-byte key")
    | some length =>
      if length ≠ needed then
        some (method ++ " needs a " ++ toString needed ++ "-byte key (" ++ toString length ++
          " bytes decoded)")
      else none

/-- The wire name of a protocol. -/
def protocolName : Protocol → String
  | .vless => "vless"
  | .trojan => "trojan"
  | .shadowsocks => "shadowsocks"

/-- `required_credential`. -/
def requiredCredential (node : Node) : Option Issue :=
  firstIssue [if node.protocol = .vless then
       if node.uuid = "" then some (valueError "a vless node needs a uuid") else none
     else if node.password = "" then
       some (valueError ("a " ++ protocolName node.protocol ++ " node needs a password"))
     else none,
     if node.protocol = .shadowsocks then
       if node.method ∉ ssMethods then
         some (valueError ("unsupported shadowsocks cipher " ++ pyRepr node.method))
       else (ssPasswordIssue node.method node.password).map valueError
     else none]

/-- `BackupNode`. -/
def nodeIssue (node : Node) : Option Issue :=
  firstIssue [idIssue "id" node.id,
     textIssue "name" 1 512 node.name,
     textIssue "address" 1 253 node.address,
     rangeIssue "port" 1 65535 node.port,
     textIssue "uuid" 0 512 node.uuid,
     textIssue "password" 0 512 node.password,
     textIssue "method" 0 64 node.method,
     textIssue "sni" 0 253 node.sni,
     textIssue "public_key" 0 512 node.publicKey,
     textIssue "short_id" 0 512 node.shortId,
     textIssue "fingerprint" 0 32 node.fingerprint,
     textIssue "flow" 0 64 node.flow,
     textIssue "network" 0 32 node.network,
     textIssue "security" 0 32 node.security,
     textIssue "path" 0 512 node.path,
     textIssue "host" 0 253 node.host,
     textIssue "mode" 0 64 node.mode,
     textIssue "alpn" 0 128 node.alpn,
     textIssue "note" 0 512 node.note,
     optionalIdIssue "subscription_id" node.subscriptionId,
     optionalIdIssue "tuning_profile_id" node.tuningProfileId,
     rangeIssue "position" 0 maxNodes node.position,
     requiredCredential node]

/-- `BackupRule`. -/
def ruleIssue (rule : BackupRule) : Option Issue :=
  firstIssue [choiceIssue "type" ["geoip", "geosite", "domain", "ip", "port", "device"]
       rule.type.text,
     textIssue "value" 1 512 rule.value,
     textIssue "label" 0 512 rule.label,
     choiceIssue "dataset" ["", "ru"] rule.dataset]

/-- `BackupReservation` with `well_shaped`. -/
def reservationShapeIssue (text : IpText) (res : BackupReservation) : Option Issue :=
  firstIssue [textIssue "mac" 1 64 res.mac,
     textIssue "ip" 1 64 res.ip,
     textIssue "name" 0 32 res.name,
     (reservationValueIssue text res.mac res.ip res.name).map fun problem =>
       valueError ("reservation " ++ res.mac ++ ": " ++ problem)]

/-- The actions a routing block may name. -/
def actionNames : List String := ["direct", "proxy", "block"]

/-- `SETTINGS_INT_BOUNDS`. -/
def settingsIntBounds : List (String × ℤ × Option ℤ) :=
  [("health_interval", 60, none), ("health_active_interval", 10, none),
   ("health_hysteresis", 1, none), ("failover_cooldown", 0, none),
   ("session_timeout_min", 0, none), ("traffic_sample_ms", 500, some 60000),
   ("stats_api_port", 1, some 65535), ("traffic_cap_gb", 0, some 1000000),
   ("traffic_cap_reset_day", 1, some 28), ("diag_bytes", 16384, some 1048576)]

/-- `SETTINGS_CHOICES`. -/
def settingsChoices : List (String × List String) :=
  [("routing_default_action", actionNames),
   ("routing_domain_strategy", ["AsIs", "IPIfNonMatch", "IPOnDemand"])]

/-- The bounds of one numeric setting. -/
def intBoundIssue (key : String) (low : ℤ) (high : Option ℤ) (value : SettingValue) :
    Option String :=
  match value, value.int with
  | .flag _, _ => some (key ++ " must be an integer")
  | _, none => some (key ++ " must be an integer")
  | _, some number =>
    if key = "stats_api_port" then
      if number < low ∨ high.any (fun top => top < number) then
        some "stats_api_port must be 1..65535"
      else none
    else if number < low then some (key ++ " must be >= " ++ toString low)
    else high.bind fun top =>
      if top < number then some (key ++ " must be <= " ++ toString top) else none

/-- `validate_setting_values`, with no reserved ports. -/
def validateSettingValues (setting : String → Option SettingValue) : Option String :=
  (settingsIntBounds.findSome? fun (key, low, high) =>
    (setting key).bind (intBoundIssue key low high)) <|>
  settingsChoices.findSome? fun (key, allowed) =>
    (setting key).bind fun value =>
      if value.str ∈ allowed then none else some (key ++ " must be " ++ "/".intercalate allowed)

/-- Checks of settings that other parts of the panel own. -/
structure SettingChecks where
  /-- `validate_net_settings` with the range and management-leg checks. -/
  network : (String → Option SettingValue) → Option String
  /-- `_validate_rw_settings`. -/
  roadWarrior : (String → Option SettingValue) → Option String

/-- `unique`: the ids of one table do not repeat. -/
def uniqueIssue (ids : List ℕ) (label : String) : Option String :=
  if ids.Nodup then none else some ("duplicate " ++ label ++ " id")

/-- An optional reference to a missing row. -/
def referenceIssue (owner target : String) (ids : List ℕ) (reference : Option ℕ) : Option String :=
  reference.bind fun id =>
    if id ∈ ids then none else some (owner ++ " references missing " ++ target)

/-- The check of one node against the ids of the document and the nodes before it. -/
def nodeReferencesIssue (doc : Document) (before : List Node) (node : Node) : Option String :=
  referenceIssue ("node " ++ toString node.id) "subscription"
      (doc.subscriptions.map BackupSubscription.id) node.subscriptionId <|>
    referenceIssue ("node " ++ toString node.id) "profile"
      (doc.profiles.map TuningProfile.id) node.tuningProfileId <|>
    if nodeIdentity node ∈ before.map nodeIdentity then some "duplicate node identity" else none

/-- The check of `default_profile_id`. -/
def defaultProfileIssue (doc : Document) : Option String :=
  match doc.setting "default_profile_id" with
  | none => none
  | some (.text "") => none
  | some value =>
    match value.int with
    | none => some "default_profile_id must be an integer"
    | some id =>
      if id ∈ doc.profiles.map (fun profile => (profile.id : ℤ)) then none
      else some "default_profile_id references missing profile"

/-- The keys no backup carries, in the order the refusal lists them. -/
def unsupportedKeys (doc : Document) : List String :=
  (((doc.settings.map Prod.fst).filter fun key =>
    key ∉ settingsKeys && key ∉ settingsNeverBackedUp).dedup).insertionSort (· ≤ ·)

/-- `_reconcile_default_action`: the default action both copies agree on, or nothing. -/
def reconcileDefaultAction (doc : Document) : Option String :=
  match doc.setting "routing_default_action", doc.defaultAction with
  | none, given => some (given.getD "proxy")
  | some raw, none => some raw.str
  | some raw, some given => if raw.str = given then some given else none

/-- The checks of `validate_references` ahead of the default action. -/
def referencesIssue (doc : Document) : Option String :=
  uniqueIssue (doc.profiles.map TuningProfile.id) "profile" <|>
  uniqueIssue (doc.subscriptions.map BackupSubscription.id) "subscription" <|>
  uniqueIssue (doc.nodes.map Node.id) "node" <|>
  (doc.subscriptions.findSome? fun sub =>
    referenceIssue ("subscription " ++ toString sub.id) "profile"
      (doc.profiles.map TuningProfile.id) sub.defaultProfileId) <|>
  (doc.nodes.zipIdx.findSome? fun (node, index) =>
    nodeReferencesIssue doc (doc.nodes.take index) node) <|>
  (if unsupportedKeys doc ≠ [] then
    some ("unsupported setting keys: " ++ ", ".intercalate (unsupportedKeys doc)) else none) <|>
  (if doc.settings.any fun (_, value) => 2048 < value.str.length then
    some "setting value is too long" else none) <|>
  validateSettingValues doc.setting

/-- The checks of the fields of a document, in field order. -/
def fieldsIssue (text : IpText) (doc : Document) : Option Issue :=
  firstIssue [if doc.schemaVersion ∈ [1, 2, 3] then none
     else some (["schema_version"], "Input should be 1, 2 or 3"),
     doc.createdAt.bind fun moment => if moment < 0 then
       some (["created_at"], "Input should be greater than or equal to 0") else none,
     listIssue "nodes" 0 maxNodes doc.nodes nodeIssue,
     listIssue "subscriptions" 0 maxSubscriptions doc.subscriptions subscriptionIssue,
     listIssue "profiles" 1 maxProfiles doc.profiles profileIssue,
     (listIssue "rules" 0 maxRules doc.rules ruleIssue).map (Issue.under "routing"),
     doc.defaultAction.bind fun action =>
       (choiceIssue "default_action" actionNames action).map (Issue.under "routing"),
     listIssue "reservations" 0 maxReservations doc.reservations (reservationShapeIssue text),
     if 64 < doc.settings.length then
       some (["settings"], "Dictionary should have at most 64 items after validation, not " ++
         toString doc.settings.length)
     else none]

/-- The profile a document of schema 1 without profiles is given. -/
def legacyDefaultProfile : TuningProfile := { id := 1, name := "default" }

/-- `normalize_legacy_empty_profiles`. -/
def normalizeLegacyEmptyProfiles (doc : Document) : Document :=
  if doc.schemaVersion = 1 && doc.profiles.isEmpty then
    { doc with
      profiles := [legacyDefaultProfile]
      settings := if (doc.setting "default_profile_id").isSome then doc.settings
        else doc.settings ++ [("default_profile_id", .text "1")] }
  else doc

/-- `validate_document`: the document as the restore takes it, with its default action settled,
or the text of the refusal. -/
def validateDocument (checks : SettingChecks) (text : IpText) (doc : Document) :
    Except String Document :=
  let doc := normalizeLegacyEmptyProfiles doc
  match fieldsIssue text doc with
  | some issue => .error issue.render
  | none =>
    match referencesIssue doc with
    | some why => .error (valueError why).render
    | none =>
      match reconcileDefaultAction doc with
      | none => .error (valueError
          "settings.routing_default_action conflicts with routing.default_action").render
      | some action =>
        match defaultProfileIssue doc <|> checks.network doc.setting <|>
            checks.roadWarrior doc.setting with
        | some why => .error (valueError why).render
        | none => .ok { doc with defaultAction := some action }

end PiGwPanel.BackupDocument
