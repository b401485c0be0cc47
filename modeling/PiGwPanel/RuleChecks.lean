import PiGwPanel.DuplicateRules
import PiGwPanel.IpAddress

/-!
# The gateway's and the interface's check of a routing rule

`validate_rule` decides which rules reach xray, `validateRuleRow` gives the hint under
a row. The gateway reads tokens with Python's digits and `ipaddress`, but hands the raw
text on. The interface reads them with its own patterns. Both are compared token by
token; how IPv6 texts are classified does not matter and stays a parameter.
-/

namespace PiGwPanel.RuleChecks

open Models PyText RoutingRules IpAddress PacketFilter DuplicateRules List

/-- One to `most` digits. -/
def digitRun (digit : Char → Bool) (most : ℕ) (text : List Char) : Bool :=
  text ≠ [] && text.length ≤ most && text.all digit

/-- The pattern `\d{1,5}(-\d{1,5})?` with either language's digits: its first and its last number. -/
def portMatch (digit : Char → Bool) (token : List Char) : Option (List Char × List Char) :=
  match parts '-' token with
  | [port] => if digitRun digit 5 port then some (port, port) else none
  | [low, high] => if digitRun digit 5 low && digitRun digit 5 high then some (low, high) else none
  | _ => none

/-- The refusal of a private range with another action than `direct`, in either language's words. -/
def shadowed (isPrivate : String → Bool) (rangeText : String → String) (geoText : String)
    (r : RoutingRule) (tokens : List String) : Option String :=
  if r.action = .direct then none
  else match r.type with
    | .ip => (tokens.find? isPrivate).map rangeText
    | .geoip => if tokens.any fun token => lowerText token = "private" then some geoText else none
    | _ => none

section Gateway

/-! ### `validate_rule` -/

/-- `int` of matched digits. -/
def intOf (digits : List Char) : ℕ := (digitsValue digits 0 false).getD 0

/-- The check of a port token. -/
def portIssue (v : String) : Option String :=
  match portMatch isDecimal v.toList with
  | none => some ("bad port " ++ pyRepr v)
  | some (low, high) =>
    if (1 ≤ intOf low ∧ intOf low ≤ 65535) ∧ (1 ≤ intOf high ∧ intOf high ≤ 65535) ∧
        intOf low ≤ intOf high then none
    else some ("bad port " ++ pyRepr v)

/-- The check of a device token. -/
def deviceIssue (v : String) : Option String :=
  if (ipv4Address v.toList).isSome then none
  else if (ipv6Address v.toList).isSome then
    some "a device rule matches the client's IPv4 address only"
  else some (pyRepr v ++ " is not an IPv4 address")

/-- A network of either family. -/
inductive Network where
  | v4 (net : Net 32)
  | v6 (net : V6Network)

/-- `ip_network(text, strict=False)`. -/
def ipNetwork (text : List Char) : Option Network :=
  (ipv4Network text).map .v4 <|> (ipv6Network text).map .v6

/-- The check of an address token. -/
def ipIssue (v : String) : Option String :=
  if (ipNetwork v.toList).isSome then none else some ("bad ip/cidr " ++ pyRepr v)

/-- `address in network`. -/
def within (net : Net 32) (address : ℕ) : Bool := masked 32 net.len address = net.base.toNat

/-- `broadcast_address`. -/
def broadcast (net : Net 32) : ℕ := net.base.toNat + 2 ^ (32 - net.len) - 1

/-- Both ends of a network lie in a range. -/
def endsWithin (net range : Net 32) : Bool :=
  within range net.base.toNat && within range (broadcast net)

/-- A range by its octets. -/
def range4 (a b c d len : ℕ) : Net 32 :=
  ⟨BitVec.ofNat 32 (((a * 256 + b) * 256 + c) * 256 + d), len⟩

/-- `_private_networks`. -/
def privateNetworks : List (Net 32) :=
  [range4 0 0 0 0 8, range4 10 0 0 0 8, range4 127 0 0 0 8, range4 169 254 0 0 16,
   range4 172 16 0 0 12, range4 192 0 0 0 24, range4 192 0 0 170 31, range4 192 0 2 0 24,
   range4 192 168 0 0 16, range4 198 18 0 0 15, range4 198 51 100 0 24, range4 203 0 113 0 24,
   range4 240 0 0 0 4, range4 255 255 255 255 32]

/-- `_private_networks_exceptions`. -/
def privateExceptions : List (Net 32) := [range4 192 0 0 9 32, range4 192 0 0 10 32]

/-- `is_private or is_loopback or is_link_local` of an IPv4 network. -/
def privateV4 (net : Net 32) : Bool :=
  (privateNetworks.any (endsWithin net) && privateExceptions.all fun exception =>
    !within exception net.base.toNat && !within exception (broadcast net)) ||
  endsWithin net (range4 127 0 0 0 8) || endsWithin net (range4 169 254 0 0 16)

/-- `_is_private_net`. -/
def isPrivateNet (privateV6 : V6Network → Bool) (v : String) : Bool :=
  match ipNetwork v.toList with
  | none => false
  | some (.v4 net) => privateV4 net
  | some (.v6 net) => privateV6 net

/-- `_shadowed_by_private`. -/
def shadowedByPrivate (privateV6 : V6Network → Bool) (r : RoutingRule) : List String → Option String :=
  let hint := "the built-in 'geoip:private → direct' rule is matched first, so this rule could " ++
    "never send it to " ++ pyRepr r.action.tag ++ " — only 'direct' is reachable for private ranges"
  shadowed (isPrivateNet privateV6) (fun v => pyRepr v ++ " is a private range and " ++ hint)
    ("'geoip:private' and " ++ hint) r

/-- The checks of the type and of the dataset. -/
def headIssue (r : RoutingRule) : Option String :=
  match r.type with
  | .unknown type => some ("unknown type " ++ pyRepr type)
  | type =>
    if r.dataset = "" then none
    else if r.dataset ≠ "ru" then some ("unknown geo dataset " ++ pyRepr r.dataset)
    else if type = .geoip ∨ type = .geosite then none
    else some ("a " ++ type.text ++ " rule carries literals, so it has no geo dataset")

/-- The check of one token. -/
def tokenIssue : RuleType → String → Option String
  | .device => deviceIssue
  | .port => portIssue
  | .ip => ipIssue
  | _ => fun _ => none

/-- `validate_rule`. -/
def validateRule (privateV6 : V6Network → Bool) (r : RoutingRule) : Option String :=
  headIssue r <|> (if split r.value = [] then some "empty value" else none) <|>
    (split r.value).findSome? (tokenIssue r.type) <|> shadowedByPrivate privateV6 r (split r.value)

end Gateway

section Interface

/-! ### `validateRuleRow` -/

/-- `OCTET`. -/
def octet : List Char → Bool
  | [a] => a.isDigit
  | [a, b] => a ≠ '0' && a.isDigit && b.isDigit
  | [a, b, c] => (a = '2' && b = '5' && c.isDigit && c.toNat ≤ '5'.toNat) ||
      (a = '2' && b.isDigit && b.toNat ≤ '4'.toNat && c.isDigit) ||
      (a = '1' && b.isDigit && c.isDigit)
  | _ => false

/-- `ipv4Number`. -/
def ipv4Number (text : List Char) : Option ℕ :=
  if (parts '.' text).length = 4 ∧ (parts '.' text).all octet then
    some ((parts '.' text).foldl (fun total part => total * 256 + decimalValue part) 0)
  else none

/-- `prefixOf` of a prefix that is there. -/
def prefixOf (text : List Char) (max : ℕ) : Option ℕ :=
  if digitRun Char.isDigit 3 text ∧ decimalValue text ≤ max then some (decimalValue text) else none

/-- The address and the prefix length of a range, 32 without one. -/
def addressAndPrefix (text : List Char) : Option (ℕ × ℕ) :=
  match parts '/' text with
  | [address] => (ipv4Number address).map fun base => (base, 32)
  | [address, len] => do
    let base ← ipv4Number address
    let len ← prefixOf len 32
    return (base, len)
  | _ => none

/-- `ipv4Span`: the first and the last address. -/
def ipv4Span (text : List Char) : Option (ℕ × ℕ) := do
  let (base, len) ← addressAndPrefix text
  let first := base / 2 ^ (32 - len) * 2 ^ (32 - len)
  return (first, first + 2 ^ (32 - len) - 1)

/-- `isIPv6Network`; `isIPv6Address` sees only texts with a colon. -/
def isIPv6Network (isIPv6Address : List Char → Bool) (text : List Char) : Bool :=
  match parts '/' text with
  | [address] => address.contains ':' && isIPv6Address address
  | [address, len] => address.contains ':' && isIPv6Address address && (prefixOf len 128).isSome
  | _ => false

/-- `PRIVATE_SPANS`. -/
def privateSpans : List (ℕ × ℕ) :=
  ["0.0.0.0/8", "10.0.0.0/8", "127.0.0.0/8", "169.254.0.0/16", "172.16.0.0/12", "192.0.0.0/24",
   "192.0.2.0/24", "192.168.0.0/16", "198.18.0.0/15", "198.51.100.0/24", "203.0.113.0/24",
   "240.0.0.0/4", "255.255.255.255/32"].filterMap fun range => ipv4Span range.toList

/-- `EXCEPTION_NUMBERS`. -/
def exceptionNumbers : List ℕ :=
  ["192.0.0.9", "192.0.0.10"].filterMap fun address => ipv4Number address.toList

/-- `isPrivateIPv4`. -/
def isPrivateIPv4 (text : List Char) : Bool :=
  match ipv4Span text with
  | none => false
  | some (first, last) =>
    !(exceptionNumbers.contains first || exceptionNumbers.contains last) &&
      privateSpans.any fun range => range.1 ≤ first && last ≤ range.2

/-- `ruleTokens`. -/
def ruleTokens (value : String) : List String :=
  ((value.toList.splitOnP fun c => c = ',' || c = '\n').map fun token =>
    String.ofList (JsText.trimChars token)).filter fun token => token ≠ ""

/-- The check of one token of a row. -/
def rowIssue (isIPv6Address : List Char → Bool) (type : RuleType) (token : String) :
    Option String :=
  match type with
  | .port =>
    let bad := some ("bad port \"" ++ token ++ "\" — use 443, 1000-2000 or 80,443 within 1–65535")
    match portMatch Char.isDigit token.toList with
    | none => bad
    | some (low, high) =>
      if decimalValue low < 1 ∨ 65535 < decimalValue high ∨ decimalValue high < decimalValue low
      then bad else none
  | .ip =>
    if (ipv4Span token.toList).isNone && !isIPv6Network isIPv6Address token.toList then
      some ("bad ip/cidr \"" ++ token ++ "\"")
    else none
  | .device =>
    if ((parts '.' token.toList).length = 4 ∧
        (parts '.' token.toList).all (digitRun Char.isDigit 3)) ∧ (ipv4Span token.toList).isSome
    then none
    else some ("\"" ++ token ++
      "\" is not an IPv4 address — a device rule matches the client's IPv4 only")
  | _ => none

/-- The last check of a row. -/
def rowShadowed (row : RoutingRule) : List String → Option String :=
  let hint := "the built-in private → direct rule is matched first, so only direct works"
  shadowed (fun token => isPrivateIPv4 token.toList)
    (fun token => "\"" ++ token ++ "\" is a private range — " ++ hint) ("geoip:private — " ++ hint) row

/-- `validateRuleRow`. -/
def validateRuleRow (isIPv6Address : List Char → Bool) (row : RoutingRule) : Option String :=
  (if ruleTokens row.value = [] then some "value required" else none) <|>
    (ruleTokens row.value).findSome? (rowIssue isIPv6Address row.type) <|>
    rowShadowed row (ruleTokens row.value)

end Interface

section Reading

/-! ### What the two readers take -/

variable {text token : List Char}

variable {separator : Char} {part : List Char}

theorem parts_of_not_mem (h : separator∉text) : parts separator text=[text] :=
  splitOnP_eq_singleton fun c hc => by simpa using ne_of_mem_of_not_mem hc h

theorem not_mem_of_parts_eq (h : parts separator text=[part]) : separator∉text := by
  intro hmem
  obtain ⟨before,after,rfl⟩ := append_of_mem hmem
  have hlen := congrArg length h
  unfold parts at hlen
  rw [splitOnP_append_cons _ _ (by simp),length_append,length_singleton] at hlen
  have hpre := length_pos_of_ne_nil (splitOnP_ne_nil (fun c => c=separator) before)
  have hafter := length_pos_of_ne_nil (splitOnP_ne_nil (fun c => c=separator) after)
  omega

theorem ipv4Int_eq_none (h : '.' ∉ text) : ipv4Int text=none := by
  simp [ipv4Int,parts_of_not_mem h]

theorem ipv4Mask_eq (h : '.' ∉ text) : ipv4Mask text=prefixLength 32 text := by
  simp [ipv4Mask,ipv4Int_eq_none h]

theorem isDigit_of_prefixLength {width len : ℕ} (h : prefixLength width text=some len) :
    ∀ c∈text, c.isDigit=true := by
  unfold prefixLength at h
  split_ifs at h with hlegal
  exact all_eq_true.mp hlegal.2.1

theorem dot_not_mem_of_prefixLength {width len : ℕ} (h : prefixLength width text=some len) :
    '.' ∉ text := fun hdot => absurd (isDigit_of_prefixLength h _ hdot) (by decide)

theorem scope_eq_none_iff {base : V6Address} (h : ipv6Address text=some base) :
    base.scope=none ↔ '%' ∉ text := by
  unfold ipv6Address at h
  split_ifs at h
  split at h
  next addr hparts =>
    obtain ⟨value,-,rfl⟩ := Option.map_eq_some_iff.mp h
    exact iff_of_true rfl (not_mem_of_parts_eq hparts)
  next addr scope hparts =>
    split_ifs at h
    obtain ⟨value,-,rfl⟩ := Option.map_eq_some_iff.mp h
    refine iff_of_false (by simp) fun hnot => ?_
    rw [parts_of_not_mem hnot] at hparts
    cases hparts
  · cases h

theorem mem_of_mem_splitOnP {separates : Char → Bool} {c : Char}
    (hpart : part∈text.splitOnP separates) (hc : c∈part) : c∈text := by
  induction text generalizing part with
  | nil =>
    rw [splitOnP_nil,mem_singleton] at hpart
    rwa [hpart] at hc
  | cons d rest ih =>
    rw [splitOnP_cons_eq_if_modifyHead] at hpart
    cases hsplit : rest.splitOnP separates with
    | nil => exact absurd hsplit (splitOnP_ne_nil _ _)
    | cons first others =>
      rw [hsplit,modifyHead_cons] at hpart
      split_ifs at hpart <;> grind

/-- What holds of the separator holds of a text exactly when it holds of the parts. -/
theorem forall_parts_iff {P : Char → Prop} (hsep : P separator) :
    (∀ part∈parts separator text, ∀ c∈part, P c) ↔ ∀ c∈text, P c :=
  ⟨fun h => forall_of_parts separator h hsep,
    fun h _ hpart c hc => h c (mem_of_mem_splitOnP hpart hc)⟩

theorem digitRun_ascii {most : ℕ} : digitRun Char.isDigit most text=true ↔
    digitRun isDecimal most text=true ∧ ∀ c∈text, isDecimal c=true → c.isDigit=true := by
  have hdecimal (c : Char) (h : c.isDigit=true) : isDecimal c=true := by
    rw [isDecimal,digitValue_of_isDigit h]
    rfl
  simp only [digitRun,Bool.and_eq_true,all_eq_true,and_assoc]
  grind

theorem portMatch_ascii {ports : List Char × List Char} : portMatch Char.isDigit token=some ports ↔
      portMatch isDecimal token=some ports ∧ ∀ c∈token, isDecimal c=true → c.isDigit=true := by
  have hminus : isDecimal '-'=true → '-'.isDigit=true := by decide
  rw [← forall_parts_iff hminus]
  unfold portMatch
  split
  next port hparts =>
    simp only [hparts,forall_mem_singleton,digitRun_ascii]
    split_ifs <;> grind
  next low high hparts =>
    simp only [hparts,forall_mem_cons,Bool.and_eq_true,digitRun_ascii]
    split_ifs <;> grind
  · simp

theorem intOf_eq {digits : List Char} {most : ℕ} (h : digitRun Char.isDigit most digits=true) :
    intOf digits=decimalValue digits := by
  simp only [digitRun,Bool.and_eq_true,decide_eq_true_eq,all_eq_true] at h
  rw [intOf,digitsValue_of_ne_nil h.1.1 h.2]
  rfl

end Reading

section Expressible

/-! ### What xray reads -/

/-- An address without a scope, and the number of its bits. -/
inductive AddressText (text : List Char) : ℕ → Prop where
  | v4 (value : BitVec 32) (h : ipv4Address text = some value) : AddressText text 32
  | v6 (value : ℕ) (h : ipv6Address text = some ⟨value, none⟩) : AddressText text 128

/-- xray's grammar of an address or range. -/
inductive XrayIp (token : List Char) : Prop where
  | address (addr : List Char) (width : ℕ) (hparts : parts '/' token = [addr])
      (haddr : AddressText addr width)
  | range (addr len : List Char) (width n : ℕ) (hparts : parts '/' token = [addr, len])
      (haddr : AddressText addr width) (hlen : prefixLength width len = some n)

/-- xray's grammar of a port or port range. -/
def XrayPort (token : List Char) : Prop :=
  ∃ low high, portMatch Char.isDigit token = some (low, high) ∧ 1 ≤ decimalValue low ∧
    decimalValue low ≤ decimalValue high ∧ decimalValue high ≤ 65535

/-- A token of a rule is in xray's grammar. -/
def Expressible (type : RuleType) (token : String) : Prop :=
  if type = .port then XrayPort token.toList else XrayIp token.toList

/-- A token without foreign digits, scopes and dotted masks. -/
def Plain (type : RuleType) (token : String) : Prop :=
  match type with
  | .port => ∀ c ∈ token.toList, isDecimal c = true → c.isDigit = true
  | .ip => '%' ∉ (parts '/' token.toList).headD [] ∧
      ∀ len ∈ (parts '/' token.toList).tail, '.' ∉ len
  | _ => True

/-- The builder writes the tokens into the rule. -/
inductive Emits (field : FieldRule) (tokens : List String) : Prop where
  | source (h : field.source = some tokens)
  | ip (h : field.ip = some tokens)
  | port (h : field.port = some (.text (",".intercalate tokens)))

variable {text : List Char} {v : String}

theorem AddressText.percent_not_mem {width : ℕ} (h : AddressText text width) : '%' ∉ text := by
  cases h with
  | v4 value h =>
    intro hmem
    have hchars := chars_of_ipv4Address h _ hmem
    revert hchars
    decide
  | v6 value h => exact (scope_eq_none_iff h).mp rfl

theorem addressText_of_v6 {base : V6Address} (h : ipv6Address text=some base)
    (hpercent : '%' ∉ text) : AddressText text 128 := by
  obtain ⟨value,scope⟩ := base
  obtain rfl : scope=none := (scope_eq_none_iff h).mpr hpercent
  exact .v6 value h

theorem xrayIp_iff (h : ipIssue v=none) : XrayIp v.toList ↔ Plain .ip v := by
  constructor
  · intro hx
    cases hx with
    | address addr width hparts haddr => simp [Plain,hparts,haddr.percent_not_mem]
    | range addr len width n hparts haddr hlen =>
      simp [Plain,hparts,haddr.percent_not_mem,dot_not_mem_of_prefixLength hlen]
  · rintro ⟨hpercent,hdots⟩
    simp only [ipIssue,ite_eq_left_iff,reduceCtorEq,imp_false,not_not] at h
    obtain ⟨net,hnet⟩ := Option.isSome_iff_exists.mp h
    simp only [ipNetwork,Option.orElse_eq_some, Option.map_eq_some_iff] at hnet
    rcases hnet with ⟨net,hnet,-⟩ | ⟨-,net,hnet,-⟩
    · unfold ipv4Network at hnet
      split at hnet
      next addr hparts =>
        obtain ⟨value,hval,-⟩ := Option.map_eq_some_iff.mp hnet
        exact .address addr 32 hparts (.v4 value hval)
      next addr mask hparts =>
        simp only [Option.bind_eq_bind,Option.bind_eq_some_iff] at hnet
        obtain ⟨value,hval,len,hlen,-⟩ := hnet
        rw [ipv4Mask_eq (hdots mask (by simp [hparts]))] at hlen
        exact .range addr mask 32 len hparts (.v4 _ (by rw [ipv4Address,hval]; rfl)) hlen
      · cases hnet
    · unfold ipv6Network at hnet
      split at hnet
      next addr hparts =>
        obtain ⟨base,hbase,-⟩ := Option.map_eq_some_iff.mp hnet
        rw [hparts] at hpercent
        exact .address addr 128 hparts (addressText_of_v6 hbase hpercent)
      next addr mask hparts =>
        simp only [Option.bind_eq_bind,Option.bind_eq_some_iff] at hnet
        obtain ⟨base,hbase,len,hlen,-⟩ := hnet
        rw [hparts] at hpercent
        exact .range addr mask 128 len hparts (addressText_of_v6 hbase hpercent) hlen
      · cases hnet

theorem portIssue_eq_none_iff : portIssue v=none ↔ ∃ low high,
    portMatch isDecimal v.toList=some (low, high) ∧ (1 ≤ intOf low ∧ intOf low≤65535) ∧
      (1 ≤ intOf high ∧ intOf high≤65535) ∧ intOf low ≤ intOf high := by
  unfold portIssue
  split
  next hnone =>
    simp [hnone]
  next low high hsome =>
    simp [hsome,and_assoc]

theorem intOf_of_portMatch {token low high : List Char}
    (h : portMatch Char.isDigit token=some (low, high)) :
    intOf low=decimalValue low ∧ intOf high=decimalValue high := by
  unfold portMatch at h
  split at h
  · split_ifs at h with hrun
    cases h
    exact ⟨intOf_eq hrun,intOf_eq hrun⟩
  · split_ifs at h with hrun
    cases h
    rw [Bool.and_eq_true] at hrun
    exact ⟨intOf_eq hrun.1,intOf_eq hrun.2⟩
  · cases h

theorem xrayPort_iff : XrayPort v.toList ↔ portIssue v=none ∧ Plain .port v := by
  rw [portIssue_eq_none_iff]
  constructor
  · rintro ⟨low,high,hmatch,hlow,hle,hhigh⟩
    obtain ⟨hdecimal,hplain⟩ := portMatch_ascii.mp hmatch
    obtain ⟨rlow,rhigh⟩ := intOf_of_portMatch hmatch
    exact ⟨⟨low,high,hdecimal,by omega⟩,hplain⟩
  · rintro ⟨⟨low,high,hdecimal,hbounds⟩,hplain⟩
    have hmatch := portMatch_ascii.mpr ⟨hdecimal,hplain⟩
    obtain ⟨rlow,rhigh⟩ := intOf_of_portMatch hmatch
    exact ⟨low,high,hmatch,by omega⟩

theorem ipv4Address_of_deviceIssue (h : deviceIssue v=none) : (ipv4Address v.toList).isSome := by
  unfold deviceIssue at h
  split_ifs at h with hv4
  exact hv4

theorem slash_not_mem {value : ℕ} (h : ipv4Int text=some value) : '/' ∉ text := by
  intro hmem
  have hchars := chars_of_ipv4Int h _ hmem
  revert hchars
  decide

/-- An accepted rule is in xray's grammar exactly when none of its tokens holds a digit of
another script, a scope or a dotted mask. -/
theorem expressible_iff (privateV6 : V6Network → Bool) (r : RoutingRule)
    (htype : r.type = .port ∨ r.type = .ip ∨ r.type = .device)
    (hvalid : validateRule privateV6 r = none) :
    ∃ field, ruleToField r = .ok field ∧ Emits field (split r.value) ∧
      ((∀ token ∈ split r.value, Expressible r.type token) ↔
        ∀ token ∈ split r.value, Plain r.type token) := by
  simp only [validateRule,Option.orElse_eq_none, findSome?_eq_none_iff] at hvalid
  obtain ⟨-,-,htokens,-⟩ := hvalid
  unfold Expressible ruleToField
  rcases htype with htype | htype | htype <;> rw [htype] at htokens ⊢
  · refine ⟨_,rfl,.port rfl,forall₂_congr fun token htoken => ?_⟩
    rw [if_pos rfl,xrayPort_iff]
    exact and_iff_right (htokens token htoken)
  · refine ⟨_,rfl,.ip rfl,forall₂_congr fun token htoken => ?_⟩
    exact xrayIp_iff (htokens token htoken)
  · refine ⟨_,rfl,.source rfl,forall₂_congr fun token htoken => ?_⟩
    rw [if_neg (by decide)]
    obtain ⟨value,hval⟩ :=
      Option.isSome_iff_exists.mp (ipv4Address_of_deviceIssue (htokens token htoken))
    obtain ⟨n,hn,-⟩ := Option.map_eq_some_iff.mp hval
    exact iff_of_true (.address _ 32 (parts_of_not_mem (slash_not_mem hn)) (.v4 value hval)) trivial

/-- An enabled rule of a type, value and action. -/
def ruleOf (type : RuleType) (value : String) (action : Action) : RoutingRule :=
  { id := none, position := 0, type := type, value := value, action := action }

/-- Ports in ASCII digits reach xray as they are meant. -/
theorem expressible_ports : ∃ field, ruleToField (ruleOf .port "80\n1000-2000" .proxy) = .ok field ∧
    Emits field ["80", "1000-2000"] ∧ ∀ token ∈ ["80", "1000-2000"], Expressible .port token := by
  have hsplit : split (ruleOf .port "80\n1000-2000" .proxy).value=["80", "1000-2000"] := by
    decide +kernel
  obtain ⟨field,hfield,hemits,hiff⟩ := expressible_iff (fun _ => false)
    (ruleOf .port "80\n1000-2000" .proxy) (.inl rfl) (by decide +kernel)
  refine ⟨field,hfield,hemits,hiff.mpr fun token htoken c hc hdecimal => ?_⟩
  have hdigits : ∀ token∈["80", "1000-2000"],
      token.toList.all (fun c => !isDecimal c || c.isDigit)=true := by decide +kernel
  simpa [hdecimal] using all_eq_true.mp (hdigits token htoken) c hc

/-- A port in Arabic digits is accepted and handed on. -/
theorem arabic_port_accepted : validateRule (fun _ => false) (ruleOf .port "٤٤٣" .proxy) = none ∧
      "٤٤٣" ∈ split (ruleOf .port "٤٤٣" .proxy).value ∧ ¬Expressible .port "٤٤٣" := by
  refine ⟨by decide +kernel,by decide +kernel,?_⟩
  have hmatch : portMatch Char.isDigit "٤٤٣".toList=none := by decide +kernel
  rw [Expressible,if_pos rfl,XrayPort,hmatch]
  simp

end Expressible

section Octets

/-! ### Addresses in both languages -/

variable {text : List Char}

theorem parseOctet_eq (part : List Char) :
    parseOctet part = if octet part=true then some (decimalValue part) else none := by
  unfold parseOctet
  have hiff : (part≠[] ∧ part.all Char.isDigit ∧ part.length≤3 ∧
      (part=['0'] ∨ part.head?≠some '0') ∧ decimalValue part≤255) ↔ octet part=true := by
    match part with
    | [] => simp [octet]
    | [a] =>
      simp [octet,decimalValue,Char.isDigit_iff_toNat,← Char.toNat_inj]
      omega
    | [a,b] =>
      simp [octet,decimalValue,Char.isDigit_iff_toNat,← Char.toNat_inj]
      omega
    | [a,b,c] =>
      simp [octet,decimalValue,Char.isDigit_iff_toNat,← Char.toNat_inj]
      omega
    | _ :: _ :: _ :: _ :: rest => simp [octet]
  simp only [hiff]

theorem decimalValue_le {part : List Char} (h : octet part=true) : decimalValue part≤255 := by
  have hsome : parseOctet part=some (decimalValue part) := by rw [parseOctet_eq,if_pos h]
  unfold parseOctet at hsome
  split_ifs at hsome with hlegal
  exact hlegal.2.2.2.2

theorem ipv4Number_eq : ipv4Number text=ipv4Int text := by
  unfold ipv4Int
  split
  next a b c d hparts =>
    simp only [ipv4Number,hparts,parseOctet_eq,all_cons,all_nil,foldl_cons,foldl_nil]
    cases octet a <;> cases octet b <;> cases octet c <;> cases octet d <;> simp
  next hother =>
    rw [ipv4Number,if_neg]
    rintro ⟨hlen,-⟩
    obtain ⟨a,b,c,d,hparts⟩ := length_eq_four.mp hlen
    exact hother a b c d hparts

theorem ipv4Number_lt {value : ℕ} (h : ipv4Number text=some value) : value<2 ^ 32 := by
  unfold ipv4Number at h
  split_ifs at h with hlegal
  obtain ⟨hlen,hall⟩ := hlegal
  obtain ⟨a,b,c,d,hparts⟩ := length_eq_four.mp hlen
  rw [hparts] at h hall
  simp only [all_cons,all_nil,Bool.and_eq_true] at hall
  have ha := decimalValue_le hall.1
  have hb := decimalValue_le hall.2.1
  have hc := decimalValue_le hall.2.2.1
  have hd := decimalValue_le hall.2.2.2.1
  have hval := Option.some.inj h
  simp only [foldl_cons,foldl_nil] at hval
  omega

end Octets

section Spans

variable {text : List Char}

/-- A prefix length of at most three digits, and no mask. -/
def ShortMask (text : List Char) : Prop :=
  ∀ len ∈ (parts '/' text).tail, '.' ∉ len ∧ len.length ≤ 3

theorem prefixOf_eq_some_iff {max n : ℕ} :
    prefixOf text max=some n ↔ prefixLength max text=some n ∧ text.length≤3 := by
  unfold prefixOf prefixLength digitRun
  split_ifs <;> grind

theorem masked_le (width len value : ℕ) : masked width len value≤value := Nat.div_mul_le_self _ _

/-- A span of the interface is a network of the gateway in short spelling. -/
theorem ipv4Span_eq_some_iff {first last : ℕ} : ipv4Span text=some (first, last) ↔
    ShortMask text ∧ ∃ net, ipv4Network text=some net ∧ first=net.base.toNat ∧
      last=broadcast net := by
  have hmasked (n : ℕ) {value : ℕ} (h : value<2 ^ 32) :
      (BitVec.ofNat 32 (masked 32 n value)).toNat=masked 32 n value := by
    rw [BitVec.toNat_ofNat,Nat.mod_eq_of_lt (lt_of_le_of_lt (masked_le 32 n value) h)]
  unfold ipv4Span addressAndPrefix ipv4Network ShortMask
  split
  next addr hparts =>
    cases hnumber : ipv4Number addr with
    | none => simp [hparts,ipv4Address,← ipv4Number_eq,hnumber]
    | some value =>
      have hval := hmasked 32 (ipv4Number_lt hnumber)
      simp only [masked,Nat.sub_self,pow_zero,Nat.div_one,Nat.mul_one] at hval
      simp [hparts,ipv4Address,← ipv4Number_eq,hnumber,broadcast,-BitVec.toNat_ofNat,hval, eq_comm]
  next addr len hparts =>
    cases hnumber : ipv4Number addr with
    | none => simp [hparts,← ipv4Number_eq,hnumber]
    | some value =>
      cases hlen : prefixOf len 32 with
      | none =>
        have hnone (hdot : '.' ∉ len) (hshort : len.length≤3) (n : ℕ) : ipv4Mask len≠some n := by
          intro hmask
          rw [ipv4Mask_eq hdot] at hmask
          rw [prefixOf_eq_some_iff.mpr ⟨hmask,hshort⟩] at hlen
          cases hlen
        simp only [hparts,tail_cons,forall_mem_singleton,Option.bind_eq_bind,
          Option.bind_some,Option.bind_none,Option.bind_eq_some_iff]
        grind
      | some n =>
        obtain ⟨hlength,hshort⟩ := prefixOf_eq_some_iff.mp hlen
        have hdot := dot_not_mem_of_prefixLength hlength
        have hval := hmasked n (ipv4Number_lt hnumber)
        simp [hparts,← ipv4Number_eq,hnumber,ipv4Mask_eq hdot,hlength,hdot,hshort,broadcast,
          -BitVec.toNat_ofNat,hval,eq_comm]
        rfl
  · simp

variable {net : Net 32}

/-- An address lies in a range exactly when it is between its ends. -/
theorem within_iff (haligned : masked 32 net.len net.base.toNat=net.base.toNat) (address : ℕ) :
    within net address=true ↔ net.base.toNat≤address ∧ address≤broadcast net := by
  unfold within broadcast
  rw [decide_eq_true_eq,← haligned]
  unfold masked
  have hpos : 0<2 ^ (32-net.len) := Nat.two_pow_pos _
  rw [Nat.mul_left_inj hpos.ne',Nat.div_eq_iff hpos]

theorem base_le_broadcast (net : Net 32) : net.base.toNat≤broadcast net := by
  have hpos : 0<2 ^ (32-net.len) := Nat.two_pow_pos _
  unfold broadcast
  omega

theorem endsWithin_iff {range : Net 32}
    (haligned : masked 32 range.len range.base.toNat=range.base.toNat) : endsWithin net range=true ↔
      range.base.toNat≤net.base.toNat ∧ broadcast net≤broadcast range := by
  have hends := base_le_broadcast net
  rw [endsWithin,Bool.and_eq_true,within_iff haligned,within_iff haligned]
  omega

theorem privateV4_iff (net : Net 32) : privateV4 net=true ↔
    (net.base.toNat∉exceptionNumbers ∧ broadcast net∉exceptionNumbers) ∧
      ∃ span∈privateSpans, span.1≤net.base.toNat ∧ broadcast net ≤ span.2 := by
  have haligned : ∀ range∈privateNetworks,
      masked 32 range.len range.base.toNat=range.base.toNat := by decide +kernel
  have hspan : ∀ range∈privateNetworks, ∃ span∈privateSpans,
      span.1 ≤ range.base.toNat ∧ broadcast range ≤ span.2 := by decide +kernel
  have hrange : ∀ span∈privateSpans, ∃ range∈privateNetworks,
      range.base.toNat=span.1 ∧ broadcast range=span.2 := by decide +kernel
  have hnumbers : exceptionNumbers=[3221225481,3221225482] := by decide +kernel
  have hexc (address : ℕ) : (∀ exception∈privateExceptions, within exception address=false) ↔
      address∉exceptionNumbers := by
    simp only [privateExceptions,hnumbers,forall_mem_cons,← Bool.not_eq_true]
    rw [within_iff (by decide +kernel),within_iff (by decide +kernel)]
    simp [broadcast,range4]
    omega
  have hprivate : privateNetworks.any (endsWithin net)=true ↔
      ∃ span∈privateSpans, span.1≤net.base.toNat ∧ broadcast net ≤ span.2 := by
    rw [any_eq_true]
    constructor
    · rintro ⟨range,hmem,hends⟩
      rw [endsWithin_iff (haligned range hmem)] at hends
      obtain ⟨span,hspan,hlow,hhigh⟩ := hspan range hmem
      exact ⟨span,hspan,hlow.trans hends.1,hends.2.trans hhigh⟩
    · rintro ⟨span,hmem,hlow,hhigh⟩
      obtain ⟨range,hmem,hfst,hlast⟩ := hrange span hmem
      refine ⟨range,hmem,(endsWithin_iff (haligned range hmem)).mpr ?_⟩
      omega
  -- the loopback and link-local ranges are in the list and hold no exception
  have hlist {range : Net 32} (hmem : range∈privateNetworks)
      (hclear : ∀ n∈exceptionNumbers, ¬(range.base.toNat≤n ∧ n≤broadcast range))
      (h : endsWithin net range=true) :
      (net.base.toNat∉exceptionNumbers ∧ broadcast net∉exceptionNumbers) ∧
        privateNetworks.any (endsWithin net)=true := by
    have hends := base_le_broadcast net
    have hinside := (endsWithin_iff (haligned range hmem)).mp h
    exact ⟨⟨fun hn => hclear _ hn (by omega),fun hn => hclear _ hn (by omega)⟩,
      any_eq_true.mpr ⟨range,hmem,h⟩⟩
  rw [← hprivate]
  simp only [privateV4,Bool.or_eq_true,Bool.and_eq_true,all_eq_true,Bool.not_eq_true',
    forall_and,hexc]
  constructor
  · rintro ((⟨hany,hnot⟩ | hloopback) | hlocal)
    · exact ⟨hnot,hany⟩
    · exact hlist (by decide) (by decide +kernel) hloopback
    · exact hlist (by decide) (by decide +kernel) hlocal
  · rintro ⟨hnot,hany⟩
    exact .inl (.inl ⟨hany,hnot⟩)

end Spans

section Agreement

/-! ### Agreement -/

variable {privateV6 : V6Network → Bool} {isIPv6Address : List Char → Bool} {r : RoutingRule}
variable {v : String} {text : List Char}

/-- The gateway takes a token. -/
def Taken (privateV6 : V6Network → Bool) (r : RoutingRule) (v : String) : Prop :=
  tokenIssue r.type v = none ∧
    (r.type = .ip → r.action = .direct ∨ isPrivateNet privateV6 v = false)

/-- The interface takes a token. -/
def RowTaken (isIPv6Address : List Char → Bool) (row : RoutingRule) (v : String) : Prop :=
  rowIssue isIPv6Address row.type v = none ∧
    (row.type = .ip → row.action = .direct ∨ isPrivateIPv4 v.toList = false)

/-- A token without foreign digits, masks and long prefixes. -/
def Short (type : RuleType) (token : String) : Prop :=
  match type with
  | .port => Plain .port token
  | .ip => ShortMask token.toList
  | _ => True

theorem ipv6Network_eq_none (h : ':' ∉ text) : ipv6Network text=none := by
  have hint (addr : List Char) (hmem : addr∈parts '/' text) : ipv6Address addr=none := by
    have hcolon (part : List Char) (hpart : part∈parts '%' addr) : ipv6Int part=none := by
      have hpart : ':' ∉ part :=
        fun hc => h (mem_of_mem_splitOnP hmem (mem_of_mem_splitOnP hpart hc))
      simp [ipv6Int,ipv6Parts,parts_of_not_mem hpart]
    unfold ipv6Address
    split_ifs
    · rfl
    · split
      next part hparts =>
        simp [hcolon part (by simp [hparts])]
      next part scope hparts =>
        simp [hcolon part (by simp [hparts])]
      · rfl
  unfold ipv6Network
  split
  next addr hparts =>
    simp [hint addr (by simp [hparts])]
  next addr mask hparts =>
    simp [hint addr (by simp [hparts])]
  · rfl

theorem isIPv6Network_eq_false (h : ':' ∉ text) : isIPv6Network isIPv6Address text=false := by
  have hcolon {addr : List Char} (hmem : addr∈parts '/' text) : addr.contains ':'=false := by
    simpa using fun hc => h (mem_of_mem_splitOnP hmem hc)
  unfold isIPv6Network
  split
  next addr hparts =>
    rw [hcolon (by simp [hparts]),Bool.false_and]
  next addr len hparts =>
    rw [hcolon (by simp [hparts]),Bool.false_and,Bool.false_and]
  · rfl

theorem ipNetwork_eq (h : ':' ∉ text) : ipNetwork text=(ipv4Network text).map .v4 := by
  simp [ipNetwork,ipv6Network_eq_none h]

theorem rowTaken_ip_iff (htype : r.type = .ip) (hcolon : ':' ∉ v.toList) :
    RowTaken isIPv6Address r v ↔ Taken privateV6 r v ∧ ShortMask v.toList := by
  simp only [RowTaken,Taken,htype,tokenIssue,rowIssue,ipIssue,isPrivateNet,
    isPrivateIPv4,isIPv6Network_eq_false hcolon,ipNetwork_eq hcolon,forall_const]
  cases hspan : ipv4Span v.toList with
  | none =>
    have hnone : ¬(ShortMask v.toList ∧ (ipv4Network v.toList).isSome=true) := by
      rintro ⟨hshort,hsome⟩
      obtain ⟨net,hnet⟩ := Option.isSome_iff_exists.mp hsome
      rw [ipv4Span_eq_some_iff.mpr ⟨hshort,net,hnet,rfl,rfl⟩] at hspan
      cases hspan
    grind
  | some span =>
    obtain ⟨first,last⟩ := span
    obtain ⟨hshort,net,hnet,hfst,hlast⟩ := ipv4Span_eq_some_iff.mp hspan
    have hsame : (!(exceptionNumbers.contains first || exceptionNumbers.contains last) &&
        privateSpans.any fun range => range.1≤first && last ≤ range.2)=privateV4 net := by
      rw [Bool.eq_iff_iff,privateV4_iff,hfst,hlast]
      simp
    simp only [hsame,hnet,Option.map_some]
    simp [hshort]

theorem digitRun_of_octet {part : List Char} (h : octet part=true) :
    digitRun Char.isDigit 3 part=true := by
  have hsome : parseOctet part=some (decimalValue part) := by rw [parseOctet_eq,if_pos h]
  unfold parseOctet at hsome
  split_ifs at hsome with hlegal
  simp [digitRun,hlegal.1,hlegal.2.1,hlegal.2.2.1]

theorem rowIssue_device_iff : rowIssue isIPv6Address .device v=none ↔ deviceIssue v=none := by
  have hspan (hslash : '/' ∉ v.toList) : (ipv4Span v.toList).isSome=(ipv4Int v.toList).isSome := by
    rw [← ipv4Number_eq]
    cases hnumber : ipv4Number v.toList <;>
      simp [ipv4Span,addressAndPrefix,parts_of_not_mem hslash,hnumber]
  have hdevice : deviceIssue v=none ↔ (ipv4Int v.toList).isSome=true := by
    unfold deviceIssue ipv4Address
    split_ifs <;> simp_all
  rw [hdevice]
  simp only [rowIssue,ite_eq_left_iff,reduceCtorEq,imp_false,not_not]
  constructor
  · rintro ⟨⟨-,hdigits⟩,hsome⟩
    have hslash : '/' ∉ v.toList := by
      intro hmem
      have hall := forall_of_parts (P := fun c => c.isDigit=true ∨ c = '.') '.'
        (fun part hpart c hc => .inl ?_) (.inr rfl) _ hmem
      · revert hall
        decide
      · have hrun := all_eq_true.mp hdigits part hpart
        simp only [digitRun,Bool.and_eq_true,all_eq_true] at hrun
        exact hrun.2 c hc
    rwa [← hspan hslash]
  · intro hsome
    obtain ⟨value,hval⟩ := Option.isSome_iff_exists.mp hsome
    refine ⟨?_,by rwa [hspan (slash_not_mem hval)]⟩
    rw [← ipv4Number_eq] at hval
    unfold ipv4Number at hval
    split_ifs at hval with hlegal
    exact ⟨hlegal.1,all_eq_true.mpr fun part hpart =>
      digitRun_of_octet (all_eq_true.mp hlegal.2 part hpart)⟩

/-- The interface takes the tokens the gateway takes, if they are short. -/
theorem rowTaken_iff (htype : r.type = .port ∨ r.type = .ip ∨ r.type = .device)
    (hcolon : ':' ∉ v.toList) :
    RowTaken isIPv6Address r v ↔ Taken privateV6 r v ∧ Short r.type v := by
  rcases htype with htype | htype | htype
  · have hport : rowIssue isIPv6Address .port v=none ↔ XrayPort v.toList := by
      unfold rowIssue XrayPort
      cases portMatch Char.isDigit v.toList with
      | none => simp
      | some ports =>
        obtain ⟨low,high⟩ := ports
        simp
        omega
    simp [RowTaken,Taken,htype,hport,xrayPort_iff,tokenIssue,Short]
  · rw [rowTaken_ip_iff htype hcolon,htype]
    rfl
  · simp [RowTaken,Taken,htype,rowIssue_device_iff,tokenIssue,Short]

/-- A character that neither language counts as white space. -/
def noSpace (c : Char) : Bool := !isSpace c && !JsText.isSpace c

variable {c : Char} {value : String} {space : Char → Bool}

theorem noSpace_of_isDecimal (h : isDecimal c=true) : noSpace c=true := by
  have hzeros : ∀ n∈decimalZeros, n=0x30 ∨ (0x660≤n ∧ n≤0x1090) ∨
      (0x17E0≤n ∧ n≤0x1C50) ∨ (0xA620≤n ∧ n≤0xABF0) ∨ 0xFF10≤n := by
    decide
  simp only [isDecimal,digitValue,Option.isSome_map] at h
  obtain ⟨n,hfind⟩ := Option.isSome_iff_exists.mp h
  have hrange := find?_some hfind
  have hzero := hzeros n (mem_of_find?_eq_some hfind)
  simp only [Bool.and_eq_true,decide_eq_true_eq] at hrange
  simp only [noSpace,isSpace,JsText.isSpace,Bool.and_eq_true,Bool.not_eq_true',
    Bool.or_eq_false_iff,decide_eq_false_iff_not,Bool.and_eq_false_iff]
  omega

theorem filter_trimmed {keep : Char → Bool} (h : ∀ c, space c=true → keep c=false)
    (text : List Char) :
    ((text.dropWhile space).rdropWhile space).filter keep=text.filter keep := by
  have hdrop (text : List Char) : (text.dropWhile space).filter keep=text.filter keep := by
    conv_rhs => rw [← takeWhile_append_dropWhile (p := space) (l := text),filter_append]
    have hnone : (text.takeWhile space).filter keep=[] :=
      filter_eq_nil_iff.mpr fun c hc => by simp [h c (mem_takeWhile_imp hc)]
    rw [hnone,nil_append]
  rw [rdropWhile,filter_reverse,hdrop,← filter_reverse,reverse_reverse,hdrop]

/-- Without white space inside the tokens both languages find the same ones. -/
theorem ruleTokens_eq (hgateway : ∀ v∈split value, ∀ c∈v.toList, noSpace c=true)
    (hrow : ∀ v∈ruleTokens value, ∀ c∈v.toList, noSpace c=true) :
    ruleTokens value=split value := by
  unfold ruleTokens split stripParts
  congr 1
  refine map_congr_left fun part hpart => congrArg String.ofList ?_
  have hkept {token : List Char} (h : String.ofList token ≠ "" → ∀ c∈token, noSpace c=true) :
      token.filter noSpace=token := by
    refine filter_eq_self.mpr fun c hc => h (fun hempty => ?_) c hc
    rw [String.ofList_eq_empty_iff.mp hempty] at hc
    cases hc
  have hstrip : (strip part).filter noSpace=strip part := hkept fun hne => by
    simpa using hgateway (String.ofList (strip part))
      (mem_filter.mpr ⟨mem_map.mpr ⟨part,hpart,rfl⟩,by simpa using hne⟩)
  have htrim : (JsText.trimChars part).filter noSpace=JsText.trimChars part := hkept fun hne => by
    simpa using hrow (String.ofList (JsText.trimChars part))
      (mem_filter.mpr ⟨mem_map.mpr ⟨part,hpart,rfl⟩,by simpa using hne⟩)
  rw [← htrim,← hstrip,JsText.trimChars,strip_eq_rdropWhile,filter_trimmed,filter_trimmed]
  · intro c hc
    simp [noSpace,hc]
  · intro c hc
    simp [noSpace,hc]

/-- One of the tokens names the private ranges. -/
def NamesPrivate (tokens : List String) : Prop := ∃ token ∈ tokens, lowerText token = "private"

theorem shadowed_eq_none_iff {isPrivate : String → Bool} {rangeText : String → String}
    {geoText : String} {tokens : List String} : shadowed isPrivate rangeText geoText r tokens=none ↔
      (r.type = .ip → r.action = .direct ∨ ∀ token∈tokens, isPrivate token=false) ∧
        (r.type = .geoip → r.action = .direct ∨ ¬NamesPrivate tokens) := by
  unfold shadowed NamesPrivate
  by_cases hdirect : r.action = .direct
  · simp [hdirect]
  · cases r.type <;> simp [hdirect]

section

variable (htype : r.type = .port ∨ r.type = .ip ∨ r.type = .device)

include htype

theorem noSpace_of_taken
    (hcolon : ':' ∉ v.toList) (h : Taken privateV6 r v) : ∀ c∈v.toList, noSpace c=true := by
  have hdigit {c : Char} (hc : c.isDigit=true) : noSpace c=true :=
    noSpace_of_isDecimal (by rw [isDecimal,digitValue_of_isDigit hc]; rfl)
  obtain ⟨htoken,-⟩ := h
  rcases htype with htype | htype | htype <;> rw [htype,tokenIssue] at htoken
  · obtain ⟨low,high,hmatch,-⟩ := portIssue_eq_none_iff.mp htoken
    refine forall_of_parts '-' (fun part hpart c hc => noSpace_of_isDecimal ?_) (by decide)
    have hrun : digitRun isDecimal 5 part=true := by
      unfold portMatch at hmatch
      split at hmatch <;> grind
    simp only [digitRun,Bool.and_eq_true,all_eq_true] at hrun
    exact hrun.2 c hc
  · simp only [ipIssue,ipNetwork_eq hcolon,ite_eq_left_iff,reduceCtorEq,imp_false,
      not_not,Option.isSome_map] at htoken
    obtain ⟨net,hnet⟩ := Option.isSome_iff_exists.mp htoken
    intro c hc
    rcases chars_of_ipv4Network hnet c hc with hc | rfl | rfl
    · exact hdigit hc
    · decide
    · decide
  · obtain ⟨address,haddr⟩ := Option.isSome_iff_exists.mp (ipv4Address_of_deviceIssue htoken)
    intro c hc
    rcases chars_of_ipv4Address haddr c hc with hc | rfl
    · exact hdigit hc
    · decide

theorem validateRule_eq_none_iff (hdataset : r.dataset = "") : validateRule privateV6 r=none ↔
      split r.value≠[] ∧ ∀ v∈split r.value, Taken privateV6 r v := by
  have hhead : headIssue r=none := by
    unfold headIssue
    rcases htype with htype | htype | htype <;> rw [htype] <;> exact if_pos hdataset
  simp only [validateRule,Option.orElse_eq_none,
    findSome?_eq_none_iff,Taken,shadowedByPrivate,shadowed_eq_none_iff,hhead]
  rcases htype with htype | htype | htype <;> simp [htype,forall_and,forall_or_left]

theorem validateRuleRow_eq_none_iff : validateRuleRow isIPv6Address r=none ↔
      ruleTokens r.value≠[] ∧ ∀ v∈ruleTokens r.value, RowTaken isIPv6Address r v := by
  simp only [validateRuleRow,Option.orElse_eq_none,
    findSome?_eq_none_iff,RowTaken,rowShadowed,shadowed_eq_none_iff]
  rcases htype with htype | htype | htype <;> simp [htype,forall_and,forall_or_left]

end

theorem mem_of_mem_trimmed (h : c∈(text.dropWhile space).rdropWhile space) : c∈text :=
  (dropWhile_suffix space).subset (( rdropWhile_prefix space _).subset h)

theorem mem_value_of_mem_token (hv : v∈split value ∨ v∈ruleTokens value) (hc : c∈v.toList) :
    c∈value.toList := by
  simp only [split,stripParts,ruleTokens,mem_filter,mem_map] at hv
  rcases hv with ⟨⟨part,hpart,rfl⟩,-⟩ | ⟨⟨part,hpart,rfl⟩,-⟩
  · rw [String.toList_ofList,strip_eq_rdropWhile] at hc
    exact mem_of_mem_splitOnP hpart (mem_of_mem_trimmed hc)
  · rw [String.toList_ofList,JsText.trimChars] at hc
    exact mem_of_mem_splitOnP hpart (mem_of_mem_trimmed hc)

/-- The rule as the interface sends it. -/
def sent (row : RoutingRule) : RoutingRule := { row with dataset := datasetOf row }

/-- Both languages read the same out of the text of a rule. After either trim the same tokens are
left, without foreign digits, dotted masks and long prefixes. Of a geo rule it is enough that the
gateway knows the dataset, that both find a token or neither does, and, unless the rule goes direct,
that both find the private ranges named or neither does. -/
def ReadAlike (r : RoutingRule) : Prop :=
  if r.type = .geoip then
    (r.dataset = "" ∨ r.dataset = "ru") ∧ (ruleTokens r.value = [] ↔ split r.value = []) ∧
      (r.action = .direct ∨ (NamesPrivate (ruleTokens r.value) ↔ NamesPrivate (split r.value)))
  else ruleTokens r.value = split r.value ∧ ∀ token ∈ split r.value, Short r.type token

theorem geo_checks (privateV6 : V6Network → Bool) (isIPv6Address : List Char → Bool)
    (htype : r.type = .geoip) :
    (validateRule privateV6 (sent r)=none ↔ (r.dataset = "" ∨ r.dataset = "ru") ∧
      split r.value≠[] ∧ (r.action = .direct ∨ ¬NamesPrivate (split r.value))) ∧
      (validateRuleRow isIPv6Address r=none ↔ ruleTokens r.value≠[] ∧
        (r.action = .direct ∨ ¬NamesPrivate (ruleTokens r.value))) := by
  have hhead : headIssue (sent r)=none ↔ r.dataset = "" ∨ r.dataset = "ru" := by
    simp only [headIssue,sent,datasetOf,htype,true_or,if_true]
    by_cases hempty : r.dataset = "" <;> by_cases hru : r.dataset = "ru" <;> simp [hempty,hru]
  constructor
  · simp only [validateRule,Option.orElse_eq_none,
      findSome?_eq_none_iff,shadowedByPrivate,shadowed_eq_none_iff,hhead]
    simp [sent,htype,tokenIssue]
  · simp only [validateRuleRow,Option.orElse_eq_none,findSome?_eq_none_iff,rowShadowed,shadowed_eq_none_iff]
    simp [htype,rowIssue]

/-- Two checks that agree under a condition, which holds of whatever both pass. -/
theorem agree_of {row gateway alike : Prop} (hagree : alike → (row ↔ gateway))
    (hboth : row → gateway → alike) :
    (alike → (row ↔ gateway)) ∧ (row ∨ gateway → ((row ↔ gateway) ↔ alike)) := by
  refine ⟨hagree,fun hpassed => ⟨fun hiff => ?_,hagree⟩⟩
  exact hboth (hpassed.elim id hiff.mpr) (hpassed.elim hiff.mp id)

/-- The two checks agree about every rule that both languages read alike, and about no other rule
that one of them passes. -/
theorem agree_iff (privateV6 : V6Network → Bool) (isIPv6Address : List Char → Bool)
    (r : RoutingRule) (hcolon : ':' ∉ r.value.toList)
    (htype : r.type = .geoip ∨ r.type = .port ∨ r.type = .ip ∨ r.type = .device) : (ReadAlike r →
      (validateRuleRow isIPv6Address r = none ↔ validateRule privateV6 (sent r) = none)) ∧
    (validateRuleRow isIPv6Address r = none ∨ validateRule privateV6 (sent r) = none →
      ((validateRuleRow isIPv6Address r = none ↔ validateRule privateV6 (sent r) = none) ↔
        ReadAlike r)) := by
  rcases htype with htype | htype
  · obtain ⟨hgateway,hrow⟩ := geo_checks privateV6 isIPv6Address htype
    rw [ReadAlike,if_pos htype,hrow,hgateway]
    apply agree_of
    · rintro ⟨hdataset,hempty,hprivate⟩
      rw [and_iff_right hdataset,Ne,hempty]
      refine and_congr_right fun _ => ?_
      rcases hprivate with hdirect | hprivate
      · simp [hdirect]
      · rw [hprivate]
    · rintro ⟨hfound,hreach⟩ ⟨hdataset,hsplit,hdirect⟩
      refine ⟨hdataset,iff_of_false hfound hsplit,?_⟩
      rcases hdirect with hdirect | hclear
      · exact .inl hdirect
      · exact hreach.imp_right fun hnone => iff_of_false hnone hclear
  · have hgeo : r.type≠.geoip := by rcases htype with h | h | h <;> rw [h] <;> decide
    have hsent : sent r = { r with dataset := "" } := by
      rcases htype with h | h | h <;> simp [sent,datasetOf,h]
    have hgateway : validateRule privateV6 (sent r)=none ↔
        split r.value≠[] ∧ ∀ v∈split r.value, Taken privateV6 r v := by
      rw [hsent]
      exact validateRule_eq_none_iff htype rfl
    have hrow : validateRuleRow isIPv6Address r=none ↔ ruleTokens r.value≠[] ∧
        ∀ v∈ruleTokens r.value, RowTaken isIPv6Address r v := validateRuleRow_eq_none_iff htype
    have htaken {v : String} (hv : v∈split r.value ∨ v∈ruleTokens r.value) :
        RowTaken isIPv6Address r v ↔ Taken privateV6 r v ∧ Short r.type v :=
      rowTaken_iff htype fun hc => hcolon (mem_value_of_mem_token hv hc)
    rw [ReadAlike,if_neg hgeo,hgateway,hrow]
    apply agree_of
    · rintro ⟨heq,hshort⟩
      rw [heq]
      refine and_congr_right fun _ => forall₂_congr fun v hv => ?_
      rw [htaken (.inl hv)]
      exact and_iff_left (hshort v hv)
    · -- no token that both pass holds white space, where the two trims differ
      rintro ⟨-,hr⟩ ⟨-,hg⟩
      have heq : ruleTokens r.value=split r.value := ruleTokens_eq
        (fun v hv => noSpace_of_taken htype (fun hc => hcolon (mem_value_of_mem_token (.inl hv) hc))
          (hg v hv))
        (fun v hv => noSpace_of_taken htype (fun hc => hcolon (mem_value_of_mem_token (.inr hv) hc))
          ((htaken (.inr hv)).mp (hr v hv)).1)
      exact ⟨heq,fun v hv => ((htaken (.inl hv)).mp (hr v (heq ▸ hv))).2⟩

/-- An ordinary range is read alike, and taken by both. -/
theorem agree_range : ReadAlike (ruleOf .ip "8.8.8.0/24" .block) ∧
    (validateRuleRow (fun _ => false) (ruleOf .ip "8.8.8.0/24" .block) = none ↔
      validateRule (fun _ => false) (sent (ruleOf .ip "8.8.8.0/24" .block)) = none) := by
  have halike : ReadAlike (ruleOf .ip "8.8.8.0/24" .block) := by
    rw [ReadAlike,if_neg (by decide)]
    simp only [ruleOf,Short,ShortMask]
    decide +kernel
  exact ⟨halike,(agree_iff _ _ _ (by decide) (.inr (.inr (.inl rfl)))).1 halike⟩

/-- A range with a dotted mask is taken by the gateway only. -/
theorem dotted_mask_refused :
    validateRuleRow (fun _ => false) (ruleOf .ip "10.0.0.0/255.0.0.0" .direct) ≠ none ∧
      validateRule (fun _ => false) (sent (ruleOf .ip "10.0.0.0/255.0.0.0" .direct)) = none := by
  decide +kernel

end Agreement

end PiGwPanel.RuleChecks
