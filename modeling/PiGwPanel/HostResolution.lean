import PiGwPanel.PyText

/-!
# Resolving a host once

`_resolve_public_all` of the fetcher and `_resolve_lan_allowed` of the health
probes are one procedure with two predicates: a host is looked up once, every
address of the answer is checked, and the addresses themselves are handed on to be
dialled. What `ipaddress` says about an address is taken as given.
-/

namespace PiGwPanel.HostResolution


/-- `ipaddress`, and the case mapping of `str`. -/
structure AddressLibrary (Ip : Type) where
  /-- `ip_address`. -/
  parse : String → Option Ip
  /-- `str` of an address. -/
  text : Ip → String
  (isLoopback isPrivate isLinkLocal isReserved isMulticast isUnspecified : Ip → Bool)
  /-- `str.lower`. -/
  lower : String → String

variable {Ip : Type} [DecidableEq Ip] (lib : AddressLibrary Ip)

/-- `ALLOW_LOOPBACK`. -/
def allowLoopback : Bool := false

/-- `_ip_blocked`. -/
def ipBlocked (ip : Ip) : Bool :=
  if lib.isLoopback ip then !allowLoopback
  else lib.isPrivate ip || lib.isLinkLocal ip || lib.isReserved ip || lib.isMulticast ip ||
    lib.isUnspecified ip

/-- `_blocked_whatever_the_origin`. -/
def blockedWhateverTheOrigin (ip : Ip) : Bool :=
  if lib.isLoopback ip then ipBlocked lib ip
  else lib.isMulticast ip || lib.isUnspecified ip || lib.isReserved ip

/-- `strip("[]")`. -/
def stripBrackets (text : String) : String :=
  let bracket (c : Char) : Bool := c = '[' || c = ']'
  String.ofList ((text.toList.dropWhile bracket).reverse.dropWhile bracket).reverse

/-- The host as it is looked up. -/
def plainHost (host : String) : String := lib.lower (stripBrackets host)

/-- The addresses of an answer, each once; what is not an address is passed over. -/
def addressesOf (texts : List String) : List Ip :=
  (texts.filterMap lib.parse).foldl (fun seen ip => if ip ∈ seen then seen else seen ++ [ip]) []

/-- What an answer of `getaddrinfo` is read as; a literal needs none. -/
def found (host : String) (lookup : Except String (List String)) : Except String (List Ip) :=
  match lib.parse host with
  | some literal => .ok [literal]
  | none => lookup.map (addressesOf lib)

/-- The texts of the errors, which differ between the two callers. -/
structure Wording where
  /-- The host is refused without a lookup. -/
  badHost : String
  /-- One of its addresses is refused. -/
  refused : String
  /-- There is no address. -/
  unresolved : String

/-- The check of a whole answer. -/
def checkAnswer (wording : Wording) (refused : Ip → Bool) (ips : List Ip) :
    Except String (List String) :=
  if ips.isEmpty then .error wording.unresolved
  else if ips.any refused then .error wording.refused
  else .ok (ips.map lib.text)

/-- A host that is never looked up. -/
def hostRefused (host : String) : Bool := plainHost lib host = "" || plainHost lib host = "localhost"

/-- The common procedure, with the answer of the lookup. -/
def resolveAll (wording : Wording) (refused : Ip → Bool) (host : String)
    (lookup : Except String (List String)) : Except String (List String) :=
  if hostRefused lib host then .error wording.badHost
  else
    match found lib (plainHost lib host) lookup with
    | .error why => .error why
    | .ok ips => checkAnswer lib wording refused ips

/-- `_resolve_public_all`. -/
def resolvePublicAll (host : String) (lookup : Except String (List String)) :
    Except String (List String) :=
  resolveAll lib ⟨"subscription URL resolves to a non-public (internal) address",
    "subscription URL resolves to a non-public (internal) address",
    "subscription host could not be resolved"⟩ (ipBlocked lib) host lookup

/-- `_resolve_lan_allowed`. -/
def resolveLanAllowed (host : String) (lookup : Except String (List String)) :
    Except String (List String) :=
  resolveAll lib ⟨"node endpoint is not an address the panel may probe",
    "node endpoint resolves to an address the panel may not probe",
    "node endpoint could not be resolved"⟩ (blockedWhateverTheOrigin lib) host lookup

variable {lib}

/-- What is handed on are the addresses that were found, none of them refused. -/
theorem resolveAll_ok {wording : Wording} {refused : Ip → Bool} {host : String}
    {lookup : Except String (List String)} {texts : List String}
    (h : resolveAll lib wording refused host lookup = .ok texts) :
    ∃ ips, found lib (plainHost lib host) lookup = .ok ips ∧ ips≠[] ∧
      (∀ ip∈ips, refused ip=false) ∧ texts=ips.map lib.text := by
  unfold resolveAll at h
  split at h
  · cases h
  · split at h
    · cases h
    next ips hfound =>
      unfold checkAnswer at h
      split at h
      · cases h
      next hempty =>
        split at h
        · cases h
        next hany =>
          refine ⟨ips,hfound,by simpa using hempty,fun ip hip => ?_,(Except.ok.inj h).symm⟩
          by_contra hrefused
          refine hany (List.any_eq_true.mpr ⟨ip,hip,?_⟩)
          simpa using hrefused

/-- Addresses as their texts, of which one is a private one. -/
def sampleAddresses : AddressLibrary String where
  parse text := if text ∈ ["10.0.0.1", "1.1.1.1"] then some text else none
  text ip := ip
  isLoopback _ := false
  isPrivate ip := ip = "10.0.0.1"
  isLinkLocal _ := false
  isReserved _ := false
  isMulticast _ := false
  isUnspecified _ := false
  lower text := text

end PiGwPanel.HostResolution
