import PiGwPanel.HostResolution
import PiGwPanel.KeyedRows

/-!
# Fetching a feed

`_http_get` of the fetcher: up to six requests along a chain of redirects, each to
an address of the one lookup made for its hop, directly or through a proxy that is
asked for the address and not for the name. The headers an operator injects carry
secrets; they go with the requests to the first origin and to its upgrade to HTTPS,
and only a safe list of them goes anywhere else. The servers, the resolver and the
proxy answer as they like, once per hop.
-/

namespace PiGwPanel.FeedFetch

open KeyedRows HostResolution List

section Vocabulary

/-- The parts of a URL as `urlsplit` gives them. -/
structure Parts where
  scheme : String
  hostname : Option String
  /-- The port, if there is one; nothing where reading it raises. -/
  port : Option (Option ℕ)
  (path query : String)
  deriving DecidableEq, Repr

/-- `urllib.parse`, the codecs and `http.cookies`; nothing where a call raises. -/
structure WebLibrary where
  urlsplit : String → Option Parts
  urljoin : String → String → Option String
  /-- The path and the query put together. -/
  urlunsplit : String → String → String
  /-- `encode("idna")`. -/
  idna : String → Option String
  /-- Whether `encode("iso-8859-1")` accepts a text. -/
  latin1 : String → Bool
  /-- The names and values `SimpleCookie.load` reads. -/
  loadCookie : String → Option (List (String × String))
  /-- `str.lower`. -/
  lower : String → String

/-- A dictionary of headers. -/
abbrev Headers := List (String × String)

/-- Scheme, host and port. -/
structure Origin where
  (scheme host : String)
  port : ℕ
  deriving DecidableEq, Repr

/-- What is answered to a request. -/
structure Response where
  status : ℤ
  headers : Headers
  deriving DecidableEq, Repr

/-- What a hop meets: the answer to its lookup, how far its connection gets, and the response. -/
structure HopAnswer where
  lookup : Except String (List String)
  (connected tunnelled secured : Bool)
  response : Option Response
  /-- The error where one of them fails. -/
  error : String

/-- What a hop connects to. -/
inductive Opening where
  | direct (address : String) (port : ℕ)
  | tunnel (proxyHost : String) (proxyPort : ℕ) (target : String)
  deriving DecidableEq, Repr

/-- Whether a proxy stands between. -/
def Opening.tunnels : Opening → Bool
  | .direct _ _ => false
  | .tunnel _ _ _ => true

/-- What is sent on a connection. -/
structure Request where
  /-- The name TLS is told. -/
  serverName : Option String
  lines : List String
  deriving DecidableEq, Repr

/-- One hop: its origin, what its lookup found, what it connected to and what it sent. -/
structure Hop (Ip : Type) where
  origin : Origin
  resolved : Except String (List Ip)
  opening : Option Opening
  request : Option Request

/-- How a fetch ends. -/
inductive Ending where
  | returned (response : Response)
  | raised (why : String)
  /-- The answers ran out. -/
  | waiting

/-- The hops of a fetch, and its end. -/
structure Fetch (Ip : Type) where
  hops : List (Hop Ip)
  ending : Ending

/-- `MAX_REDIRECTS`. -/
def maxRedirects : ℕ := 5

/-- `SAFE_CROSS_ORIGIN_HEADERS`. -/
def safeCrossOriginHeaders : List String :=
  ["user-agent", "accept", "accept-language", "accept-encoding", "host", "connection"]

/-- `ALLOWED_SCHEMES`. -/
def allowedSchemes : List String := ["http", "https"]

end Vocabulary

section Requests

variable (web : WebLibrary)

/-- The port of a scheme. -/
def defaultPort (scheme : String) : ℕ := if scheme = "https" then 443 else 80

/-- `parts.port or …`. -/
def portOr (given : Option ℕ) (fallback : ℕ) : ℕ :=
  match given with
  | some port => if port = 0 then fallback else port
  | none => fallback

/-- `_authority`. -/
def authority (host : String) (port : ℕ) (scheme : String) : String :=
  let rendered := if ':' ∈ host.toList ∧ host.toList.head? ≠ some '[' then "[" ++ host ++ "]" else host
  if port = defaultPort scheme then rendered else rendered ++ ":" ++ toString port

/-- The target `_proxy_connect` asks for. -/
def proxyTarget (pinned : String) (port : ℕ) : String :=
  (if ':' ∈ pinned.toList then "[" ++ pinned ++ "]" else pinned) ++ ":" ++ toString port

/-- What is connected to, with or without a proxy. -/
def openingOf (proxy : Option Parts) (pinned : String) (port : ℕ) : Except String Opening :=
  match proxy with
  | none => .ok (.direct pinned port)
  | some parts =>
    let host := parts.hostname.getD ""
    if parts.scheme ≠ "http" ∨ host = "" then .error "subscription proxy must be an http URL"
    else
      match parts.port with
      | none => .error "the port of the proxy cannot be read"
      | some given => .ok (.tunnel host (portOr given 80) (proxyTarget pinned port))

/-- The header lines of a request. -/
def headerLines (headers : Headers) (hostHeader : String) : List String :=
  let clean := headers.filter fun header =>
    web.lower header.1 ∉ ["host", "connection", "content-length"]
  (putRow Prod.fst (putRow Prod.fst clean ("Host", hostHeader)) ("Connection", "close")).map
    fun header => header.1 ++ ": " ++ header.2

/-- What one exchange comes to. -/
structure Exchange where
  opening : Option Opening
  request : Option Request
  result : Except String Response

/-- `_request_once` from the connection on. -/
def exchangeOn (opening : Opening) (request : Request) (answer : HopAnswer) : Exchange :=
  if !answer.connected || opening.tunnels && !answer.tunnelled ||
      request.serverName.isSome && !answer.secured then
    ⟨some opening, none, .error answer.error⟩
  else if !web.latin1 ("\r\n".intercalate request.lines) then
    ⟨some opening, none, .error "the request cannot be encoded"⟩
  else
    match answer.response with
    | some response => ⟨some opening, some request, .ok response⟩
    | none => ⟨some opening, some request, .error answer.error⟩

/-- `_request_once`. -/
def requestOnce (parts : Parts) (origin : Origin) (pinned : String) (headers : Headers)
    (proxy : Option Parts) (answer : HopAnswer) : Exchange :=
  match web.idna (parts.hostname.getD ""), openingOf proxy pinned origin.port with
  | none, _ => ⟨none, none, .error "the host cannot be encoded"⟩
  | _, .error why => ⟨none, none, .error why⟩
  | some host, .ok opening =>
    let target := web.urlunsplit (if parts.path = "" then "/" else parts.path) parts.query
    let lines := ("GET " ++ target ++ " HTTP/1.1") ::
      headerLines web headers (authority host origin.port origin.scheme) ++ ["", ""]
    exchangeOn web opening ⟨if origin.scheme = "https" then some host else none, lines⟩ answer

/-- `_header_all`. -/
def headerAll (headers : Headers) (name : String) : List String :=
  (headers.filter fun header => web.lower header.1 = web.lower name).map Prod.snd

/-- Whether a header may go to another origin. -/
def safeHeader (name : String) : Bool := web.lower name ∈ safeCrossOriginHeaders

/-- `_cross_origin_headers`. -/
def crossOriginHeaders (headers : Headers) : Headers :=
  headers.filter fun header => safeHeader web header.1

/-- `_credentials_travel`. -/
def credentialsTravel (origin hop : Origin) : Bool :=
  if origin.host ≠ hop.host then false
  else if origin.scheme = hop.scheme then origin.port = hop.port
  else (origin.scheme, origin.port, hop.scheme, hop.port) = ("http", 80, "https", 443)

/-- The cookies of every host. -/
abbrev Cookies := String → Headers

/-- The cookies of a response are kept for its host; nothing where one cannot be read. -/
def keepCookies (host : String) : List String → Cookies → Option Cookies
  | [], cookies => some cookies
  | text :: rest, cookies =>
    match web.loadCookie text with
    | none => none
    | some pairs => keepCookies host rest fun other =>
        if other = host then pairs.foldl (putRow Prod.fst) (cookies host) else cookies other

/-- The headers of the request of a hop. -/
def requestHeaders (headers : Headers) (first origin : Origin) (hostname : String)
    (cookies : Cookies) : Headers :=
  let base := if credentialsTravel first origin then headers else crossOriginHeaders web headers
  let named := putRow Prod.fst base ("Host", authority hostname origin.port origin.scheme)
  let jar := cookies (web.lower hostname)
  if jar = [] then named
  else putRow Prod.fst named
    ("Cookie", "; ".intercalate (jar.map fun pair => pair.1 ++ "=" ++ pair.2))

end Requests

section Fetching

variable {Ip : Type} [DecidableEq Ip] (ips : AddressLibrary Ip) (web : WebLibrary)

/-- The checks of a URL, and the origin it names. -/
def hopOrigin (current : String) : Except String (Parts × String × Origin) :=
  match web.urlsplit current with
  | none => .error "invalid URL"
  | some parts =>
    let scheme := web.lower parts.scheme
    match parts.hostname.getD "", parts.port with
    | "", _ => .error "subscription URL must use http/https and include a host"
    | hostname, given =>
      if scheme ∉ allowedSchemes then
        .error "subscription URL must use http/https and include a host"
      else
        match given with
        | none => .error "invalid subscription URL port"
        | some port =>
          .ok (parts, hostname, ⟨scheme, web.lower hostname, portOr port (defaultPort scheme)⟩)

/-- What follows a response: the next URL, or the end. -/
inductive Next where
  | redirect (location : String)
  | ended (ending : Ending)

/-- The branches on the status. -/
def afterResponse (hop : ℕ) (current : String) (response : Response) : Next :=
  if response.status ∈ [301, 302, 303, 307, 308] then
    match (headerAll web response.headers "location").head? with
    | none => .ended (.raised "subscription redirect missing Location")
    | some location =>
      if location = "" then .ended (.raised "subscription redirect missing Location")
      else if maxRedirects ≤ hop then .ended (.raised "too many subscription redirects")
      else
        match web.urljoin current location with
        | none => .ended (.raised "invalid URL")
        | some url => .redirect url
  else if response.status < 200 ∨ 300 ≤ response.status then
    .ended (.raised ("subscription endpoint returned HTTP " ++ toString response.status))
  else .ended (.returned response)

/-- What one round of the loop comes to. -/
inductive Visit (Ip : Type) where
  /-- The round raises before it connects anywhere. -/
  | refused (why : String)
  | last (made : Hop Ip) (ending : Ending)
  | moved (made : Hop Ip) (url : String) (cookies : Cookies)

/-- The end of a round, from the result of its exchange. -/
def concluded (hop : ℕ) (current : String) (cookies : Cookies) (made : Hop Ip)
    (result : Except String Response) : Visit Ip :=
  match result with
  | .error why => .last made (.raised why)
  | .ok response =>
    match keepCookies web made.origin.host (headerAll web response.headers "set-cookie") cookies with
    | none => .last made (.raised "CookieError")
    | some cookies =>
      match afterResponse web hop current response with
      | .ended ending => .last made ending
      | .redirect url => .moved made url cookies

/-- A round of the loop to an origin, given what the first origin was. -/
def visit (headers : Headers) (proxy : Option Parts) (hop : ℕ) (current : String)
    (parts : Parts) (hostname : String) (first origin : Origin) (cookies : Cookies)
    (answer : HopAnswer) : Visit Ip :=
  match resolvePublicAll ips hostname answer.lookup with
  | .error why => .refused why
  | .ok texts =>
    let sent := requestOnce web parts origin (texts.headD "")
      (requestHeaders web headers first origin hostname cookies) proxy answer
    concluded web hop current cookies
      ⟨origin, found ips (plainHost ips hostname) answer.lookup, sent.opening, sent.request⟩
      sent.result

/-- The loop of `_http_get` from a hop on. -/
def fetchFrom (headers : Headers) (proxy : Option Parts) :
    ℕ → String → Option Origin → Cookies → List HopAnswer → Fetch Ip
  | _, _, _, _, [] => ⟨[], .waiting⟩
  | hop, current, first, cookies, answer :: rest =>
    match hopOrigin web current with
    | .error why => ⟨[], .raised why⟩
    | .ok (parts, hostname, origin) =>
      let first := first.getD origin
      match visit ips web headers proxy hop current parts hostname first origin cookies answer with
      | .refused why => ⟨[], .raised why⟩
      | .last made ending => ⟨[made], ending⟩
      | .moved made url cookies =>
        let later := fetchFrom headers proxy (hop + 1) url (some first) cookies rest
        ⟨made :: later.hops, later.ending⟩

/-- `_http_get`. -/
def httpGet (url : String) (headers : Headers) (proxy : Option Parts) (answers : List HopAnswer) :
    Fetch Ip :=
  fetchFrom ips web headers proxy 0 url none (fun _ => []) answers

end Fetching

variable {answer : HopAnswer} {answers : List HopAnswer} {hostname : String} {parts : Parts}

section Pinning

variable {Ip : Type} [DecidableEq Ip] {ips : AddressLibrary Ip} {web : WebLibrary}
variable {headers : Headers} {proxy : Option Parts}

/-- The connection goes to the address, or the proxy is asked for it. -/
def Opening.goesTo (address : String) (port : ℕ) : Opening → Prop
  | .direct dialled given => dialled = address ∧ given = port
  | .tunnel _ _ target => target = proxyTarget address port

/-- A hop goes to an address its lookup found, where it found none that is blocked. -/
def Pinned (ips : AddressLibrary Ip) (hop : Hop Ip) : Prop :=
  ∃ addresses, hop.resolved = .ok addresses ∧ (∀ ip ∈ addresses, ipBlocked ips ip = false) ∧
    ∀ opening ∈ hop.opening, ∃ ip ∈ addresses, opening.goesTo (ips.text ip) hop.origin.port

variable {current : String} {cookies : Cookies} {opening : Opening}

theorem openingOf_goesTo {pinned : String} {port : ℕ}
    (h : openingOf proxy pinned port = .ok opening) : opening.goesTo pinned port := by
  unfold openingOf at h
  split at h
  · cases h
    exact ⟨rfl,rfl⟩
  · dsimp only at h
    split at h
    · cases h
    · split at h
      · cases h
      · cases h
        rfl

theorem exchangeOn_opening (opening : Opening) (request : Request) (answer : HopAnswer) :
    (exchangeOn web opening request answer).opening=some opening := by
  unfold exchangeOn
  split
  · rfl
  · split
    · rfl
    · split
      · rfl
      · rfl

variable {response : Response}

theorem exchangeOn_result {request : Request}
    (h : (exchangeOn web opening request answer).result = .ok response) :
    answer.response=some response := by
  unfold exchangeOn at h
  split at h
  · cases h
  · split at h
    · cases h
    · split at h
      next given hgiven =>
        cases h
        exact hgiven
      · cases h

section Exchanges

variable {parts : Parts} {origin : Origin} {pinned : String} {answer : HopAnswer}

theorem requestOnce_opening {opening : Opening}
    (h : opening∈(requestOnce web parts origin pinned headers proxy answer).opening) :
    opening.goesTo pinned origin.port := by
  unfold requestOnce at h
  split at h
  · cases h
  · cases h
  next host given _ hgiven =>
    rw [exchangeOn_opening] at h
    cases h
    exact openingOf_goesTo hgiven

theorem requestOnce_result
    (h : (requestOnce web parts origin pinned headers proxy answer).result = .ok response) :
    answer.response=some response := by
  unfold requestOnce at h
  split at h
  · cases h
  · cases h
  · exact exchangeOn_result h

end Exchanges

/-- The hop of a round, if it got that far. -/
def Visit.made : Visit Ip → Option (Hop Ip)
  | .refused _ => none
  | .last made _ => some made
  | .moved made _ _ => some made

omit [DecidableEq Ip] in
theorem made_concluded (hop : ℕ) (current : String) (cookies : Cookies) (made : Hop Ip)
    (result : Except String Response) :
    (concluded web hop current cookies made result).made=some made := by
  unfold concluded
  split
  · rfl
  · split
    · rfl
    · split
      · rfl
      · rfl

variable {hop : ℕ}

omit [DecidableEq Ip] in
/-- A round is followed by another one where the response is a redirect to it. -/
theorem concluded_moved {kept : Cookies} {made made' : Hop Ip}
    {result : Except String Response} {url : String}
    (h : concluded web hop current cookies made result = .moved made' url kept) :
    ∃ response, result = .ok response ∧
      keepCookies web made.origin.host (headerAll web response.headers "set-cookie") cookies =
        some kept ∧ afterResponse web hop current response = .redirect url := by
  unfold concluded at h
  split at h
  · cases h
  next response =>
    split at h
    · cases h
    next cookies' hcookies =>
      split at h
      · cases h
      next url' hurl =>
        cases h
        exact ⟨response,rfl,hcookies,hurl⟩

/-- A round goes to an address of its one lookup, all of which were checked. -/
theorem pinned_visit {first origin : Origin} {made : Hop Ip}
    (h : made∈(visit ips web headers proxy hop current parts hostname first origin cookies
      answer).made) : Pinned ips made := by
  unfold visit at h
  split at h
  · cases h
  next texts hresol =>
    obtain ⟨addresses,hfound,hsome,hchk,rfl⟩ := resolveAll_ok hresol
    rw [made_concluded] at h
    cases h
    refine ⟨addresses,hfound,hchk,fun opening hopening => ?_⟩
    obtain ⟨ip,rest,rfl⟩ := exists_cons_of_ne_nil hsome
    exact ⟨ip,mem_cons_self,requestOnce_opening hopening⟩

theorem pinned_of_mem_fetchFrom {first : Option Origin} {made : Hop Ip}
    (h : made∈(fetchFrom ips web headers proxy hop current first cookies answers).hops) :
    Pinned ips made := by
  induction answers generalizing hop current first cookies with
  | nil => cases h
  | cons answer rest ih =>
    unfold fetchFrom at h
    split at h
    · cases h
    next parts hostname origin horigin =>
      dsimp only at h
      split at h
      · cases h
      next visited ending hvisit =>
        rw [mem_singleton.mp h]
        exact pinned_visit (by rw [hvisit]; rfl)
      next visited url kept hvisit =>
        rcases mem_cons.mp h with rfl | hlater
        · exact pinned_visit (by rw [hvisit]; rfl)
        · exact ih hlater

end Pinning

section Secrets

variable {Ip : Type} [DecidableEq Ip] {ips : AddressLibrary Ip} {web : WebLibrary}
variable {headers headers' : Headers} {proxy : Option Parts}

/-- The same headers, but for the values of those outside the safe list. -/
def SameButSecrets (web : WebLibrary) (headers headers' : Headers) : Prop :=
  List.Forall₂ (fun header header' => header.1 = header'.1 ∧
    (safeHeader web header.1 = true → header.2 = header'.2)) headers headers'

/-- The origin the fetch began with, or that host upgraded from plain HTTP to HTTPS. -/
def Own (first origin : Origin) : Prop :=
  origin = first ∨ first.scheme = "http" ∧ first.port = 80 ∧ origin = ⟨"https", first.host, 443⟩

theorem own_of_credentialsTravel {first origin : Origin}
    (h : credentialsTravel first origin=true) : Own first origin := by
  unfold credentialsTravel at h
  split at h
  · cases h
  next hhost =>
    split at h
    next hscheme =>
      left
      cases origin
      cases first
      simp_all
    · have hupgrade := of_decide_eq_true h
      simp only [Prod.mk.injEq] at hupgrade
      obtain ⟨hscheme,hport,hscheme',hport'⟩ := hupgrade
      right
      refine ⟨hscheme,hport,?_⟩
      cases origin
      simp_all

theorem crossOriginHeaders_eq (h : SameButSecrets web headers headers') :
    crossOriginHeaders web headers=crossOriginHeaders web headers' := by
  unfold crossOriginHeaders
  induction h with
  | nil => rfl
  | @cons header header' rest rest' hsame _ ih =>
    obtain ⟨hname,hval⟩ := hsame
    rw [filter_cons,filter_cons,← hname,ih]
    split
    next hsafe =>
      rw [Prod.ext hname (hval hsafe)]
    · rfl

variable {hop : ℕ} {current : String} {cookies : Cookies} {first : Option Origin}
variable {rest : List HopAnswer}

theorem origin_of_visit {first origin : Origin} {made : Hop Ip}
    (h : made∈(visit ips web headers proxy hop current parts hostname first origin cookies
      answer).made) : made.origin=origin := by
  unfold visit at h
  split at h
  · cases h
  · rw [made_concluded] at h
    cases h
    rfl

/-- Two rounds with the same answers: away from the first origin they make the same hop, and they
move on to the same one. -/
structure Alike (first origin : Origin) (visited visited' : Visit Ip) : Prop where
  made : ¬Own first origin → ∀ made ∈ visited.made, ∀ made' ∈ visited'.made, made = made'
  moved : ∀ made url cookies, visited = .moved made url cookies →
    ∀ made' url' cookies', visited' = .moved made' url' cookies' → url = url' ∧ cookies = cookies'

theorem alike_visit (h : SameButSecrets web headers headers') (hop : ℕ) (current : String)
    (parts : Parts) (hostname : String) (first origin : Origin) (cookies : Cookies)
    (answer : HopAnswer) : Alike first origin
      (visit ips web headers proxy hop current parts hostname first origin cookies answer)
      (visit ips web headers' proxy hop current parts hostname first origin cookies answer) := by
  unfold visit
  split
  · exact ⟨fun _ _ hmade => (by cases hmade),fun _ _ _ hmoved => (by cases hmoved)⟩
  next texts _ =>
    refine ⟨fun hforeign made hmade made' hmade' => ?_,
      fun made url kept hmoved made' url' kept' hmoved' => ?_⟩
    · rw [made_concluded] at hmade hmade'
      cases hmade
      cases hmade'
      have hstays : credentialsTravel first origin=false := by
        by_contra htravels
        exact hforeign (own_of_credentialsTravel (by simpa using htravels))
      have hheaders : requestHeaders web headers first origin hostname cookies =
          requestHeaders web headers' first origin hostname cookies := by
        unfold requestHeaders
        rw [hstays,crossOriginHeaders_eq h]
        rfl
      rw [hheaders]
    · obtain ⟨response,hresult,hkept,hnext⟩ := concluded_moved hmoved
      obtain ⟨response',hresult',hkept',hnext'⟩ := concluded_moved hmoved'
      have hsame : response=response' :=
        Option.some.inj ((requestOnce_result hresult).symm.trans (requestOnce_result hresult'))
      subst hsame
      exact ⟨Next.redirect.inj (hnext.symm.trans hnext'),Option.some.inj (hkept.symm.trans hkept')⟩

/-- The hop of the first round comes first. -/
theorem fetchFrom_first {made : Hop Ip}
    (h : (fetchFrom ips web headers proxy hop current first cookies (answer::rest)).hops[0]? =
      some made) :
    ∃ parts hostname origin, hopOrigin web current = .ok (parts, hostname, origin) ∧
      made∈(visit ips web headers proxy hop current parts hostname (first.getD origin) origin
        cookies answer).made := by
  unfold fetchFrom at h
  split at h
  · cases h
  next parts hostname origin horigin =>
    refine ⟨parts,hostname,origin,horigin,?_⟩
    dsimp only at h
    split at h
    · cases h
    next hvisit =>
      rw [hvisit]
      exact h
    next hvisit =>
      rw [hvisit]
      exact h

/-- The later hops are those of the fetch the first round moves on to. -/
theorem fetchFrom_later {k : ℕ} {made : Hop Ip}
    (h : (fetchFrom ips web headers proxy hop current first cookies (answer::rest)).hops[k+1]? =
      some made) :
    ∃ parts hostname origin, hopOrigin web current = .ok (parts, hostname, origin) ∧
      ∃ visited url kept, visit ips web headers proxy hop current parts hostname
          (first.getD origin) origin cookies answer = .moved visited url kept ∧
        (fetchFrom ips web headers proxy (hop+1) url (some (first.getD origin)) kept
          rest).hops[k]? = some made := by
  unfold fetchFrom at h
  split at h
  · cases h
  next parts hostname origin horigin =>
    refine ⟨parts,hostname,origin,horigin,?_⟩
    dsimp only at h
    split at h
    · cases h
    · cases h
    next visited url kept hvisit =>
      exact ⟨visited,url,kept,hvisit,h⟩

/-- Where two fetches with the same answers both make a hop to an origin that is not the first
one's own, it is the same hop. -/
theorem alike_fetchFrom (h : SameButSecrets web headers headers') {k : ℕ} {made made' : Hop Ip}
    (hmade : (fetchFrom ips web headers proxy hop current first cookies answers).hops[k]? = some made)
    (hmade' : (fetchFrom ips web headers' proxy hop current first cookies answers).hops[k]? =
      some made')
    (hforeign : ∀ parts hostname origin, hopOrigin web current = .ok (parts, hostname, origin) →
      ¬Own (first.getD origin) made.origin) : made=made' := by
  induction answers generalizing first hop current cookies k with
  | nil => simp [fetchFrom] at hmade
  | cons answer rest ih =>
    cases k with
    | zero =>
      obtain ⟨parts,hostname,origin,horigin,hvisited⟩ := fetchFrom_first hmade
      obtain ⟨parts',hostname',origin',horigin',hvisited'⟩ := fetchFrom_first hmade'
      rw [horigin] at horigin'
      cases horigin'
      have hnot := hforeign parts hostname origin horigin
      rw [origin_of_visit hvisited] at hnot
      exact (alike_visit h hop current parts hostname (first.getD origin) origin cookies
        answer).made hnot made hvisited made' hvisited'
    | succ k =>
      obtain ⟨parts,hostname,origin,horigin,visited,url,kept,hvisit,hlater⟩ := fetchFrom_later hmade
      obtain ⟨parts',hostname',origin',horigin',visited',url',kept',hvisit',hlater'⟩ :=
        fetchFrom_later hmade'
      rw [horigin] at horigin'
      cases horigin'
      obtain ⟨rfl,rfl⟩ := (alike_visit h hop current parts hostname (first.getD origin) origin
        cookies answer).moved visited url kept hvisit visited' url' kept' hvisit'
      exact ih hlater hlater' fun _ _ _ _ => hforeign parts hostname origin horigin

/-- For every URL, proxy, injected
headers and answers: every hop goes to an address its own lookup found, none of whose addresses is
blocked; and with other values of the headers outside the safe list, and the same answers, every
hop to an origin that is not the first one's own is the same. -/
theorem fetch_pinned_and_discreet (ips : AddressLibrary Ip) (web : WebLibrary) (url : String)
    (headers : Headers) (proxy : Option Parts) (answers : List HopAnswer) :
    (∀ made ∈ (httpGet ips web url headers proxy answers).hops, Pinned ips made) ∧
      ∀ headers', SameButSecrets web headers headers' →
        ∀ (first : Hop Ip) (k : ℕ) (made made' : Hop Ip),
          (httpGet ips web url headers proxy answers).hops.head? = some first →
          (httpGet ips web url headers proxy answers).hops[k]? = some made →
          (httpGet ips web url headers' proxy answers).hops[k]? = some made' →
          ¬Own first.origin made.origin → made = made' := by
  refine ⟨fun made hmade => pinned_of_mem_fetchFrom hmade,?_⟩
  intro headers' hsame first k made made' hfst hmade hmade' hforeign
  refine alike_fetchFrom hsame hmade hmade' fun parts hostname origin horigin => ?_
  cases answers with
  | nil => cases hfst
  | cons answer rest =>
    rw [head?_eq_getElem?] at hfst
    obtain ⟨parts',hostname',origin',horigin',hvisited⟩ := fetchFrom_first hfst
    rw [horigin] at horigin'
    cases horigin'
    rw [Option.getD_none,← origin_of_visit hvisited]
    exact hforeign

/-- Two URLs of two hosts. -/
def sampleWeb : WebLibrary where
  urlsplit url :=
    if url = "http://one.example" then some ⟨"http", some "one.example", some none, "", ""⟩
    else if url = "https://two.example/x" then
      some ⟨"https", some "two.example", some none, "/x", ""⟩
    else none
  urljoin _ location := some location
  urlunsplit path _ := path
  idna host := some host
  latin1 _ := true
  loadCookie _ := some []
  lower text := text

/-- The first host redirects to the second. -/
def redirected : List HopAnswer :=
  [⟨.ok ["1.1.1.1"], true, true, true, some ⟨302, [("location", "https://two.example/x")]⟩, ""⟩,
    ⟨.ok ["1.1.1.1"], true, true, true, some ⟨200, []⟩, ""⟩]

/-- The fetch of the sample with a token. -/
def sampleFetch (token : String) : Fetch String :=
  httpGet sampleAddresses sampleWeb "http://one.example" [("accept", "*/*"), ("x-hwid", token)] none
    redirected

theorem fetch_pinned_and_discreet_redirected : (sampleFetch "a").hops.length = 2 ∧
      ∀ made made', (sampleFetch "a").hops[1]? = some made →
        (sampleFetch "b").hops[1]? = some made' → made = made' := by
  refine ⟨by decide +kernel,fun made made' hmade hmade' => ?_⟩
  have hsame : SameButSecrets sampleWeb [("accept", "*/*"),("x-hwid", "a")]
      [("accept", "*/*"),("x-hwid", "b")] :=
    .cons ⟨rfl,fun _ => rfl⟩ (.cons ⟨rfl,fun h => absurd h (by decide)⟩ .nil)
  have horigins : (sampleFetch "a").hops.map Hop.origin =
      [⟨"http", "one.example",80⟩,⟨"https", "two.example",443⟩] := by decide +kernel
  obtain ⟨first,hfst⟩ : ∃ first, (sampleFetch "a").hops.head? = some first :=
    Option.isSome_iff_exists.mp (by decide +kernel)
  have hone : some first.origin=some (⟨"http", "one.example",80⟩ : Origin) := by
    rw [← Option.map_some,← hfst,← head?_map,horigins]
    rfl
  have htwo : some made.origin=some (⟨"https", "two.example",443⟩ : Origin) := by
    rw [← Option.map_some,← hmade,← getElem?_map,horigins]
    rfl
  refine (fetch_pinned_and_discreet sampleAddresses sampleWeb _ _ none redirected).2 _ hsame first 1
    made made' hfst hmade hmade' ?_
  rw [Option.some.inj hone,Option.some.inj htwo]
  unfold Own
  decide

end Secrets

end PiGwPanel.FeedFetch
