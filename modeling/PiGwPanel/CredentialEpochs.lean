import PiGwPanel.AnsweredProgram

/-!
# Password changes and the credentials before them

`auth/service.py`, `api/deps.py` and the routes `login`, `change_password` and
`create_token`. A handler is a sequence of store operations; handlers interleave
at single operations, and a store transaction is one operation because it holds
the connection lock. A session is the content of a signed cookie, so every
session ever issued may come back.

Beside the code's own data every session and token carries how many password
changes it knows of: a login those committed when it read the password hash, a
token those of the credential it was created with, and a session that makes the
next change one more.
-/

namespace PiGwPanel.CredentialEpochs

open AnsweredProgram List

/-- The scopes of API tokens. -/
inductive Scope where
  | monitor
  | read
  | readwrite
  deriving DecidableEq, Repr

/-- A row of `api_tokens`; the secret stands for its hash. -/
structure Token where
  secret : String
  scope : Scope
  expiresAt : Option ℕ
  /-- Ghost: the password changes its creator's credential knew of. -/
  since : ℕ
  deriving DecidableEq, Repr

/-- The content of a session cookie. -/
structure Session where
  authed : Bool
  epoch : ℕ
  lastSeen : Option ℕ
  csrf : Option String
  /-- Ghost: the password changes it knows of. -/
  since : ℕ
  deriving DecidableEq, Repr

/-- A request without a session cookie. -/
def Session.empty : Session := ⟨false, 0, none, none, 0⟩

/-- What a request is for. -/
inductive Goal (H : Type) where
  /-- Any route that only asks for authentication. -/
  | access
  | createToken (secret : String) (scope : Scope) (expiresAt : Option ℕ)
  /-- The current password, and the salted hash of the new one. -/
  | changePassword (current : String) (newHash : H)
  | login (username password : String)
  deriving DecidableEq, Repr

/-- The next store operation of a handler. -/
inductive Phase where
  /-- `get_token_by_hash` -/
  | lookup
  /-- `touch_token`, with the row that was found -/
  | touch (token : Token)
  /-- the read of `session_epoch` in `session_invalid_reason` -/
  | epoch
  /-- the read of `session_timeout_min` there -/
  | timeout
  /-- the first operation of the route, authorized by a credential that knows of so many changes -/
  | permitted (since : ℕ)
  /-- the read of `auth_username` in `verify_login` -/
  | user (username : String)
  /-- the read of `auth_password_hash` there -/
  | hash (okUser : Bool)
  /-- the transaction of `set_password` -/
  | commit
  /-- the read of `session_epoch` after the change with this number -/
  | adopt (change : ℕ)
  /-- the read of `session_epoch` in `_open_session` -/
  | stamp (since : ℕ)
  deriving DecidableEq, Repr

/-- A request in progress. -/
structure Handler (H : Type) where
  session : Session
  (bearer csrfHeader : Option String)
  /-- A `GET` of one of the paths a monitor token may read. -/
  monitorPath : Bool
  goal : Goal H
  phase : Phase
  deriving DecidableEq, Repr

/-- A request that was authorized: what its credential knew of, and what had been committed. -/
structure Authorization where
  (since changes : ℕ)
  deriving DecidableEq, Repr

/-- The store, the cookies in the clients' hands and the handlers in progress. -/
structure Site (H : Type) where
  authUsername : String
  authPasswordHash : Option H
  (sessionEpoch sessionTimeoutMin : ℕ)
  tokens : List Token
  cookies : List Session
  pool : List (Handler H)
  /-- Ghost: committed password changes. -/
  changes : ℕ
  /-- Ghost: authorized requests. -/
  authorizations : List Authorization
  deriving DecidableEq, Repr

variable {H : Type} [DecidableEq H]

/-- What one step brings along: the clock, a new CSRF token, and whether a transaction commits. -/
structure Moment where
  now : ℕ
  csrf : String
  commits : Bool
  deriving DecidableEq, Repr

/-- `csrf_matches`. -/
def csrfMatches (session header : Option String) : Bool :=
  match session, header with
  | some a, some b => decide (a ≠ "") && decide (b ≠ "") && decide (a = b)
  | _, _ => false

section

variable (s : Site H) (h : Handler H)

/-- The handler goes on. -/
def Site.advance (h next : Handler H) : Site H :=
  { s with pool := next :: s.pool.erase h }

/-- The handler ends, and its session goes back to the client. -/
def Site.finish (session : Session) : Site H :=
  { s with pool := s.pool.erase h, cookies := session :: s.cookies }

/-- `require_auth` let the request through. -/
def Site.note (since : ℕ) : Site H :=
  { s with authorizations := ⟨since, s.changes⟩ :: s.authorizations }

/-- What follows `require_auth`: an access is done, a change of the store still asks
`require_csrf`, which a token passes by its scope. -/
def afterAuth (since : ℕ) (mayWrite : Bool) : Site H :=
  match h.goal with
  | .access | .login _ _ => (s.note since).finish h h.session
  | .createToken _ _ _ | .changePassword _ _ =>
    if mayWrite then (s.note since).advance h { h with phase := .permitted since }
    else (s.note since).finish h h.session

/-- Reading the row of the bearer token; without a valid one the session decides. -/
def lookupToken (m : Moment) : Site H :=
  match s.tokens.find? fun t => decide (some t.secret = h.bearer) with
  | some token =>
    if token.expiresAt.all fun expiry => decide (m.now < expiry) then
      s.advance h { h with phase := .touch token }
    else s.advance h { h with phase := .epoch }
  | none => s.advance h { h with phase := .epoch }

/-- `require_auth` with a valid token. -/
def touchToken (token : Token) : Site H :=
  if token.scope = .monitor ∧ h.monitorPath = false then s.finish h h.session
  else afterAuth s h token.since (decide (token.scope = .readwrite))

/-- `session_invalid_reason`, up to the epoch. -/
def checkEpoch : Site H :=
  if h.session.authed = true ∧ h.session.epoch = s.sessionEpoch then
    s.advance h { h with phase := .timeout }
  else s.finish h h.session

/-- `session_invalid_reason`, the idle timeout. -/
def checkTimeout (m : Moment) : Site H :=
  let mayWrite := csrfMatches h.session.csrf h.csrfHeader
  if s.sessionTimeoutMin = 0 then afterAuth s h h.session.since mayWrite
  else if s.sessionTimeoutMin * 60 < m.now - h.session.lastSeen.getD m.now then
    s.finish h .empty
  else
    let seen := { h with session := { h.session with lastSeen := some m.now } }
    afterAuth (s.advance h seen) seen h.session.since mayWrite

/-- The first operation of a route: the insert of `create_token`, or the read of the username. -/
def enterRoute (since : ℕ) (m : Moment) : Site H :=
  match h.goal with
  | .createToken secret scope expiresAt =>
    if expiresAt.all fun expiry => decide (m.now < expiry) then
      { s with tokens := ⟨secret, scope, expiresAt, since⟩ :: s.tokens }.finish h h.session
    else s.finish h h.session
  | .changePassword _ _ => s.advance h { h with phase := .user s.authUsername }
  | .access | .login _ _ => s.finish h h.session

/-- `verify_login`, the username. -/
def readUser (username : String) : Site H :=
  s.advance h
    { h with phase := .hash (decide (s.authUsername ≠ "") && decide (s.authUsername = username)) }

/-- The transaction of `set_password`: hash, epoch and tokens at once. -/
def setPassword (newHash : H) : Site H :=
  { s with
    authPasswordHash := some newHash
    sessionEpoch := s.sessionEpoch + 1
    tokens := []
    changes := s.changes + 1 }

end

/-- The session that made a change takes the epoch it reads; it knows of that change if it knew of
all before. -/
def Session.adopt (session : Session) (epoch change : ℕ) : Session :=
  { session with
    epoch := epoch
    since := if session.since + 1 = change then change else session.since }

section Verification

variable (verifyPasswordHash : H → String → Bool) (dummyHash : H)

/-- `verify_login`, the hash, and what the route makes of the answer. -/
def readHash (s : Site H) (h : Handler H) (okUser : Bool) : Site H :=
  let matched (password : String) : Bool :=
    okUser && verifyPasswordHash (s.authPasswordHash.getD dummyHash) password
  match h.goal with
  | .login _ password =>
    if matched password then s.advance h { h with phase := .stamp s.changes }
    else s.finish h h.session
  | .changePassword current _ =>
    if matched current then s.advance h { h with phase := .commit } else s.finish h h.session
  | .access | .createToken _ _ _ => s.finish h h.session

/-- The next store operation of a handler. -/
def act (s : Site H) (h : Handler H) (m : Moment) : Site H :=
  match h.phase with
  | .lookup => lookupToken s h m
  | .touch token => touchToken s h token
  | .epoch => checkEpoch s h
  | .timeout => checkTimeout s h m
  | .permitted since => enterRoute s h since m
  | .user username => readUser s h username
  | .hash okUser => readHash verifyPasswordHash dummyHash s h okUser
  | .commit =>
    match h.goal with
    | .changePassword _ newHash =>
      if m.commits then
        (setPassword s newHash).advance h { h with phase := .adopt (s.changes + 1) }
      else s.finish h h.session
    | _ => s.finish h h.session
  | .adopt change => s.finish h (h.session.adopt s.sessionEpoch change)
  | .stamp since => s.finish h ⟨true, s.sessionEpoch, some m.now, some m.csrf, since⟩

/-- What happens next. -/
inductive Event (H : Type) where
  /-- A request comes in, with one of the issued cookies or none. -/
  | arrive (cookie : Option ℕ) (bearer csrfHeader : Option String) (monitorPath : Bool)
      (goal : Goal H)
  /-- The handler at this place makes its next store operation. -/
  | act (place : ℕ) (moment : Moment)
  deriving DecidableEq, Repr

/-- Where a new handler begins. -/
def firstPhase (goal : Goal H) (bearer : Option String) : Phase :=
  match goal with
  | .login username _ => .user username
  | _ => if bearer.any fun secret => decide (secret ≠ "") then .lookup else .epoch

/-- One step of a run. -/
def step (s : Site H) : Event H → Site H
  | .arrive cookie bearer csrfHeader monitorPath goal =>
    let session := (cookie.bind fun place => s.cookies[place]?).getD .empty
    { s with
      pool := ⟨session, bearer, csrfHeader, monitorPath, goal, firstPhase goal bearer⟩ :: s.pool }
  | .act place moment =>
    match s.pool[place]? with
    | none => s
    | some h => act verifyPasswordHash dummyHash s h moment

end Verification

/-- A panel with a credential and no session or token yet. -/
def Site.start (username : String) (hash : Option H) (epoch timeoutMin : ℕ) : Site H :=
  ⟨username, hash, epoch, timeoutMin, [], [], [], 0, []⟩

/-- The handler is between reading a credential and the authorization, session or token it gets
for it. -/
def Handler.engaged (h : Handler H) : Bool :=
  match h.phase with
  | .touch _ | .timeout | .adopt _ | .stamp _ => true
  | .permitted _ =>
    match h.goal with
    | .createToken _ _ _ => true
    | _ => false
  | .lookup | .epoch | .user _ | .hash _ | .commit => false

/-- Should the handler commit a password change now, no other handler is engaged, and its own
session, if it is signed in, is of the current epoch. -/
def Handler.Alone (s : Site H) (h : Handler H) : Prop :=
  h.phase = .commit → (∀ other ∈ s.pool.erase h, other.engaged = false) ∧
    (h.session.authed = true → h.session.epoch = s.sessionEpoch)

instance (s : Site H) (h : Handler H) : Decidable (h.Alone s) :=
  inferInstanceAs (Decidable (h.phase = .commit → _ ∧ _))

/-- A password change commits only undisturbed. -/
def Undisturbed (s : Site H) : Event H → Prop
  | .arrive _ _ _ _ _ => True
  | .act place _ => ∀ h ∈ s.pool[place]?, h.Alone s

instance (s : Site H) (event : Event H) : Decidable (Undisturbed s event) := by
  cases event <;> dsimp only [Undisturbed] <;> infer_instance

/-- A signed-in session carries the epoch of the last change it knows of. -/
def SessionOk (changes epoch : ℕ) (session : Session) : Prop :=
  session.authed = true → session.epoch + changes = epoch + session.since ∧ session.since ≤ changes

/-- What an engaged handler has read is still so. -/
def PhaseOk (changes : ℕ) (h : Handler H) : Prop :=
  match h.phase with
  | .touch token => token.since = changes
  | .timeout => h.session.authed = true ∧ h.session.since = changes
  | .permitted since =>
    match h.goal with
    | .createToken _ _ _ => since = changes
    | _ => True
  | .adopt change => change = changes ∧ (h.session.authed = true → h.session.since + 1 = change)
  | .stamp since => since = changes
  | .lookup | .epoch | .user _ | .hash _ | .commit => True

/-- What holds of every site that an undisturbed run reaches. -/
structure Sound (s : Site H) : Prop where
  cookies : ∀ c ∈ s.cookies, SessionOk s.changes s.sessionEpoch c
  tokens : ∀ t ∈ s.tokens, t.since = s.changes
  sessions : ∀ h ∈ s.pool, SessionOk s.changes s.sessionEpoch h.session
  phases : ∀ h ∈ s.pool, PhaseOk s.changes h
  log : ∀ a ∈ s.authorizations, a.since = a.changes

theorem sessionOk_empty (changes epoch : ℕ) : SessionOk changes epoch .empty := by
  intro h
  cases h

variable {s : Site H} {session : Session} {h : Handler H} {changes epoch : ℕ}

/-- A session of the current epoch has seen every change. -/
theorem SessionOk.since_eq (h : SessionOk changes epoch session)
    (hauthed : session.authed=true) (hepoch : session.epoch=epoch) : session.since=changes := by
  have hsum := (h hauthed).1
  omega

omit [DecidableEq H] in
theorem phaseOk_of_not_engaged (hfree : h.engaged=false) (changes : ℕ) : PhaseOk changes h := by
  unfold Handler.engaged at hfree
  unfold PhaseOk
  cases hphase : h.phase with
  | permitted since =>
    rw [hphase] at hfree
    cases hgoal : h.goal with
    | createToken secret scope expiresAt =>
      rw [hgoal] at hfree
      cases hfree
    | access => trivial
    | changePassword current newHash => trivial
    | login username password => trivial
  | touch token =>
    rw [hphase] at hfree
    cases hfree
  | timeout =>
    rw [hphase] at hfree
    cases hfree
  | adopt change =>
    rw [hphase] at hfree
    cases hfree
  | stamp since =>
    rw [hphase] at hfree
    cases hfree
  | lookup => trivial
  | epoch => trivial
  | user username => trivial
  | hash okUser => trivial
  | commit => trivial

theorem Sound.advance (hs : Sound s) (h : Handler H) {next : Handler H}
    (hsess : SessionOk s.changes s.sessionEpoch next.session) (hphase : PhaseOk s.changes next) :
    Sound (s.advance h next) := by
  refine { hs with sessions := ?_, phases := ?_ }
  · intro k hk
    rcases mem_cons.mp hk with rfl | hk
    · exact hsess
    · exact hs.sessions k (mem_of_mem_erase hk)
  · intro k hk
    rcases mem_cons.mp hk with rfl | hk
    · exact hphase
    · exact hs.phases k (mem_of_mem_erase hk)

theorem Sound.finish (hs : Sound s) (h : Handler H)
    (hsess : SessionOk s.changes s.sessionEpoch session) : Sound (s.finish h session) := by
  refine { hs with cookies := ?_, sessions := ?_, phases := ?_ }
  · intro c hc
    rcases mem_cons.mp hc with rfl | hc
    · exact hsess
    · exact hs.cookies c hc
  · intro k hk
    exact hs.sessions k (mem_of_mem_erase hk)
  · intro k hk
    exact hs.phases k (mem_of_mem_erase hk)

variable {since : ℕ}

omit [DecidableEq H] in
theorem Sound.note (hs : Sound s) (hsince : since=s.changes) : Sound (s.note since) := by
  refine { hs with log := ?_ }
  intro a ha
  rcases mem_cons.mp ha with rfl | ha
  · exact hsince
  · exact hs.log a ha

section

variable (hs : Sound s) (hsess : SessionOk s.changes s.sessionEpoch h.session)

include hs hsess

theorem Sound.afterAuth (hsince : since=s.changes) (mayWrite : Bool) :
    Sound (afterAuth s h since mayWrite) := by
  have hnoted := hs.note hsince
  unfold CredentialEpochs.afterAuth
  cases hgoal : h.goal with
  | access => exact hnoted.finish h hsess
  | login username password => exact hnoted.finish h hsess
  | createToken secret scope expiresAt =>
    split_ifs
    · refine hnoted.advance h hsess ?_
      change PhaseOk s.changes _
      simpa [PhaseOk,hgoal] using hsince
    · exact hnoted.finish h hsess
  | changePassword current newHash =>
    dsimp only
    split_ifs
    · refine hnoted.advance h hsess ?_
      simp [PhaseOk]
    · exact hnoted.finish h hsess

theorem Sound.lookupToken (m : Moment) : Sound (lookupToken s h m) := by
  unfold CredentialEpochs.lookupToken
  cases hfind : s.tokens.find? fun t => decide (some t.secret=h.bearer) with
  | none => exact hs.advance h hsess trivial
  | some token =>
    dsimp only
    split_ifs
    · exact hs.advance h hsess (hs.tokens token (mem_of_find?_eq_some hfind))
    · exact hs.advance h hsess trivial

theorem Sound.touchToken {token : Token} (htoken : token.since=s.changes) : Sound (touchToken s h token) := by
  unfold CredentialEpochs.touchToken
  split_ifs
  · exact hs.finish h hsess
  · exact hs.afterAuth hsess htoken _

/-- A session of an older epoch is refused here. -/
theorem Sound.checkEpoch : Sound (checkEpoch s h) := by
  unfold CredentialEpochs.checkEpoch
  split_ifs with hvalid
  · exact hs.advance h hsess ⟨hvalid.1,hsess.since_eq hvalid.1 hvalid.2⟩
  · exact hs.finish h hsess

theorem Sound.checkTimeout (hphase : PhaseOk s.changes h) (hsince : h.session.since=s.changes) (m : Moment) :
    Sound (checkTimeout s h m) := by
  unfold CredentialEpochs.checkTimeout
  split_ifs
  · exact hs.afterAuth hsess hsince _
  · exact hs.finish h (sessionOk_empty _ _)
  · have hseen : Sound (s.advance h
        { h with session := { h.session with lastSeen := some m.now } }) :=
      hs.advance h hsess hphase
    exact hseen.afterAuth (h := { h with session := { h.session with lastSeen := some m.now } })
      hsess hsince _

theorem Sound.enterRoute (hphase : h.phase = .permitted since) (hok : PhaseOk s.changes h) (m : Moment) :
    Sound (enterRoute s h since m) := by
  unfold CredentialEpochs.enterRoute
  cases hgoal : h.goal with
  | access => exact hs.finish h hsess
  | login username password => exact hs.finish h hsess
  | changePassword current newHash => exact hs.advance h hsess trivial
  | createToken secret scope expiresAt =>
    have hsince : since=s.changes := by simpa [PhaseOk,hphase,hgoal] using hok
    dsimp only
    split_ifs
    · have hins : Sound { s with tokens := ⟨secret,scope,expiresAt,since⟩::s.tokens } := by
        refine { hs with tokens := ?_ }
        intro t ht
        rcases mem_cons.mp ht with rfl | ht
        · exact hsince
        · exact hs.tokens t ht
      exact hins.finish h hsess
    · exact hs.finish h hsess

/-- A new password moves the epoch and ends the other sessions. -/
theorem Sound.setPassword (hothers : ∀ other∈s.pool.erase h, other.engaged=false)
    (hcurrent : h.session.authed=true → h.session.epoch=s.sessionEpoch) (newHash : H) :
    Sound ((setPassword s newHash).advance h { h with phase := .adopt (s.changes+1) }) := by
  -- The sums that tie epochs and changes together grow by one on both sides.
  have hkeeps : ∀ session, SessionOk s.changes s.sessionEpoch session →
      SessionOk (s.changes+1) (s.sessionEpoch+1) session := by
    intro session hok hauthed
    obtain ⟨hsum,hle⟩ := hok hauthed
    constructor
    · omega
    · omega
  constructor
  · exact fun c hc => hkeeps c (hs.cookies c hc)
  · intro t ht
    cases ht
  · intro k hk
    rcases mem_cons.mp hk with rfl | hk
    · exact hkeeps _ hsess
    · exact hkeeps _ (hs.sessions k (mem_of_mem_erase hk))
  · intro k hk
    rcases mem_cons.mp hk with rfl | hk
    · refine ⟨rfl,fun hauthed => ?_⟩
      have hsince := hsess.since_eq hauthed (hcurrent hauthed)
      change h.session.since+1=s.changes+1
      omega
    · exact phaseOk_of_not_engaged (hothers k hk) _
  · exact hs.log

end

/-- A session that knew of every change before the one it made knows of all. -/
theorem sessionOk_adopt (hsince : session.authed=true → session.since+1=changes) :
    SessionOk changes epoch (session.adopt epoch changes) := by
  intro hauthed
  have hnext := hsince hauthed
  have hadopted : (session.adopt epoch changes).since=changes := if_pos hnext
  rw [hadopted]
  exact ⟨rfl,Nat.le_refl _⟩

section Steps

variable (verifyPasswordHash : H → String → Bool) (dummyHash : H)

variable {s : Site H} {h : Handler H}

theorem Sound.readHash (hs : Sound s) (hsess : SessionOk s.changes s.sessionEpoch h.session)
    (okUser : Bool) : Sound (readHash verifyPasswordHash dummyHash s h okUser) := by
  unfold CredentialEpochs.readHash
  cases hgoal : h.goal with
  | access => exact hs.finish h hsess
  | createToken secret scope expiresAt => exact hs.finish h hsess
  | login username password =>
    dsimp only
    split_ifs
    · exact hs.advance h hsess rfl
    · exact hs.finish h hsess
  | changePassword current newHash =>
    dsimp only
    split_ifs
    · exact hs.advance h hsess trivial
    · exact hs.finish h hsess

theorem Sound.act (hs : Sound s) (hh : h∈s.pool) (m : Moment) (hquiet : h.Alone s) :
    Sound (act verifyPasswordHash dummyHash s h m) := by
  have hsess := hs.sessions h hh
  have hok := hs.phases h hh
  unfold CredentialEpochs.act
  cases hphase : h.phase with
  | lookup => exact hs.lookupToken hsess m
  | touch token =>
    have htoken : token.since=s.changes := by simpa [PhaseOk,hphase] using hok
    exact hs.touchToken hsess htoken
  | epoch => exact hs.checkEpoch hsess
  | timeout =>
    have hsince : h.session.authed=true ∧ h.session.since=s.changes := by
      simpa [PhaseOk,hphase] using hok
    exact hs.checkTimeout hsess hok hsince.2 m
  | permitted since => exact hs.enterRoute hsess hphase hok m
  | user username => exact hs.advance h hsess trivial
  | hash okUser => exact hs.readHash verifyPasswordHash dummyHash hsess okUser
  | commit =>
    cases hgoal : h.goal with
    | access => exact hs.finish h hsess
    | createToken secret scope expiresAt => exact hs.finish h hsess
    | login username password => exact hs.finish h hsess
    | changePassword current newHash =>
      split_ifs
      · obtain ⟨hothers,hcurrent⟩ := hquiet hphase
        have hcomm := hs.setPassword hsess hothers hcurrent newHash
        rwa [hgoal] at hcomm
      · exact hs.finish h hsess
  | adopt change =>
    have hchange : change=s.changes ∧ (h.session.authed=true → h.session.since+1=change) := by
      simpa [PhaseOk,hphase] using hok
    obtain ⟨rfl,hsince⟩ := hchange
    exact hs.finish h (sessionOk_adopt hsince)
  | stamp since =>
    have hsince : since=s.changes := by simpa [PhaseOk,hphase] using hok
    refine hs.finish h ?_
    intro _
    rw [hsince]
    exact ⟨rfl,Nat.le_refl _⟩

omit [DecidableEq H] in
theorem firstPhase_ok (changes : ℕ) (session : Session) (bearer csrfHeader : Option String)
    (monitorPath : Bool) (goal : Goal H) : PhaseOk changes
      (⟨session,bearer,csrfHeader,monitorPath,goal,firstPhase goal bearer⟩ : Handler H) := by
  apply phaseOk_of_not_engaged
  cases goal with
  | login username password => rfl
  | access =>
    simp only [Handler.engaged,firstPhase]
    split_ifs <;> rfl
  | createToken secret scope expiresAt =>
    simp only [Handler.engaged,firstPhase]
    split_ifs <;> rfl
  | changePassword current newHash =>
    simp only [Handler.engaged,firstPhase]
    split_ifs <;> rfl

/-- One move of one handler keeps the account. -/
theorem Sound.step (hs : Sound s) {event : Event H} (hquiet : Undisturbed s event) :
    Sound (step verifyPasswordHash dummyHash s event) := by
  cases event with
  | arrive cookie bearer csrfHeader monitorPath goal =>
    have hsess : SessionOk s.changes s.sessionEpoch
        ((cookie.bind fun place => s.cookies[place]?).getD .empty) := by
      cases hcookie : cookie.bind fun place => s.cookies[place]? with
      | none => exact sessionOk_empty _ _
      | some session =>
        obtain ⟨place,_,hplace⟩ := Option.bind_eq_some_iff.mp hcookie
        exact hs.cookies session (mem_of_getElem? hplace)
    refine { hs with sessions := ?_, phases := ?_ }
    · intro k hk
      rcases mem_cons.mp hk with rfl | hk
      · exact hsess
      · exact hs.sessions k hk
    · intro k hk
      rcases mem_cons.mp hk with rfl | hk
      · exact firstPhase_ok _ _ _ _ _ _
      · exact hs.phases k hk
  | act place moment =>
    change Sound (match s.pool[place]? with
      | none => s
      | some h => CredentialEpochs.act verifyPasswordHash dummyHash s h moment)
    cases hplace : s.pool[place]? with
    | none => exact hs
    | some h =>
      exact hs.act verifyPasswordHash dummyHash (mem_of_getElem? hplace) moment (hquiet h hplace)

omit [DecidableEq H] in
theorem sound_start (username : String) (hash : Option H) (epoch timeoutMin : ℕ) :
    Sound (Site.start username hash epoch timeoutMin) := by
  constructor <;> simp [Site.start]

/-- In every interleaving whose password changes are undisturbed, every authorized request was
authorized by a credential that knows of every committed change. -/
theorem authorizations_know_changes (username : String) (hash : Option H) (epoch timeoutMin : ℕ)
    (events : List (Event H)) (hquiet : EveryStep (step verifyPasswordHash dummyHash) Undisturbed
      (.start username hash epoch timeoutMin) events) :
    ∀ a ∈ (run (step verifyPasswordHash dummyHash) (.start username hash epoch timeoutMin)
      events).authorizations, a.since = a.changes := by
  have hsound : Sound (run (step verifyPasswordHash dummyHash)
      (.start username hash epoch timeoutMin) events) :=
    run_keeps_of (I := Sound) (fun s event hstep hs => hs.step verifyPasswordHash dummyHash hstep)
      hquiet (sound_start username hash epoch timeoutMin)
  exact hsound.log

end Steps

/-- The step over plain passwords in place of their hashes. -/
def plainStep : Site String → Event String → Site String :=
  step (fun stored given => stored == given) ""

/-- A step at noon; every transaction commits. -/
def noon : Moment := ⟨43200, "csrf", true⟩

/-- The handler at the head of the pool makes so many operations. -/
def operations (count : ℕ) : List (Event String) := List.replicate count (.act 0 noon)

/-- The panel before the first login. -/
def samplePanel : Site String := .start "admin" (some "old") 0 0

/-- A login, the change of the password from its session, and an access with the session that
made the change. -/
def changeInTurn : List (Event String) :=
  [.arrive none none none false (.login "admin" "old")] ++ operations 3 ++
    [.arrive (some 0) none (some "csrf") false (.changePassword "old" "new")] ++ operations 7 ++
    [.arrive (some 0) none none false .access] ++ operations 2

/-- The session that made the change stays signed in. -/
theorem authorizations_know_changes_in_turn :
    (run plainStep samplePanel changeInTurn).authorizations = [⟨1, 1⟩, ⟨0, 0⟩] ∧
      ∀ a ∈ (run plainStep samplePanel changeInTurn).authorizations, a.since = a.changes := by
  refine ⟨by decide +kernel,
    authorizations_know_changes (fun stored given => stored == given) "" "admin" (some "old") 0 0
      changeInTurn ?_⟩
  decide +kernel

/-- A login has read the old hash when the password changes, and opens its session afterwards. -/
def changeDuringLogin : List (Event String) :=
  [.arrive none none none false (.login "admin" "old")] ++ operations 3 ++
    [.arrive none none none false (.login "admin" "old")] ++ operations 2 ++
    [.arrive (some 0) none (some "csrf") false (.changePassword "old" "new")] ++ operations 7 ++
    operations 1 ++ [.arrive (some 0) none none false .access] ++ operations 2

/-- The session opened with the old password carries the new epoch and is let in. -/
theorem old_password_session_authorized :
    (run plainStep samplePanel changeDuringLogin).authorizations = [⟨0, 1⟩, ⟨0, 0⟩] ∧
      ¬ ∀ a ∈ (run plainStep samplePanel changeDuringLogin).authorizations,
        a.since = a.changes := by
  have hlog : (run plainStep samplePanel changeDuringLogin).authorizations =
      [⟨0,1⟩,⟨0,0⟩] := by decide +kernel
  refine ⟨hlog,?_⟩
  intro hall
  have hfst : (0 : ℕ)=1 := hall ⟨0,1⟩ mem_cons_self
  cases hfst

end PiGwPanel.CredentialEpochs
