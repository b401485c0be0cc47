import Mathlib.Data.List.Infix
import PiGwPanel.AnsweredProgram
import PiGwPanel.PyText

/-!
# The emergency deny on forwarded traffic

When the panel cannot install its own enforcement at boot, it holds every
forwarded packet closed with a table that names no interface. The table lives
in the kernel and the note about it in the process, so every recorded success
has to release it. Over every run of applies, stops, syncs, boot guards,
hand-backs and fallbacks, cut anywhere and with restarts in between, a status
of "ok" means that no such table is left, and none is taken down before the
host confirmed the panel's own enforcement or the kill switch was off.
-/

namespace PiGwPanel.EmergencyDeny

open AnsweredProgram PyText

/-- An exception: `str(exc)` and the name of its class. -/
structure PyError where
  (text name : String)

/-- `str(exc) or exc.__class__.__name__`. -/
def PyError.shown (e : PyError) : String := if e.text = "" then e.name else e.text

/-- `NetResult`. -/
structure NetResult where
  ok : Bool
  rendered : String := ""
  error : String := ""
  warning : String := ""

/-- How a command on the host ends. -/
inductive CommandExit where
  | done
  /-- `CalledProcessError`, a timeout included; `shown` is its `str`. -/
  | called (stderr stdout shown : String)
  | osError (e : PyError)
  /-- Any other exception. -/
  | other (e : PyError)

/-- How a method of the backend ends. -/
inductive BackendExit where
  | returned (result : NetResult)
  /-- It returned something that is no `NetResult`. -/
  | unusable
  | raised (e : PyError)

/-- How rendering the plan from the store ends. -/
inductive RenderExit (P : Type) where
  | plan (plan : P)
  /-- `EnforcementCoverUnknown`. -/
  | coverUnknown (reason : String)
  | raised (e : PyError)

/-- One answer of the environment; a call reads the part that is meant for it. -/
structure Answer (P : Type) where
  /-- Whether a command took effect. -/
  took : Bool
  exit : CommandExit
  backend : BackendExit
  render : RenderExit P

/-- The backend the panel was started with. -/
structure Setup (P : Type) where
  /-- The backend has `_run`: there is a host behind it. -/
  hasHost : Bool
  /-- The backend has `apply_guard`. -/
  guards : Bool
  /-- `NetPlan.from_settings(settings)`. -/
  settingsPlan : P

/-- The two families of the emergency table. -/
inductive Family where
  | ip
  | ip6
  deriving DecidableEq

def Family.text : Family → String
  | .ip => "ip"
  | .ip6 => "ip6"

/-- `enforcement_status`. -/
inductive Status where
  | unknown
  | ok
  | error
  deriving DecidableEq

/-- What held when an emergency table was taken down. -/
structure Removal where
  family : Family
  /-- The backend had reported success earlier in the same step. -/
  (confirmed killSwitchOff : Bool)

/-- The store, the host and the memory of the panel's process, as far as enforcement goes. -/
structure Gateway where
  /-- `kill_switch_enabled` in the store. -/
  killSwitchEnabled : Option String
  /-- `active_node_id` in the store. -/
  activeNodeId : Option String
  /-- The supervisor reports xray running. -/
  running : Bool
  /-- The emergency tables in the kernel. -/
  emergency : Family → Bool
  status : Status
  /-- `enforcement_error`. -/
  error : String
  wanBlocked : Option Bool
  /-- `enforcement_fallback_note`. -/
  (note lastNetWarning : String)
  /-- Ghost: in this step the backend has reported success. -/
  confirmed : Bool
  /-- Ghost: every removal of an emergency table so far, the latest first. -/
  removals : List Removal

variable {P : Type}

/-- A panel operation on the gateway. -/
abbrev GatewayProg (P α : Type) := Prog (Answer P) Gateway PyError α

section Release

/-- `(store.get_setting("kill_switch_enabled") or "1") == "1"`. -/
def Gateway.killSwitch (s : Gateway) : Bool :=
  match s.killSwitchEnabled with
  | none => true
  | some value => value = "" || value = "1"

/-- Whether the error text of a delete says that there was nothing to delete. -/
def isAbsent (stderr stdout : String) : Bool :=
  ["does not exist", "cannot find", "no such"].any fun token =>
    decide (token.toList <:+: (stderr ++ " " ++ stdout).toLower.toList)

/-- A successful delete deletes, and "no such table" is said only where there is none; after any
other answer the table may be gone or not. -/
def Answer.leavesNone (answer : Answer P) : Bool :=
  match answer.exit with
  | .done => true
  | .called stderr stdout _ => isAbsent stderr stdout || answer.took
  | _ => answer.took

/-- The gateway after a delete of one emergency table. -/
def Gateway.afterDelete (family : Family) (answer : Answer P) (s : Gateway) : Gateway :=
  if s.emergency family && answer.leavesNone then
    { s with
      emergency := Function.update s.emergency family false
      removals := ⟨family, s.confirmed, !s.killSwitch⟩ :: s.removals }
  else s

/-- `_record_emergency`. -/
def recordEmergency (reason : String) : GatewayProg P Unit :=
  Prog.update fun s => { s with note := reason }

/-- One round of the loop of `release_emergency_forward_deny`: why the table may still be there. -/
def releaseFamily (family : Family) : GatewayProg P (Option String) := do
  let answer ← Prog.ask
  Prog.update (Gateway.afterDelete family answer)
  match answer.exit with
  | .done => pure none
  | .called stderr stdout shown =>
    if isAbsent stderr stdout then pure none
    else pure (some (family.text ++ ": " ++ stripText (if stderr = "" then shown else stderr)))
  | .osError e => pure (some (family.text ++ ": " ++ e.text))
  | .other e => Prog.raise e

/-- The end of `release_emergency_forward_deny`. -/
def reportRelease (failed : List String) : GatewayProg P String :=
  if failed = [] then do
    recordEmergency ""
    pure ""
  else do
    let reason := "the segment enforcement is installed, but the emergency deny on forwarded " ++
      "traffic could not be removed, so segment clients may still have no network: " ++
      "; ".intercalate failed
    recordEmergency reason
    pure reason

/-- `release_emergency_forward_deny`. -/
def releaseEmergencyForwardDeny (setup : Setup P) : GatewayProg P String :=
  if setup.hasHost then do
    let ip ← releaseFamily .ip
    let ip6 ← releaseFamily .ip6
    reportRelease ([ip, ip6].filterMap id)
  else do
    recordEmergency ""
    pure ""

/-- `_release_emergency_deny`. -/
def releaseEmergencyDeny (setup : Setup P) : GatewayProg P String := do
  let released ← Prog.attempt (releaseEmergencyForwardDeny setup)
  let why := match released with
    | .ok why => why
    | .error e => "the segment enforcement is installed, but the emergency deny on forwarded " ++
        "traffic could not be removed, so segment clients may still have no network: " ++ e.shown
  let s ← Prog.read
  pure (if why = "" then s.note else why)

end Release

section Record

/-- The first half of `_record_enforcement`: only a confirmed result releases the deny, and a
release that did not take turns it into a failure. -/
def settleResult (setup : Setup P) (result : NetResult) : GatewayProg P NetResult :=
  if result.ok then do
    let held ← releaseEmergencyDeny setup
    pure (if held = "" then result
      else { ok := false, rendered := result.rendered, error := held })
  else pure result

/-- What `_record_enforcement` keeps of a result. -/
def Gateway.record (result : NetResult) (wanBlocked : Option Bool) (hasStore : Bool)
    (s : Gateway) : Gateway :=
  { s with
    status := if result.ok then .ok else .error
    wanBlocked := if result.ok then wanBlocked else none
    error := if result.ok then "" else
      if result.error = "" then "network operation failed" else result.error
    lastNetWarning := if !hasStore then s.lastNetWarning else
      if result.ok then result.warning else "" }

/-- `_record_enforcement`. -/
def recordEnforcement (setup : Setup P) (result : NetResult) (wanBlocked : Option Bool)
    (hasStore : Bool) : GatewayProg P NetResult := do
  let settled ← settleResult setup result
  Prog.update (Gateway.record settled wanBlocked hasStore)
  pure settled

/-- A method of the backend, with the plan it is handed. -/
inductive Method (P : Type) where
  | applyTproxy (plan : P)
  | applyGuard (plan : P)
  | teardown

def Method.name : Method P → String
  | .applyTproxy _ => "apply_tproxy"
  | .applyGuard _ => "apply_guard"
  | .teardown => "teardown"

/-- The result `_call_net` makes of what a method of the backend did. -/
def BackendExit.netResult (name : String) : BackendExit → NetResult
  | .returned result => result
  | .unusable => { ok := false, error := name ++ " returned no NetResult" }
  | .raised e => { ok := false, error := name ++ " raised: " ++ e.text }

/-- `_call_net`. -/
def callNet (setup : Setup P) (method : Method P) (wanBlocked : Option Bool)
    (hasStore : Bool) : GatewayProg P NetResult := do
  let answer ← Prog.ask
  let result := answer.backend.netResult method.name
  Prog.update fun s => { s with confirmed := s.confirmed || result.ok }
  recordEnforcement setup result wanBlocked hasStore

/-- `_refuse_enforcement`, and the other failures that are recorded without calling the backend. -/
def refuseEnforcement (setup : Setup P) (reason : String) (hasStore : Bool) :
    GatewayProg P NetResult :=
  recordEnforcement setup { ok := false, error := reason } none hasStore

end Record

section Operations

/-- A read of the store or of the supervisor, which may raise. -/
def readFact {α : Type} (fact : Gateway → α) : GatewayProg P α := do
  let answer ← Prog.ask
  match answer.exit with
  | .other e => Prog.raise e
  | _ => do
    let s ← Prog.read
    pure (fact s)

/-- `_enforcement_plan`. -/
def enforcementPlan : GatewayProg P (RenderExit P) := do
  let answer ← Prog.ask
  pure answer.render

section

variable (setup : Setup P) (hasStore : Bool)

/-- `apply_net`. -/
def applyNet : GatewayProg P NetResult :=
  if hasStore then do
    match ← enforcementPlan with
    | .plan plan => callNet setup (.applyTproxy plan) (some false) hasStore
    | .coverUnknown reason => refuseEnforcement setup reason hasStore
    | .raised e => Prog.raise e
  else callNet setup (.applyTproxy setup.settingsPlan) (some false) hasStore

/-- `_kill_switch_on`. -/
def killSwitchOn : GatewayProg P Bool :=
  if hasStore then readFact Gateway.killSwitch else pure false

/-- The guard of `stop_net`. -/
def stopGuard : GatewayProg P NetResult :=
  if setup.guards then do
    match ← enforcementPlan with
    | .plan plan => callNet setup (.applyGuard plan) (some true) hasStore
    | .coverUnknown reason => refuseEnforcement setup reason hasStore
    | .raised e => refuseEnforcement setup ("could not render the net plan: " ++ e.text) hasStore
  else refuseEnforcement setup "network backend cannot install fail-closed guard" hasStore

/-- `stop_net`. -/
def stopNet : GatewayProg P NetResult := do
  if ← killSwitchOn hasStore then stopGuard setup hasStore
  else callNet setup .teardown (some false) hasStore

/-- `_enforcement_mode`. -/
inductive Mode where
  | tproxy
  | guard
  | teardown

def idleMode : GatewayProg P Mode := do
  if ← killSwitchOn true then pure .guard else pure .teardown

def connectedMode : GatewayProg P Mode := do
  if ← readFact fun s => s.activeNodeId.any fun id => id ≠ "" then pure .tproxy else idleMode

def enforcementMode : GatewayProg P Mode := do
  if ← readFact Gateway.running then connectedMode else idleMode

/-- `sync_net`. -/
def syncNet : GatewayProg P NetResult := do
  match ← enforcementMode with
  | .tproxy => applyNet setup true
  | .guard => stopNet setup true
  | .teardown => stopNet setup true

/-- `sync_net_plan`. -/
def syncNetPlan (plan : P) : GatewayProg P NetResult := do
  match ← enforcementMode with
  | .tproxy => callNet setup (.applyTproxy plan) (some false) true
  | .guard =>
    if setup.guards then callNet setup (.applyGuard plan) (some true) true
    else refuseEnforcement setup "network backend cannot install fail-closed guard" true
  | .teardown => callNet setup .teardown (some false) true

/-- `boot_guard`. -/
def bootGuard : GatewayProg P NetResult := do
  if ← killSwitchOn true then stopNet setup true else pure { ok := true }

/-- Why a command of the install failed; an exception that is not caught there goes on. -/
def CommandExit.detail : CommandExit → GatewayProg P (Option String)
  | .done => pure none
  | .called stderr _ shown => pure (some (stripText (if stderr = "" then shown else stderr)))
  | .osError e => pure (some (stripText e.shown))
  | .other e => Prog.raise e

/-- `nft -f -` on the emergency script, which replaces both tables in one transaction. -/
def loadScript : GatewayProg P (Option String) := do
  let answer ← Prog.ask
  Prog.update fun s => if answer.took then { s with emergency := fun _ => true } else s
  answer.exit.detail

/-- `nft list table`. -/
def listTable : GatewayProg P (Option String) := do
  let answer ← Prog.ask
  answer.exit.detail

/-- The guarded commands of `install_emergency_forward_deny`. -/
def loadAndList : GatewayProg P (Option String) := do
  match ← loadScript with
  | some detail => pure (some detail)
  | none =>
    match ← listTable with
    | some detail => pure (some detail)
    | none => listTable

/-- `_disable_forwarding`. -/
def disableForwarding : GatewayProg P String := do
  let v4 ← Prog.ask
  let v6 ← Prog.ask
  let failed := (if v4.took then [] else ["/proc/sys/net/ipv4/ip_forward"]) ++
    (if v6.took then [] else ["/proc/sys/net/ipv6/conf/all/forwarding"])
  pure (if failed = [] then ""
    else "forwarding could not be turned off either (" ++ ", ".intercalate failed ++ ")")

/-- `install_emergency_forward_deny`. -/
def installEmergencyForwardDeny (why : String) : GatewayProg P String :=
  if setup.hasHost then do
    match ← loadAndList with
    | some detail => do
      let sysctl ← disableForwarding
      let reason := "the emergency deny on forwarded traffic could not be installed (" ++ detail ++
        "); " ++ (if sysctl = "" then "IPv4 and IPv6 forwarding were turned off instead, which " ++
          "the next host pass would undo" else sysctl) ++
        " — the enforcement it stands in for was refused because: " ++ why
      recordEmergency reason
      pure reason
    | none => do
      recordEmergency ("every forwarded packet is being dropped by an interface-independent " ++
        "emergency deny, because the panel's own segment enforcement could not be installed: " ++
        why ++ " — segment clients have no network until it can be, and traffic to this host " ++
        "(the panel, SSH, the segment's DHCP and DNS) is unaffected")
      pure ""
  else pure ""

/-- `enforcement_fallback`. -/
def enforcementFallback (result : NetResult) : GatewayProg P String :=
  if result.ok then do
    let _ ← releaseEmergencyForwardDeny setup
    pure ""
  else installEmergencyForwardDeny setup (if result.error = "" then
    "the panel could not install the segment enforcement, and gave no reason" else result.error)

/-- The end of `_hand_back_from_emergency_deny`, given what the sync did. -/
def handBackAfter (applied : NetResult) : GatewayProg P String :=
  if applied.ok then releaseEmergencyForwardDeny setup
  else pure ("forwarded traffic is still being dropped by the emergency deny, because the " ++
    "panel's own segment enforcement still could not be installed: " ++
    (if applied.error = "" then "no reason given" else applied.error))

/-- The result a sync that raised counts as. -/
def resultOrError : Except PyError NetResult → NetResult
  | .ok result => result
  | .error e => { ok := false, error := e.shown }

/-- `_hand_back_from_emergency_deny`. -/
def handBackFromEmergencyDeny : GatewayProg P String := do
  let s ← Prog.read
  if s.note = "" then pure ""
  else do
    let applied ← Prog.attempt (syncNet setup)
    handBackAfter setup (resultOrError applied)

end

end Operations

section Invariant

variable {setup : Setup P} {origin s : Gateway}

/-- A table was taken down after a confirmation, or with the kill switch off. -/
def Removal.Earned (removal : Removal) : Prop :=
  removal.confirmed = true ∨ removal.killSwitchOff = true

/-- What holds of the gateway between any two commands of an operation that found it as `origin`. -/
structure Sound (setup : Setup P) (origin s : Gateway) : Prop where
  /-- A status of "ok" means no emergency table. -/
  clear : s.status = .ok → ∀ family, s.emergency family = false
  /-- Every table that is gone was taken down, and rightly so. -/
  earned : ∃ new, s.removals = new ++ origin.removals ∧ (∀ removal ∈ new, removal.Earned) ∧
    ∀ family, origin.emergency family = true → s.emergency family = false →
      ∃ removal ∈ new, removal.family = family
  /-- Without a host there is no table. -/
  hostless : setup.hasHost = false → ∀ family, s.emergency family = false

/-- The emergency tables may be taken down. -/
def MayRelease (s : Gateway) : Prop := s.confirmed = true ∨ s.killSwitch = false

/-- What a result that was recorded, or that needs no record, says about the gateway. -/
structure Recorded (setup : Setup P) (origin : Gateway) (result : NetResult) (s : Gateway) :
    Prop where
  sound : Sound setup origin s
  granted : result.ok = true → MayRelease s
  refused : result.ok = false → s.status ≠ .ok

/-- A program that keeps the gateway sound wherever it stops. -/
def Keeps {α : Type} (setup : Setup P) (origin : Gateway) (m : GatewayProg P α) (s : Gateway)
    (Q : α → Gateway → Prop) : Prop :=
  Prog.Meets (fun _ => True) m s (Sound setup origin) (Sound setup origin) Q

theorem Sound.noted (h : Sound setup origin s) (reason : String) :
    Sound setup origin { s with note := reason } :=
  ⟨h.clear,h.earned,h.hostless⟩

theorem Sound.confirmedAs (h : Sound setup origin s) (confirmed : Bool) :
    Sound setup origin { s with confirmed := confirmed } :=
  ⟨h.clear,h.earned,h.hostless⟩

theorem afterDelete_emergency_le {family other : Family} {answer : Answer P}
    (h : s.emergency other=false) : (s.afterDelete family answer).emergency other=false := by
  unfold Gateway.afterDelete
  split
  · rcases eq_or_ne other family with rfl | hne
    · exact Function.update_self ..
    · exact (Function.update_of_ne hne ..).trans h
  · exact h

theorem afterDelete_emergency_self {family : Family} {answer : Answer P}
    (h : answer.leavesNone=true) : (s.afterDelete family answer).emergency family=false := by
  unfold Gateway.afterDelete
  rw [h,Bool.and_true]
  split
  · exact Function.update_self ..
  · next habs => exact Bool.eq_false_iff.mpr habs

theorem afterDelete_status (family : Family) (answer : Answer P) :
    (s.afterDelete family answer).status=s.status := by
  unfold Gateway.afterDelete
  split <;> rfl

theorem MayRelease.afterDelete (h : MayRelease s) (family : Family) (answer : Answer P) :
    MayRelease (s.afterDelete family answer) := by
  unfold Gateway.afterDelete
  split
  · exact h
  · exact h

section

variable (h : Sound setup origin s)

include h

section

variable (hmay : MayRelease s)

include hmay

theorem Sound.afterDelete (family : Family)
    (answer : Answer P) : Sound setup origin (s.afterDelete family answer) where
  clear := by
    rw [afterDelete_status]
    exact fun hok other => afterDelete_emergency_le (h.clear hok other)
  earned := by
    obtain ⟨new,hnew,hearned,htaken⟩ := h.earned
    by_cases hgone : (s.emergency family && answer.leavesNone)=true
    · refine ⟨⟨family,s.confirmed,!s.killSwitch⟩::new,?_,?_,?_⟩
      · rw [Gateway.afterDelete,if_pos hgone,hnew]
        rfl
      · intro removal hmem
        rcases List.mem_cons.mp hmem with rfl | hold
        · exact hmay.imp id fun hoff => by rw [hoff]; rfl
        · exact hearned removal hold
      · intro other hpre hafter
        by_cases hother : other=family
        · exact ⟨_,List.mem_cons_self,hother.symm⟩
        · rw [Gateway.afterDelete,if_pos hgone] at hafter
          obtain ⟨removal,hmem,hfamily⟩ :=
            htaken other hpre ((Function.update_of_ne hother ..).symm.trans hafter)
          exact ⟨removal,List.mem_cons_of_mem _ hmem,hfamily⟩
    · rw [Gateway.afterDelete,if_neg hgone]
      exact ⟨new,hnew,hearned,htaken⟩
  hostless := fun hhost other => afterDelete_emergency_le (h.hostless hhost other)

/-- A family whose release did not fail is handed back. -/
theorem releaseFamily_keeps (family : Family) :
    Keeps setup origin (releaseFamily family) s fun failed t => Sound setup origin t ∧ MayRelease t ∧
      (∀ other, s.emergency other=false → t.emergency other=false) ∧
      (failed=none → t.emergency family=false) := by
  refine .ask_bind h fun answer _ => .update_bind ?_
  have hsound := h.afterDelete hmay family answer
  have hgranted := hmay.afterDelete family answer
  have hless : ∀ other, s.emergency other=false →
      (s.afterDelete family answer).emergency other=false :=
    fun _ hother => afterDelete_emergency_le hother
  have hgone (hnone : answer.leavesNone=true) :
      (s.afterDelete family answer).emergency family=false := afterDelete_emergency_self hnone
  unfold Answer.leavesNone at hgone
  cases hexit : answer.exit with
  | done =>
    rw [hexit] at hgone
    exact .pure ⟨hsound,hgranted,hless,fun _ => hgone rfl⟩
  | called stderr stdout shown =>
    rw [hexit] at hgone
    dsimp only at hgone ⊢
    split
    · next habs =>
      exact .pure ⟨hsound,hgranted,hless,fun _ => hgone (by rw [habs]; rfl)⟩
    · exact .pure ⟨hsound,hgranted,hless,nofun⟩
  | osError e => exact .pure ⟨hsound,hgranted,hless,nofun⟩
  | other e => exact .raise hsound

theorem reportRelease_keeps {failed : List String}
    (hgone : failed=[] → ∀ family, s.emergency family=false) :
    Keeps setup origin (reportRelease failed) s fun why t => Sound setup origin t ∧ MayRelease t ∧
      (why = "" → ∀ family, t.emergency family=false) := by
  unfold reportRelease
  split
  · next hnone =>
    exact .update_bind (.pure ⟨h.noted _,hmay,fun _ => hgone hnone⟩)
  · refine .update_bind (.pure ⟨h.noted _,hmay,fun hempty => ?_⟩)
    simp at hempty

/-- A release that is granted keeps the gateway sound; one that reports success leaves no table. -/
theorem release_keeps :
    Keeps setup origin (releaseEmergencyForwardDeny setup) s fun why t => Sound setup origin t ∧ MayRelease t ∧
      (why = "" → ∀ family, t.emergency family=false) := by
  unfold releaseEmergencyForwardDeny
  split
  · refine .bind (releaseFamily_keeps h hmay .ip) ?_
    rintro ip t ⟨hsound,hgranted,-,hip⟩
    refine .bind (releaseFamily_keeps hsound hgranted .ip6) ?_
    rintro ip6 u ⟨hsound,hgranted,hless,hip6⟩
    refine reportRelease_keeps hsound hgranted fun hfailed => ?_
    obtain ⟨rfl,rfl⟩ : ip=none ∧ ip6=none := by
      cases ip <;> cases ip6 <;> simp_all
    intro family
    cases family with
    | ip => exact hless .ip (hip rfl)
    | ip6 => exact hip6 rfl
  · next hhost =>
    have hnone := h.hostless (Bool.eq_false_iff.mpr hhost)
    exact .update_bind (.pure ⟨h.noted _,hmay,fun _ => hnone⟩)

/-- The release where the outcome is recorded reports every table that may be left. -/
theorem releaseEmergencyDeny_keeps :
    Keeps setup origin (releaseEmergencyDeny setup) s fun held t => Sound setup origin t ∧
      (held = "" → MayRelease t ∧ ∀ family, t.emergency family=false) := by
  refine .seq ((release_keeps h hmay).attempt ?_ ?_)
  · rintro why t ⟨hsound,hgranted,hgone⟩
    refine .read_bind (.pure ⟨hsound,fun hheld => ⟨hgranted,hgone ?_⟩⟩)
    by_contra hne
    exact hne ((if_neg hne).symm.trans hheld)
  · refine fun e t hsound => .read_bind (.pure ⟨hsound,fun hheld => ?_⟩)
    simp at hheld

end

/-- Recording a result that the backend confirmed if it is a success. -/
theorem recordEnforcement_keeps {result : NetResult}
    (hmay : result.ok=true → MayRelease s) (wanBlocked : Option Bool) (hasStore : Bool) :
    Keeps setup origin (recordEnforcement setup result wanBlocked hasStore) s (Recorded setup origin) := by
  have hsettle : Keeps setup origin (settleResult setup result) s fun settled t => Sound setup origin t ∧
      (settled.ok=true → MayRelease t ∧ ∀ family, t.emergency family=false) := by
    unfold settleResult
    split
    · next hok =>
      refine .bind (releaseEmergencyDeny_keeps h (hmay hok)) ?_
      rintro held t ⟨hsound,hreleased⟩
      refine .pure ⟨hsound,fun hsettled => hreleased ?_⟩
      by_contra hheld
      rw [if_neg hheld] at hsettled
      cases hsettled
    · next hfailed => exact .pure ⟨h,fun hok => absurd hok hfailed⟩
  refine .bind hsettle ?_
  rintro settled t ⟨hsound,hsettled⟩
  refine .update_bind (.pure ⟨⟨fun hstatus => ?_,hsound.earned,
    hsound.hostless⟩, fun hok => (hsettled hok).1,fun hfailed => ?_⟩)
  · by_cases hok : settled.ok=true
    · exact (hsettled hok).2
    · simp [Gateway.record,hok] at hstatus
  · simp [Gateway.record,hfailed]

theorem callNet_keeps (method : Method P) (wanBlocked : Option Bool)
    (hasStore : Bool) : Keeps setup origin (callNet setup method wanBlocked hasStore) s (Recorded setup origin) := by
  refine .ask_bind h fun answer _ => .update_bind ?_
  refine recordEnforcement_keeps (h.confirmedAs _) (fun hok => .inl ?_) wanBlocked hasStore
  rw [hok,Bool.or_true]

theorem refuseEnforcement_keeps (reason : String) (hasStore : Bool) :
    Keeps setup origin (refuseEnforcement setup reason hasStore) s (Recorded setup origin) := by
  have hfailed : ({ ok := false, error := reason } : NetResult).ok=true → MayRelease s :=
    nofun
  exact recordEnforcement_keeps h hfailed none hasStore

theorem readFact_keeps {α : Type} (fact : Gateway → α) :
    Keeps setup origin (readFact fact : GatewayProg P α) s fun value t => value=fact s ∧ t=s := by
  refine .ask_bind h fun answer _ => ?_
  split
  · exact .raise h
  · exact .read_bind (.pure ⟨rfl,rfl⟩)

theorem enforcementPlan_keeps :
    Keeps setup origin (enforcementPlan : GatewayProg P (RenderExit P)) s fun _ t => t=s :=
  .ask_bind h fun _ _ => .pure rfl

/-- An apply records what it came to. -/
theorem applyNet_keeps (hasStore : Bool) :
    Keeps setup origin (applyNet setup hasStore) s (Recorded setup origin) := by
  unfold applyNet
  split
  · refine .bind (enforcementPlan_keeps h) ?_
    rintro rendered t rfl
    cases rendered with
    | plan plan => exact callNet_keeps h _ _ _
    | coverUnknown reason => exact refuseEnforcement_keeps h reason _
    | raised e => exact .raise h
  · exact callNet_keeps h _ _ _

/-- The kill switch is off when it reads so, or when there is no store. -/
theorem killSwitchOn_keeps (hasStore : Bool) :
    Keeps setup origin (killSwitchOn hasStore : GatewayProg P Bool) s fun on t =>
      t=s ∧ (hasStore=true → on=s.killSwitch) := by
  unfold killSwitchOn
  split
  · exact (readFact_keeps h _).value fun _ _ hread => ⟨hread.2,fun _ => hread.1⟩
  · next hnone => exact .pure ⟨rfl,fun hstore => absurd hstore hnone⟩

theorem stopNet_keeps (hasStore : Bool) :
    Keeps setup origin (stopNet setup hasStore) s (Recorded setup origin) := by
  refine .bind (killSwitchOn_keeps h hasStore) ?_
  rintro on t ⟨rfl,-⟩
  split
  · unfold stopGuard
    split
    · refine .bind (enforcementPlan_keeps h) ?_
      rintro rendered u rfl
      cases rendered with
      | plan plan => exact callNet_keeps h _ _ _
      | coverUnknown reason => exact refuseEnforcement_keeps h reason _
      | raised e => exact refuseEnforcement_keeps h _ _
    · exact refuseEnforcement_keeps h _ _
  · exact callNet_keeps h _ _ _

theorem enforcementMode_keeps :
    Keeps setup origin (enforcementMode : GatewayProg P Mode) s fun _ t => t=s := by
  have hidle : Keeps setup origin (idleMode : GatewayProg P Mode) s fun _ t => t=s := by
    refine .bind (killSwitchOn_keeps h true) ?_
    rintro on t ⟨rfl,-⟩
    split <;> exact .pure rfl
  refine .bind (readFact_keeps h _) ?_
  rintro running t ⟨-,rfl⟩
  split
  · refine .bind (readFact_keeps h _) ?_
    rintro active u ⟨-,rfl⟩
    split
    · exact .pure rfl
    · exact hidle
  · exact hidle

theorem syncNet_keeps : Keeps setup origin (syncNet setup) s (Recorded setup origin) := by
  refine .bind (enforcementMode_keeps h) ?_
  rintro mode t rfl
  cases mode with
  | tproxy => exact applyNet_keeps h true
  | guard => exact stopNet_keeps h true
  | teardown => exact stopNet_keeps h true

theorem syncNetPlan_keeps (plan : P) :
    Keeps setup origin (syncNetPlan setup plan) s (Recorded setup origin) := by
  refine .bind (enforcementMode_keeps h) ?_
  rintro mode t rfl
  cases mode with
  | tproxy => exact callNet_keeps h _ _ _
  | guard =>
    dsimp only
    split
    · exact callNet_keeps h _ _ _
    · exact refuseEnforcement_keeps h _ _
  | teardown => exact callNet_keeps h _ _ _

theorem bootGuard_keeps : Keeps setup origin (bootGuard setup) s (Recorded setup origin) := by
  refine .bind (killSwitchOn_keeps h true) ?_
  rintro on t ⟨rfl,hon⟩
  split
  · exact stopNet_keeps h true
  · next hoff =>
    have hswitch : t.killSwitch=false := (hon rfl).symm.trans (Bool.eq_false_iff.mpr hoff)
    exact .pure ⟨h,fun _ => .inr hswitch,nofun⟩

/-- The deny goes in while enforcement is not known to stand. -/
theorem install_keeps (hstatus : s.status≠.ok) (why : String) :
    Keeps setup origin (installEmergencyForwardDeny setup why) s fun _ t => Sound setup origin t := by
  have hdetail {t : Gateway} (ht : Sound setup origin t) (exit : CommandExit) :
      Keeps setup origin (exit.detail : GatewayProg P (Option String)) t fun _ u => Sound setup origin u := by
    cases exit with
    | done => exact .pure ht
    | called stderr stdout shown => exact .pure ht
    | osError e => exact .pure ht
    | other e => exact .raise ht
  have hlist {t : Gateway} (ht : Sound setup origin t) :
      Keeps setup origin (listTable : GatewayProg P (Option String)) t fun _ u => Sound setup origin u :=
    .ask_bind ht fun answer _ => hdetail ht answer.exit
  unfold installEmergencyForwardDeny
  split
  · next hhost =>
    have hload : Keeps setup origin (loadScript : GatewayProg P (Option String)) s
        fun _ t => Sound setup origin t := by
      refine .ask_bind h fun answer _ => .update_bind (hdetail ?_ _)
      split
      · obtain ⟨new,hnew,hearned,-⟩ := h.earned
        exact ⟨fun hok => absurd hok hstatus,⟨new,hnew,hearned,nofun⟩,
          fun hnone => absurd hhost (by simp [hnone])⟩
      · exact h
    have hboth : Keeps setup origin (loadAndList : GatewayProg P (Option String)) s
        fun _ t => Sound setup origin t := by
      refine .bind hload fun loaded t ht => ?_
      cases loaded with
      | some detail => exact .pure ht
      | none =>
        refine .bind (hlist ht) fun listed u hu => ?_
        cases listed with
        | some detail => exact .pure hu
        | none => exact hlist hu
    refine .bind hboth fun failed t ht => ?_
    cases failed with
    | none => exact .update_bind (.pure (ht.noted _))
    | some detail =>
      refine .bind (P := fun _ u => Sound setup origin u)
        (.ask_bind ht fun _ _ => .ask_bind ht fun _ _ => .pure ht) ?_
      exact fun sysctl u hu => .update_bind (.pure (hu.noted _))
  · exact .pure h

end

theorem enforcementFallback_keeps {result : NetResult} (h : Recorded setup origin result s) :
    Keeps setup origin (enforcementFallback setup result) s fun _ t => Sound setup origin t := by
  unfold enforcementFallback
  split
  · next hok =>
    exact .bind (release_keeps h.sound (h.granted hok)) fun _ _ ht =>
      .pure ht.1
  · next hfailed => exact install_keeps h.sound (h.refused (Bool.eq_false_iff.mpr hfailed)) _

/-- A hand-back keeps the account, whatever fails on its way. -/
theorem handBack_keeps (h : Sound setup origin s) :
    Keeps setup origin (handBackFromEmergencyDeny setup) s fun _ t => Sound setup origin t := by
  refine .read_bind ?_
  split
  · exact .pure h
  · refine .bind ((syncNet_keeps h).attempt
      (W := fun applied t => Sound setup origin t ∧ ((resultOrError applied).ok=true → MayRelease t))
      (fun _ _ ht => ⟨ht.sound,ht.granted⟩) fun _ _ ht => ⟨ht,nofun⟩) ?_
    rintro applied t ⟨hsound,hgranted⟩
    unfold handBackAfter
    split
    · next hok => exact (release_keeps hsound (hgranted hok)).value fun _ _ hu => hu.1
    · exact .pure hsound

end Invariant

section Runs

/-- The panel's attempts at enforcement. -/
inductive Enforcement (P : Type) where
  | apply (hasStore : Bool)
  | stop (hasStore : Bool)
  | sync
  | syncPlan (plan : P)
  | bootGuard

/-- The function behind an attempt. -/
def Enforcement.program (setup : Setup P) : Enforcement P → GatewayProg P NetResult
  | .apply hasStore => applyNet setup hasStore
  | .stop hasStore => stopNet setup hasStore
  | .sync => syncNet setup
  | .syncPlan plan => syncNetPlan setup plan
  | .bootGuard => EmergencyDeny.bootGuard setup

/-- What happens to the gateway. -/
inductive Event (P : Type) where
  | enforce (attempt : Enforcement P)
  /-- An attempt whose outcome goes to `enforcement_fallback`: a failed one installs the emergency
  deny. -/
  | fallback (attempt : Enforcement P)
  | handBack
  /-- A new process of the panel: what the old one had in memory is gone. -/
  | restart
  /-- The rest of the panel changes a setting, the active node or xray. -/
  | elsewhere (killSwitchEnabled activeNodeId : Option String) (running : Bool)

/-- A process that has confirmed nothing yet. -/
def Gateway.restarted (s : Gateway) : Gateway :=
  { s with status := .unknown, error := "", wanBlocked := none, note := "", lastNetWarning := "" }

def Event.program (setup : Setup P) : Event P → GatewayProg P Unit
  | .enforce attempt => do let _ ← attempt.program setup
  | .fallback attempt => do
    let result ← attempt.program setup
    let _ ← enforcementFallback setup result
  | .handBack => do let _ ← handBackFromEmergencyDeny setup
  | .restart => Prog.update Gateway.restarted
  | .elsewhere killSwitchEnabled activeNodeId running => Prog.update fun s =>
    { s with killSwitchEnabled, activeNodeId, running }

/-- One event with the answers it gets. Where they run out the gateway stands in the middle of the
operation. -/
def step (setup : Setup P) (s : Gateway) (event : Event P × List (Answer P)) : Gateway :=
  (event.1.program setup event.2 { s with confirmed := false }).state

variable {setup : Setup P} {origin s : Gateway}

theorem Keeps.sound {α : Type} {m : GatewayProg P α} {Q : α → Gateway → Prop}
    (hm : Keeps setup origin m s Q) (hQ : ∀ value t, Q value t → Sound setup origin t)
    (answers : List (Answer P)) : Sound setup origin (m answers s).state := by
  obtain ⟨-,hend⟩ := hm answers fun _ _ => trivial
  cases houtcome : (m answers s).outcome with
  | done value =>
    rw [houtcome] at hend
    exact hQ value _ hend
  | raised e =>
    rw [houtcome] at hend
    exact hend
  | killed =>
    rw [houtcome] at hend
    exact hend

section

variable (h : Sound setup origin s)

include h

theorem Enforcement.program_keeps (attempt : Enforcement P) :
    Keeps setup origin (attempt.program setup) s (Recorded setup origin) := by
  cases attempt with
  | apply hasStore => exact applyNet_keeps h hasStore
  | stop hasStore => exact stopNet_keeps h hasStore
  | sync => exact syncNet_keeps h
  | syncPlan plan => exact syncNetPlan_keeps h plan
  | bootGuard => exact bootGuard_keeps h

theorem Event.program_keeps (event : Event P) :
    Keeps setup origin (event.program setup) s fun _ t => Sound setup origin t := by
  cases event with
  | enforce attempt =>
    exact .bind (attempt.program_keeps h) fun _ _ ht => .pure ht.sound
  | fallback attempt =>
    refine .bind (attempt.program_keeps h) fun _ _ ht => ?_
    exact .bind (enforcementFallback_keeps ht) fun _ _ hu => .pure hu
  | handBack => exact .bind (handBack_keeps h) fun _ _ ht => .pure ht
  | restart =>
    exact .update ⟨nofun,h.earned,h.hostless⟩
  | elsewhere killSwitchEnabled activeNodeId running =>
    exact .update ⟨h.clear,h.earned,h.hostless⟩

theorem Sound.settled : Sound setup s s :=
  ⟨h.clear,⟨[],rfl,nofun,fun _ hup hdown =>
    (nomatch hup.symm.trans hdown)⟩, h.hostless⟩

end

/-- Every event keeps the account of the deny. -/
theorem step_sound (h : Sound setup s s) (event : Event P × List (Answer P)) :
    Sound setup s (step setup s event) :=
  (event.1.program_keeps (h.confirmedAs false)).sound (fun _ _ ht => ht) event.2

/-- The gateway a process finds when it starts: any store, any tables in the kernel. -/
def started (killSwitchEnabled activeNodeId : Option String) (running : Bool)
    (emergency : Family → Bool) : Gateway where
  killSwitchEnabled := killSwitchEnabled
  activeNodeId := activeNodeId
  running := running
  emergency := emergency
  status := .unknown
  error := ""
  wanBlocked := none
  note := ""
  lastNetWarning := ""
  confirmed := false
  removals := []

theorem started_sound {killSwitchEnabled activeNodeId : Option String} {running : Bool}
    {emergency : Family → Bool} (hhost : setup.hasHost=false → ∀ family, emergency family=false) :
    Sound setup (started killSwitchEnabled activeNodeId running emergency)
      (started killSwitchEnabled activeNodeId running emergency) where
  clear hok := nomatch hok
  earned := ⟨[],rfl,nofun,fun _ hup hdown =>
    (nomatch hup.symm.trans hdown)⟩
  hostless := hhost

/-- After every run of enforcement attempts, fallbacks, hand-backs and restarts, cut anywhere: with
a status of "ok" no emergency table is on the host; and an event, also cut anywhere, that leaves an
emergency table down took it down after the backend had confirmed the panel's own enforcement or
teardown in that event, or with the kill switch off. -/
theorem emergency_deny_is_handed_back {killSwitchEnabled activeNodeId : Option String}
    {running : Bool} {emergency : Family → Bool} {events : List (Event P × List (Answer P))}
    (hhost : setup.hasHost = false → ∀ family, emergency family = false) :
    let s := run (step setup) (started killSwitchEnabled activeNodeId running emergency) events
    (s.status = .ok → ∀ family, s.emergency family = false) ∧
      ∀ event family, s.emergency family = true → (step setup s event).emergency family = false →
        ∃ new, (step setup s event).removals = new ++ s.removals ∧
          ∃ removal ∈ new, removal.family = family ∧
            (removal.confirmed = true ∨ removal.killSwitchOff = true) := by
  intro s
  have hend : Sound setup s s := run_keeps (I := fun t => Sound setup t t)
    (fun _ event h => (step_sound h event).settled) (started_sound hhost)
  refine ⟨hend.clear,fun event family hup hdown => ?_⟩
  obtain ⟨new,hnew,hearned,htaken⟩ := (step_sound hend event).earned
  obtain ⟨removal,hmem,hfamily⟩ := htaken family hup hdown
  exact ⟨new,hnew,removal,hmem,hfamily,hearned removal hmem⟩

end Runs

section Samples

/-- The panel's backend on a host. -/
def hostSetup : Setup Unit := ⟨true, true, ()⟩

/-- An answer of a host on which everything works. -/
def smooth : Answer Unit := ⟨true, .done, .returned { ok := true }, .plan ()⟩

/-- A boot on which the plan cannot be rendered, and a new process after it. -/
def deniedRun : List (Event Unit × List (Answer Unit)) :=
  [(.fallback .bootGuard, [smooth, smooth, ⟨true, .done, .unusable, .coverUnknown "no answer"⟩,
      smooth, smooth, smooth]),
   (.restart, [])]

/-- An apply on which everything works. -/
def smoothApply : Event Unit × List (Answer Unit) := (.enforce (.apply true), List.replicate 4 smooth)

/-- The boot puts the emergency deny up, and the apply, which ends in "ok", takes it down. -/
theorem emergency_deny_is_handed_back_sample :
    let s := run (step hostSetup) (started none none false fun _ => false) deniedRun
    let t := step hostSetup s smoothApply
    s.emergency .ip = true ∧ t.status = .ok ∧ t.emergency .ip = false ∧
      ∃ new, t.removals = new ++ s.removals ∧ ∃ removal ∈ new, removal.family = .ip ∧
        (removal.confirmed = true ∨ removal.killSwitchOff = true) := by
  intro s t
  have hup : s.emergency .ip=true := by decide +kernel
  have hdown : t.status = .ok ∧ t.emergency .ip=false := by decide +kernel
  have hhost : hostSetup.hasHost=false → ∀ _ : Family, false=false := fun _ _ => rfl
  exact ⟨hup,hdown.1,hdown.2, (emergency_deny_is_handed_back hhost).2 smoothApply .ip hup hdown.2⟩

end Samples

end PiGwPanel.EmergencyDeny
