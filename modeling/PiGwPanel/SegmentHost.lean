import PiGwPanel.DurableRecords

/-!
# The host as the provisioning commands see it

The devices on the host and who put them there, the addresses that the panel's
own `ip addr replace` put up, and the interfaces the installed ruleset names.
A question that is answered is answered truthfully; every command may fail, and
a command that fails may still have taken effect. Beside its state the host keeps
what was deleted on it and which devices of others a creation did not see.
-/

namespace PiGwPanel.SegmentHost

open AnsweredProgram DurableRecords Prog

/-- Who put a device on the host. -/
inductive Origin where
  | panel
  | other
  deriving DecidableEq, Repr

/-- An interface and an address on it. -/
abbrev Pair := String × String

instance lawfulPair : LawfulBEq Pair := inferInstance

/-- The part of the host that provisioning reads and changes. -/
structure Host where
  /-- The devices that exist. -/
  links : String → Option Origin
  /-- Addresses the panel's `ip addr replace` put up and that are still there. -/
  addrs : List Pair
  /-- Interfaces named by the ruleset installed last. -/
  ruleset : List String
  /-- Every `ip link delete` issued, with what stood under the name. -/
  deleted : List (String × Option Origin)
  /-- Devices of others whose probe in the create step stayed unanswered. -/
  unseen : List String
  /-- Interfaces that were addressed or raised. -/
  touched : List String

/-- Programs that issue host commands. -/
abbrev HostProg (α : Type) := Prog Answer Host Raised α

/-- A device appears, created by the panel. -/
def Host.createLink (host : Host) (name : String) : Host :=
  { host with links := Function.update host.links name (some .panel) }

/-- A device disappears, and the addresses on it with it. -/
def Host.removeLink (host : Host) (name : String) : Host :=
  { host with
    links := Function.update host.links name none
    addrs := host.addrs.filter fun pair => pair.1 ≠ name }

/-- A deletion is issued for whatever stands under a name. -/
def Host.logDelete (host : Host) (name : String) : Host :=
  { host with deleted := (name, host.links name) :: host.deleted }

/-- An address goes up on an interface. -/
def Host.carry (host : Host) (pair : Pair) : Host :=
  { host with addrs := pair :: host.addrs, touched := pair.1 :: host.touched }

/-- An address comes off an interface. -/
def Host.drop (host : Host) (pair : Pair) : Host :=
  { host with addrs := host.addrs.filter fun other => other ≠ pair }

/-- An interface is brought up. -/
def Host.lift (host : Host) (name : String) : Host :=
  { host with touched := name :: host.touched }

/-- Whether a command took effect. -/
def Answer.effect (reply : Answer) : Bool := reply.ran && reply.took

/-- The end of a command: it returns, or raises what the runner raises. -/
def finish (ok : Bool) (reply : Answer) : HostProg Unit :=
  if ok then pure ()
  else Prog.raise (if reply.ran then .calledProcessError else .osError)

/-- `_probe_link`: `ip link show`. -/
def probeLink (name : String) : HostProg LinkState := do
  let reply ← Prog.ask
  let host ← Prog.read
  pure (if reply.said then (if (host.links name).isSome then .present else .absent) else .unknown)

/-- `ip link add`, which fails when the device exists. -/
def linkAdd (name : String) : HostProg Unit := do
  let reply ← Prog.ask
  let host ← Prog.read
  let made := Answer.effect reply && (host.links name).isNone
  Prog.update fun h => if made then h.createLink name else h
  finish (made && reply.said) reply

/-- `ip link delete`, which fails when there is no such device. -/
def linkDelete (name : String) : HostProg Unit := do
  let reply ← Prog.ask
  let host ← Prog.read
  let gone := Answer.effect reply && (host.links name).isSome
  Prog.update fun h => if gone then (h.logDelete name).removeLink name else h.logDelete name
  finish (gone && reply.said) reply

/-- `ip link set .. up`. -/
def linkUp (name : String) : HostProg Unit := do
  let reply ← Prog.ask
  let host ← Prog.read
  let raised := Answer.effect reply && (host.links name).isSome
  Prog.update fun h => if raised then h.lift name else h
  finish (raised && reply.said) reply

/-- `ip addr replace`, which needs the device. -/
def addrReplace (pair : Pair) : HostProg Unit := do
  let reply ← Prog.ask
  let host ← Prog.read
  let put := Answer.effect reply && (host.links pair.1).isSome
  Prog.update fun h => if put then h.carry pair else h
  finish (put && reply.said) reply

/-- `ip addr del`. -/
def addrDel (pair : Pair) : HostProg Unit := do
  let reply ← Prog.ask
  let gone := Answer.effect reply
  Prog.update fun h => if gone then h.drop pair else h
  finish (gone && reply.said) reply

/-- `_probe_addr`: `ip addr show`; the same address may also have been put there by others. -/
def probeAddr (pair : Pair) : HostProg LinkState := do
  let reply ← Prog.ask
  let host ← Prog.read
  pure (if reply.said then (if pair ∈ host.addrs ∨ reply.took then .present else .absent)
    else .unknown)

/-- A step that touches neither the records nor the modelled part of the host, and may raise. -/
def outside {σ : Type} : Prog Answer σ Raised Unit := do
  let reply ← Prog.ask
  if reply.said then pure () else Prog.raise .osError

section Specs

variable {A : Answer → Prop} {host : Host} {name : String} {pair : Pair} {E : Host → Prop}

/-- A command changes the host or not, and succeeds only where it does. -/
theorem command_meets {took : Bool} {reply : Answer} {f g : Host → Host} {K : Host → Prop} :
    Meets A (do
      Prog.update fun h => if took then f h else g h
      finish (took && reply.said) reply) host K
      (fun t => t=g host ∨ took=true ∧ t=f host) fun _ t => took=true ∧ t=f host := by
  refine .update_bind ?_
  cases took with
  | false => exact .raise (.inl rfl)
  | true =>
    cases hsaid : reply.said with
    | false => exact .raise (.inr ⟨rfl,rfl⟩)
    | true => exact .pure ⟨rfl,rfl⟩

theorem probeLink_meets : Meets A (probeLink name) host (fun t => t=host) E
    fun state t => t=host ∧ (state = .absent → host.links name=none) ∧
      (state = .present → host.links name≠none) := by
  refine .ask_bind rfl fun reply _ => .read_bind (.pure ⟨rfl,?_,?_⟩)
  · intro h
    split_ifs at h with _ hsome
    exact Option.not_isSome_iff_eq_none.mp hsome
  · intro h
    split_ifs at h with _ hsome
    exact Option.isSome_iff_ne_none.mp hsome

theorem linkAdd_meets : Meets A (linkAdd name) host (fun t => t=host)
    (fun t => t=host ∨ (host.links name=none ∧ t=host.createLink name))
    fun _ t => host.links name=none ∧ t=host.createLink name := by
  have hnone {reply : Answer} (h : (Answer.effect reply && (host.links name).isNone)=true) :
      host.links name=none := Option.isNone_iff_eq_none.mp (Bool.and_eq_true_iff.mp h).2
  refine .ask_bind rfl fun reply _ => .read_bind (command_meets.mono (fun _ h => h) ?_ ?_)
  · exact fun _ ht => ht.imp id fun h => ⟨hnone h.1,h.2⟩
  · exact fun _ _ h => ⟨hnone h.1,h.2⟩

theorem linkDelete_meets : Meets A (linkDelete name) host (fun t => t=host)
    (fun t => t=host.logDelete name ∨ t=(host.logDelete name).removeLink name)
    fun _ t => t=(host.logDelete name).removeLink name := by
  refine .ask_bind rfl fun reply _ => .read_bind (command_meets.mono (fun _ h => h) ?_ ?_)
  · exact fun _ ht => ht.imp id And.right
  · exact fun _ _ => And.right

theorem linkUp_meets : Meets A (linkUp name) host (fun t => t=host)
    (fun t => t=host ∨ t=host.lift name) fun _ t => t=host.lift name := by
  refine .ask_bind rfl fun reply _ => .read_bind (command_meets.mono (fun _ h => h) ?_ ?_)
  · exact fun _ ht => ht.imp id And.right
  · exact fun _ _ => And.right

theorem addrReplace_meets : Meets A (addrReplace pair) host (fun t => t=host)
    (fun t => t=host ∨ (host.links pair.1≠none ∧ t=host.carry pair))
    fun _ t => host.links pair.1≠none ∧ t=host.carry pair := by
  have hsome {reply : Answer} (h : (Answer.effect reply && (host.links pair.1).isSome)=true) :
      host.links pair.1≠none := Option.isSome_iff_ne_none.mp (Bool.and_eq_true_iff.mp h).2
  refine .ask_bind rfl fun reply _ => .read_bind (command_meets.mono (fun _ h => h) ?_ ?_)
  · exact fun _ ht => ht.imp id fun h => ⟨hsome h.1,h.2⟩
  · exact fun _ _ h => ⟨hsome h.1,h.2⟩

theorem addrDel_meets : Meets A (addrDel pair) host (fun t => t=host)
    (fun t => t=host ∨ t=host.drop pair) fun _ t => t=host.drop pair := by
  refine .ask_bind rfl fun reply _ => command_meets.mono (fun _ h => h) ?_ ?_
  · exact fun _ ht => ht.imp id And.right
  · exact fun _ _ => And.right

theorem probeAddr_meets : Meets A (probeAddr pair) host (fun t => t=host) E
    fun state t => t=host ∧ (state = .absent → pair∉host.addrs) := by
  refine .ask_bind rfl fun reply _ => .read_bind (.pure ⟨rfl,fun h => ?_⟩)
  split_ifs at h with _ hthere
  exact fun hmem => hthere (.inl hmem)

theorem outside_meets {σ : Type} {s : σ} : Meets A (outside : Prog Answer σ Raised Unit) s
    (fun t => t=s) (fun t => t=s) fun _ t => t=s := by
  refine .ask_bind rfl fun reply _ => ?_
  cases h : reply.said with
  | true => exact .pure rfl
  | false => exact .raise rfl

end Specs

end PiGwPanel.SegmentHost
