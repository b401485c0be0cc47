import Mathlib.Data.BitVec

/-!
# Packet filter tables and what they do with a packet

Tables of chains hooked into a packet's path, over addresses of any width. A
rule whose conditions all hold gives its verdict and ends its chain, except for
a counter, which counts and goes on. A packet handed to a local socket before
routing never reaches the forward hook.
-/

namespace PiGwPanel.PacketFilter

/-- An address range. -/
structure Net (w : ℕ) where
  base : BitVec w
  len : ℕ
  deriving DecidableEq, Repr

/-- The range covers the address: both agree on the leading `len` bits. -/
def Net.covers {w : ℕ} (n : Net w) (a : BitVec w) : Bool :=
  a.toNat / 2 ^ (w - n.len) = n.base.toNat / 2 ^ (w - n.len)

/-- Transport protocol of a packet. -/
inductive L4 where
  | tcp
  | udp
  | other (number : ℕ)
  deriving DecidableEq, Repr

/-- What the filter sees of a packet. -/
structure Packet (w : ℕ) where
  (iif oif : String)
  (saddr daddr : BitVec w)
  l4proto : L4
  (dport mark : ℕ)
  /-- Routing delivers the packet to this host. -/
  deliveredLocally : Bool

/-- One condition of a rule. -/
inductive Match (w : ℕ) where
  | iifname (names : List String)
  | oifname (name : String)
  | saddr (nets : List (Net w))
  | daddr (nets : List (Net w))
  | daddrNot (nets : List (Net w))
  | mark (mark : ℕ)
  | l4proto (protos : List L4)
  | udpDport (ports : List ℕ)
  deriving DecidableEq, Repr

/-- The condition holds of the packet. -/
def Match.holds {w : ℕ} (p : Packet w) : Match w → Bool
  | .iifname names => p.iif ∈ names
  | .oifname name => p.oif = name
  | .saddr nets => nets.any fun n => n.covers p.saddr
  | .daddr nets => nets.any fun n => n.covers p.daddr
  | .daddrNot nets => !nets.any fun n => n.covers p.daddr
  | .mark value => p.mark = value
  | .l4proto protos => p.l4proto ∈ protos
  | .udpDport ports => p.l4proto = .udp && p.dport ∈ ports

/-- What a rule does. -/
inductive Statement where
  | ret
  | drop
  /-- Mark the packet and hand it to the local socket on `port`. -/
  | tproxy (fwmark port : ℕ)
  | masquerade
  | count (counter : String)
  deriving DecidableEq, Repr

/-- A rule: conditions, then a statement. -/
structure Rule (w : ℕ) where
  conds : List (Match w)
  stmt : Statement
  deriving DecidableEq, Repr

/-- Where a chain is hooked in. -/
inductive Hook where
  | prerouting
  | forward
  | postrouting
  deriving DecidableEq, Repr

/-- A base chain with policy accept. -/
structure Chain (w : ℕ) where
  (name type : String)
  hook : Hook
  priority : String
  rules : List (Rule w)
  deriving DecidableEq, Repr

/-- A table: counter declarations and chains. -/
structure Table (w : ℕ) where
  counters : List String
  chains : List (Chain w)
  deriving DecidableEq, Repr

/-- What a chain or a hook does with a packet. -/
inductive Fate where
  | passed
  | dropped
  /-- Handed to a local socket. -/
  | taken
  deriving DecidableEq, Repr

variable {w : ℕ}

/-- All conditions of the rule hold. -/
def Rule.covers (r : Rule w) (p : Packet w) : Bool := r.conds.all (Match.holds p)

/-- First-verdict evaluation of a chain's rules. -/
def runRules (p : Packet w) : List (Rule w) → Fate
  | [] => .passed
  | r :: rest =>
    if r.covers p then
      match r.stmt with
      | .ret => .passed
      | .drop => .dropped
      | .tproxy _ _ => .taken
      | .masquerade => .passed
      | .count _ => runRules p rest
    else runRules p rest

/-- The chains of one hook in turn, until one does not let the packet pass. -/
def runChains (p : Packet w) : List (Chain w) → Fate
  | [] => .passed
  | c :: rest =>
    match runRules p c.rules with
    | .passed => runChains p rest
    | .dropped => .dropped
    | .taken => .taken

/-- What the table does with the packet at a hook. -/
def Table.atHook (t : Table w) (h : Hook) (p : Packet w) : Fate :=
  runChains p (t.chains.filter fun c => c.hook = h)

/-- Where a packet that arrives from the wire ends up. -/
inductive Path where
  | dropped
  | delivered
  | forwarded
  deriving DecidableEq, Repr

/-- The path of an arriving packet: the prerouting hook, routing, the forward hook. -/
def Table.path (t : Table w) (p : Packet w) : Path :=
  match t.atHook .prerouting p with
  | .dropped => .dropped
  | .taken => .delivered
  | .passed =>
    if p.deliveredLocally then .delivered
    else match t.atHook .forward p with
      | .dropped => .dropped
      | .taken => .delivered
      | .passed => .forwarded

theorem Table.path_ne_forwarded {t : Table w} {p : Packet w}
    (h : t.atHook .forward p = .dropped) : t.path p≠.forwarded := by
  unfold path
  rw [h]
  cases t.atHook .prerouting p with
  | dropped => simp
  | taken => simp
  | passed => cases p.deliveredLocally <;> simp

theorem Table.atHook_of_filter {t : Table w} {h : Hook} {c : Chain w} (p : Packet w)
    (hc : (t.chains.filter fun c => c.hook=h)=[c]) : t.atHook h p=runRules p c.rules := by
  unfold atHook
  rw [hc]
  simp only [runChains]
  cases runRules p c.rules <;> rfl

theorem runRules_drop {p : Packet w} {r : Rule w} (rest : List (Rule w)) (hr : r.covers p=true)
    (hdrop : r.stmt = .drop) : runRules p (r::rest) = .dropped := by
  simp only [runRules,hr,hdrop,if_true]

end PiGwPanel.PacketFilter
