import Mathlib.Data.List.Nodup
import Mathlib.Data.List.Perm.Basic
import Mathlib.Tactic.Linarith
import PiGwPanel.AnsweredProgram

/-!
# Throttling of logins

`api/routes.py`, `login` and `_evict_login_guard`. A login request reads the
clock, is admitted or refused under the guard lock, takes a verifier slot,
verifies the password, and is scored under the guard lock. Requests overlap in
any way; each of these steps is one step of a run. Buckets are objects that a
handler keeps a reference to, so they live in a heap beside the table.

The pool holds the requests whose handler is between its steps. Kept beside the
code's own state: the lockouts that stand, and what each admission found.
-/

namespace PiGwPanel.LoginThrottle

open AnsweredProgram List

/-- `_LOGIN_GUARD_MAX`. -/
def loginGuardMax : ℕ := 1000

/-- The slots of `_login_kdf_slots`. -/
def kdfSlots : ℕ := 2

/-- The bucket of one address. -/
structure Guard where
  count : ℕ
  lockedUntil : ℚ
  inFlight : ℕ
  seen : ℚ
  deriving DecidableEq, Repr

/-- Where a handler stands. -/
inductive Phase where
  /-- It has read the clock. -/
  | arrived
  | admitted
  /-- It holds a verifier slot. -/
  | verifying
  /-- It found no verifier slot. -/
  | busy
  | verified (valid : Bool)
  deriving DecidableEq, Repr

/-- A login request in progress. -/
structure Request where
  ip : String
  /-- The clock when the handler read it. -/
  now : ℚ
  /-- The bucket it was admitted through. -/
  ref : ℕ
  phase : Phase
  deriving DecidableEq, Repr

section

variable (s : Site) (now : ℚ) (r : Request) (ip : String)

/-- The request has been admitted and has not finished. -/
def Request.inFlight : Bool := !decide (r.phase = .arrived)

/-- An admission to verification, with the lockouts of its address that stood then. -/
structure Admission where
  ip : String
  time : ℚ
  standing : List ℚ
  deriving DecidableEq, Repr

/-- The login guard and the requests around it. -/
structure Site where
  /-- `login_guard`: address and bucket, in insertion order. -/
  table : List (String × ℕ)
  heap : ℕ → Guard
  /-- The first unused place of the heap. -/
  (fresh kdfHeld : ℕ)
  clock : ℚ
  pool : List Request
  /-- Ghost: the lockouts that were set and not lost in a crowded eviction. -/
  lockouts : List (String × ℚ)
  /-- Ghost: the admissions so far. -/
  admissions : List Admission

/-- The bucket carries nothing at the given time. -/
def Guard.idle (g : Guard) (now : ℚ) : Bool :=
  decide (g.lockedUntil ≤ now) && decide (g.count = 0) && decide (g.inFlight = 0)

/-- Order of `(seen, key)` pairs. -/
def earlier (a b : ℚ × String) : Bool :=
  decide (a.1 < b.1) || (decide (a.1 = b.1) && decide (a.2 < b.2))

/-- `min` of a list of `(seen, key)` pairs. -/
def leastSeen : List (ℚ × String) → Option (ℚ × String)
  | [] => none
  | a :: rest =>
    match leastSeen rest with
    | none => some a
    | some b => some (if earlier b a then b else a)

/-- Requests of the address that are admitted and not finished. -/
def Site.unfinished : ℕ :=
  s.pool.countP fun r => r.inFlight && decide (r.ip = ip)

/-- Every bucket with no request in flight carries a failure count or a lockout, by the clock
reading of the request that evicts. -/
def Site.crowded : Bool :=
  s.table.all fun e => !decide (s.unfinished e.1 = 0) ||
    decide (0 < (s.heap e.2).count) || decide (now < (s.heap e.2).lockedUntil)

/-- The bucket of one address is dropped, and with it, in a crowded table, its lockouts. -/
def Site.drop : Site :=
  { s with
    table := s.table.filter fun e => !decide (e.1 = ip)
    lockouts := if s.crowded now then s.lockouts.filter fun l => !decide (l.1 = ip)
      else s.lockouts }

/-- `_evict_login_guard`; `none` when no bucket can go. -/
def evictLoginGuard : Option Site :=
  if s.table.any fun e => (s.heap e.2).idle now then
    some { s with table := s.table.filter fun e => !(s.heap e.2).idle now }
  else
    (leastSeen ((s.table.filter fun e => decide ((s.heap e.2).inFlight = 0)).map
      fun e => ((s.heap e.2).seen, e.1))).map fun least => s.drop now least.2

/-- The table has a bucket for the address. -/
def Site.tracks : Bool := s.table.any fun e => decide (e.1 = ip)

/-- The room for a new bucket, where one is needed. -/
def makeRoom : Option Site :=
  if loginGuardMax ≤ s.table.length && !s.tracks ip then evictLoginGuard s now else some s

/-- A new bucket at the end of the table. -/
def Site.track : Site :=
  { s with
    table := s.table ++ [(ip, s.fresh)]
    heap := Function.update s.heap s.fresh ⟨0, 0, 0, now⟩
    fresh := s.fresh + 1 }

/-- `guards.setdefault`. -/
def setDefault : Site × ℕ :=
  match s.table.find? fun e => decide (e.1 = ip) with
  | some e => (s, e.2)
  | none => (s.track now ip, s.fresh)

/-- The bucket is changed in place. -/
def Site.modify (ref : ℕ) (f : Guard → Guard) : Site :=
  { s with heap := Function.update s.heap ref (f (s.heap ref)) }

/-- The request goes on in another phase. -/
def Site.advance (r next : Request) : Site := { s with pool := next :: s.pool.erase r }

/-- The handler of the request is done. -/
def Site.finish : Site := { s with pool := s.pool.erase r }

/-- What the admission of a request leaves behind for the reader of the run. -/
def Site.noteAdmission : Site :=
  { s with
    admissions := ⟨ip, s.clock,
      (s.lockouts.filter fun l => decide (l.1 = ip)).map Prod.snd⟩ :: s.admissions }

/-- The decision under the lock, on the bucket of the request. -/
def decideAdmission (ref : ℕ) : Site :=
  let s := s.modify ref fun g => { g with seen := r.now }
  if r.now < (s.heap ref).lockedUntil ∨ 5 ≤ (s.heap ref).inFlight then s.finish r
  else
    ((s.modify ref fun g => { g with inFlight := g.inFlight + 1 }).noteAdmission r.ip).advance r
      { r with ref := ref, phase := .admitted }

/-- The first critical section of `login`. -/
def enter : Site :=
  match makeRoom s r.now r.ip with
  | none => s.finish r
  | some roomy => decideAdmission (setDefault roomy r.now r.ip).1 r (setDefault roomy r.now r.ip).2

end

/-- The request leaves its bucket. -/
def Guard.leave (g : Guard) : Guard := { g with inFlight := g.inFlight - 1 }

/-- The second critical section of `login`: a success clears the count, the fifth failure in a
row locks the address. -/
def score (lockoutSec : ℚ) (s : Site) (r : Request) (valid : Bool) : Site :=
  if valid then (s.modify r.ref fun g => { g.leave with count := 0 }).finish r
  else if 5 ≤ (s.heap r.ref).count + 1 then
    let locked := s.modify r.ref fun g =>
      { g.leave with count := 0, lockedUntil := r.now + lockoutSec }
    { locked with lockouts := (r.ip, r.now + lockoutSec) :: s.lockouts }.finish r
  else (s.modify r.ref fun g => { g.leave with count := g.count + 1 }).finish r

/-- How `verify_login` ends. -/
inductive Verification where
  | answered (valid : Bool)
  | raised
  deriving DecidableEq, Repr

/-- One step of a run. -/
inductive Event where
  /-- A request comes in and reads the clock. -/
  | arrive (ip : String)
  /-- The handler at this place of the pool takes its next step. -/
  | act (place : ℕ) (verification : Verification)
  /-- Time passes. -/
  | pass (seconds : ℚ)
  deriving DecidableEq, Repr

/-- The next step of a handler. A verification that raises releases its slot and ends the handler,
and nothing else. -/
def act (lockoutSec : ℚ) (s : Site) (r : Request) (verification : Verification) : Site :=
  match r.phase with
  | .arrived => enter s r
  | .admitted =>
    if s.kdfHeld < kdfSlots then
      { s with kdfHeld := s.kdfHeld + 1 }.advance r { r with phase := .verifying }
    else s.advance r { r with phase := .busy }
  | .busy => (s.modify r.ref Guard.leave).finish r
  | .verifying =>
    match verification with
    | .answered valid =>
      { s with kdfHeld := s.kdfHeld - 1 }.advance r { r with phase := .verified valid }
    | .raised => { s with kdfHeld := s.kdfHeld - 1 }.finish r
  | .verified valid => score lockoutSec s r valid

/-- The run of requests; the clock does not go back. -/
def step (lockoutSec : ℚ) (s : Site) : Event → Site
  | .arrive ip => { s with pool := ⟨ip, s.clock, 0, .arrived⟩ :: s.pool }
  | .act place verification =>
    match s.pool[place]? with
    | none => s
    | some r => act lockoutSec s r verification
  | .pass seconds => { s with clock := s.clock + max 0 seconds }

/-- A panel that has just started. -/
def Site.start (clock : ℚ) : Site := ⟨[], fun _ => ⟨0, 0, 0, 0⟩, 0, 0, clock, [], [], []⟩

/-- The guard does what it is for. -/
structure Throttled (s : Site) : Prop where
  counted : ∀ e ∈ s.table, (s.heap e.2).inFlight = s.unfinished e.1
  bounded : ∀ e ∈ s.table, (s.heap e.2).inFlight ≤ 5
  size : s.table.length ≤ loginGuardMax
  waited : ∀ a ∈ s.admissions, ∀ expiry ∈ a.standing, expiry ≤ a.time

/-- What holds of every site that a run without raised verifications reaches. -/
structure Sound (s : Site) : Prop where
  ips : (s.table.map Prod.fst).Nodup
  refs : (s.table.map Prod.snd).Nodup
  old : ∀ e ∈ s.table, e.2 < s.fresh
  size : s.table.length ≤ loginGuardMax
  /-- A request in flight holds the bucket its address still has. -/
  held : ∀ r ∈ s.pool, r.inFlight = true → (r.ip, r.ref) ∈ s.table
  counted : ∀ e ∈ s.table, (s.heap e.2).inFlight = s.unfinished e.1
  bounded : ∀ e ∈ s.table, (s.heap e.2).inFlight ≤ 5
  scored : ∀ e ∈ s.table, (s.heap e.2).count ≤ 4
  /-- While a lockout runs, those still in flight cannot add up to a fifth failure. -/
  quiet : ∀ e ∈ s.table, s.clock < (s.heap e.2).lockedUntil →
    (s.heap e.2).count + (s.heap e.2).inFlight ≤ 4
  standing : ∀ l ∈ s.lockouts, s.clock < l.2 →
    ∃ ref, (l.1, ref) ∈ s.table ∧ l.2 ≤ (s.heap ref).lockedUntil
  read : ∀ r ∈ s.pool, r.now ≤ s.clock
  waited : ∀ a ∈ s.admissions, ∀ expiry ∈ a.standing, expiry ≤ a.time

variable {s t : Site} {ip : String} {r : Request} {e f : String × ℕ}

theorem Sound.throttled (h : Sound s) : Throttled s :=
  ⟨h.counted,h.bounded,h.size,h.waited⟩

theorem sound_start (clock : ℚ) : Sound (.start clock) := by
  constructor <;> simp [Site.start]

theorem Sound.entry_unique (h : Sound s) (he : e∈s.table) (hf : f∈s.table) (hip : e.1=f.1) :
    e=f :=
  inj_on_of_nodup_map h.ips he hf hip

theorem Sound.entry_unique_ref (h : Sound s) (he : e∈s.table) (hf : f∈s.table)
    (href : e.2=f.2) : e=f :=
  inj_on_of_nodup_map h.refs he hf href

theorem unfinished_pos (hr : r∈s.pool) (hflight : r.inFlight=true) : 0 < s.unfinished r.ip := by
  apply countP_pos_iff.mpr
  exact ⟨r,hr,by simp [hflight]⟩

/-- Taking one request out of the pool takes it out of the count of its address only. -/
theorem unfinished_erase (hr : r∈s.pool) (ip : String) :
    s.unfinished ip=(s.pool.erase r).countP (fun q => q.inFlight && decide (q.ip=ip)) +
      if r.inFlight && decide (r.ip=ip) then 1 else 0 := by
  unfold Site.unfinished
  rw [(perm_cons_erase hr).countP_eq,countP_cons]

variable {ref : ℕ} {pool : List Request} {f : Guard → Guard}

section

variable (h : Sound s)

include h

/-- The pool changes and one bucket with it: what that bucket has to meet. -/
theorem Sound.modified (hmine : (ip, ref)∈s.table)
    (hheld : ∀ q∈pool, q.inFlight=true → (q.ip, q.ref)∈s.table)
    (hread : ∀ q∈pool, q.now ≤ s.clock)
    (hothers : ∀ other≠ip, { s with pool := pool }.unfinished other=s.unfinished other)
    (hcounted : (f (s.heap ref)).inFlight={ s with pool := pool }.unfinished ip)
    (hbounded : (f (s.heap ref)).inFlight≤5) (hscored : (f (s.heap ref)).count≤4)
    (hquiet : s.clock<(f (s.heap ref)).lockedUntil →
      (f (s.heap ref)).count+(f (s.heap ref)).inFlight≤4)
    (hlonger : (s.heap ref).lockedUntil≤(f (s.heap ref)).lockedUntil ∨
      (s.heap ref).lockedUntil ≤ s.clock) : Sound { s.modify ref f with pool := pool } := by
  -- Every entry is the changed one, or one the change does not reach.
  have hentry : ∀ e∈s.table, e=(ip, ref) ∧ (s.modify ref f).heap e.2=f (s.heap ref) ∨
      e.1≠ip ∧ (s.modify ref f).heap e.2=s.heap e.2 := by
    intro e he
    by_cases hplace : e.2=ref
    · obtain rfl := h.entry_unique_ref he hmine hplace
      exact .inl ⟨rfl,Function.update_self ..⟩
    · refine .inr ⟨fun hip => hplace ?_,Function.update_of_ne hplace ..⟩
      rw [h.entry_unique he hmine hip]
  refine { h with
    held := hheld, read := hread, counted := ?_, bounded := ?_, scored := ?_, quiet := ?_,
    standing := ?_ }
  · intro e he
    change ((s.modify ref f).heap e.2).inFlight={ s with pool := pool }.unfinished e.1
    rcases hentry e he with ⟨rfl,heq⟩ | ⟨hip,heq⟩
    · rw [heq,hcounted]
    · rw [heq,hothers _ hip,h.counted e he]
  · intro e he
    rcases hentry e he with ⟨-,heq⟩ | ⟨-,heq⟩ <;> rw [heq]
    · exact hbounded
    · exact h.bounded e he
  · intro e he
    rcases hentry e he with ⟨-,heq⟩ | ⟨-,heq⟩ <;> rw [heq]
    · exact hscored
    · exact h.scored e he
  · intro e he
    rcases hentry e he with ⟨-,heq⟩ | ⟨-,heq⟩ <;> rw [heq]
    · exact hquiet
    · exact h.quiet e he
  · intro l hl hrunning
    obtain ⟨place,hplace,hle⟩ := h.standing l hl hrunning
    refine ⟨place,hplace,?_⟩
    rcases hentry _ hplace with ⟨hsame,heq⟩ | ⟨-,heq⟩ <;> rw [heq]
    · obtain rfl : place=ref := congrArg Prod.snd hsame
      rcases hlonger with hlonger | hover
      · exact hle.trans hlonger
      · exact absurd (hle.trans hover) (not_le.mpr hrunning)
    · exact hle

theorem Sound.repooled (hheld : ∀ q∈pool, q.inFlight=true → (q.ip, q.ref)∈s.table)
    (hread : ∀ q∈pool, q.now ≤ s.clock)
    (hcount : ∀ ip, { s with pool := pool }.unfinished ip=s.unfinished ip) :
    Sound { s with pool := pool } :=
  { h with held := hheld, read := hread, counted := fun e he => (h.counted e he).trans (hcount e.1).symm }

theorem Sound.advance {next : Request} (hr : r∈s.pool) (hflight : r.inFlight=true)
    (hnext : next.inFlight=true) (hip : next.ip=r.ip) (href : next.ref=r.ref)
    (hnow : next.now=r.now) : Sound (s.advance r next) := by
  refine h.repooled (fun q hq hqflight => ?_) (fun q hq => ?_) fun ip => ?_
  · rcases mem_cons.mp hq with rfl | hq
    · rw [hip,href]
      exact h.held r hr hflight
    · exact h.held q (mem_of_mem_erase hq) hqflight
  · rcases mem_cons.mp hq with rfl | hq
    · rw [hnow]
      exact h.read r hr
    · exact h.read q (mem_of_mem_erase hq)
  · rw [unfinished_erase hr ip]
    simp [Site.unfinished,countP_cons,hnext,hflight,hip]

theorem Sound.finish (hr : r∈s.pool) (hflight : r.inFlight=false) : Sound (s.finish r) := by
  refine h.repooled (fun q hq => h.held q (mem_of_mem_erase hq))
    (fun q hq => h.read q (mem_of_mem_erase hq)) fun ip => ?_
  rw [unfinished_erase hr ip]
  simp [Site.unfinished,hflight]

/-- An admitted request leaves its bucket: what its last change of the bucket has to meet. -/
theorem Sound.leave (hr : r∈s.pool) (hflight : r.inFlight=true)
    (hin : (f (s.heap r.ref)).inFlight=(s.heap r.ref).inFlight-1)
    (hscored : (f (s.heap r.ref)).count≤4) (hquiet : s.clock<(f (s.heap r.ref)).lockedUntil →
      (f (s.heap r.ref)).count+(f (s.heap r.ref)).inFlight≤4)
    (hlonger : (s.heap r.ref).lockedUntil≤(f (s.heap r.ref)).lockedUntil ∨
      (s.heap r.ref).lockedUntil ≤ s.clock) :
    Sound ((s.modify r.ref f).finish r) := by
  have hmine := h.held r hr hflight
  have hbounded := h.bounded _ hmine
  have hcount := h.counted _ hmine
  rw [unfinished_erase hr r.ip] at hcount
  simp only [hflight,Bool.true_and,decide_true,if_true] at hcount
  refine h.modified hmine (fun q hq => h.held q (mem_of_mem_erase hq))
    (fun q hq => h.read q (mem_of_mem_erase hq)) (fun other hother => ?_) ?_ ?_ hscored hquiet
    hlonger
  · rw [unfinished_erase hr other]
    simp [Site.unfinished,Site.modify,Ne.symm hother]
  · rw [hin,hcount]
    rfl
  · rw [hin]
    exact (Nat.sub_le _ _).trans hbounded

/-- A lockout that the bucket of its address carries may be noted. -/
theorem Sound.lock {expiry : ℚ} (he : (ip, ref)∈s.table)
    (hle : expiry≤(s.heap ref).lockedUntil) :
    Sound { s with lockouts := (ip, expiry)::s.lockouts } := by
  refine { h with standing := ?_ }
  intro l hl hrunning
  rcases mem_cons.mp hl with rfl | hl
  · exact ⟨ref,he,hle⟩
  · exact h.standing l hl hrunning

/-- Buckets nobody holds and no lockout needs may leave the table, with the lockouts that need
them. -/
theorem Sound.shrink {table : List (String × ℕ)} {lockouts : List (String × ℚ)}
    (htable : table.Sublist s.table) (hlockouts : ∀ l∈lockouts, l∈s.lockouts)
    (hheld : ∀ e∈s.table, e∉table → (s.heap e.2).inFlight=0)
    (hneeded : ∀ l∈lockouts, s.clock<l.2 → ∀ ref, (l.1, ref)∈s.table →
      l.2≤(s.heap ref).lockedUntil → (l.1, ref)∈table) :
    Sound { s with table := table, lockouts := lockouts } := by
  have hsub : ∀ e∈table, e∈s.table := fun e he => htable.subset he
  constructor
  · exact (htable.map Prod.fst).nodup h.ips
  · exact (htable.map Prod.snd).nodup h.refs
  · exact fun e he => h.old e (hsub e he)
  · exact htable.length_le.trans h.size
  · intro r hr hflight
    by_contra hgone
    have hmine := h.held r hr hflight
    have hzero := hheld _ hmine hgone
    have hpos : 0 < s.unfinished r.ip := unfinished_pos hr hflight
    have hcount := h.counted _ hmine
    dsimp only at hcount hzero
    omega
  · exact fun e he => h.counted e (hsub e he)
  · exact fun e he => h.bounded e (hsub e he)
  · exact fun e he => h.scored e (hsub e he)
  · exact fun e he => h.quiet e (hsub e he)
  · intro l hl hrunning
    obtain ⟨ref,href,hle⟩ := h.standing l (hlockouts l hl) hrunning
    exact ⟨ref,hneeded l hl hrunning ref href hle,hle⟩
  · exact h.read
  · exact h.waited

end

theorem leastSeen_mem {l : List (ℚ × String)} {a : ℚ × String} (h : leastSeen l=some a) :
    a∈l := by
  induction l generalizing a with
  | nil => cases h
  | cons b rest ih =>
    unfold leastSeen at h
    cases hrest : leastSeen rest with
    | none =>
      rw [hrest] at h
      obtain rfl := Option.some.inj h
      exact mem_cons_self
    | some c =>
      rw [hrest] at h
      obtain rfl := Option.some.inj h
      split_ifs
      · exact mem_cons_of_mem b (ih hrest)
      · exact mem_cons_self

variable {now : ℚ}

theorem Sound.crowded (h : Sound s) (hidle : ∀ e∈s.table, (s.heap e.2).idle now=false) :
    s.crowded now=true := by
  apply all_eq_true.mpr
  intro e he
  have hbusy := hidle e he
  have hcount := h.counted e he
  simp only [Guard.idle,Bool.and_eq_false_iff,decide_eq_false_iff_not,not_le] at hbusy
  simp only [Bool.or_eq_true,Bool.not_eq_true',decide_eq_false_iff_not,decide_eq_true_eq]
  rw [← hcount]
  rcases hbusy with (hlocked | hfailed) | hflight
  · exact .inr hlocked
  · exact .inl (.inr (Nat.pos_of_ne_zero hfailed))
  · exact .inl (.inl hflight)

/-- What making room leaves: the table may be smaller, the requests and the clock are the same. -/
structure Roomy (s t : Site) : Prop where
  sound : Sound t
  pool : t.pool = s.pool
  clock : t.clock = s.clock

section

variable (h : Sound s)

include h

theorem Sound.evict (hnow : now ≤ s.clock) (hevict : evictLoginGuard s now=some t) :
    Roomy s t ∧ t.table.length < s.table.length := by
  unfold evictLoginGuard at hevict
  split_ifs at hevict with hany
  · -- Idle buckets go: none of them is held or locked.
    obtain rfl := Option.some.inj hevict
    obtain ⟨e,he,hidle⟩ := any_eq_true.mp hany
    refine ⟨⟨?_,rfl,rfl⟩,?_⟩
    · apply h.shrink filter_sublist (fun l hl => hl)
      · intro f hf hgone
        by_contra hflight
        apply hgone
        apply mem_filter.mpr
        simp [hf,Guard.idle,hflight]
      · intro l _ hrunning ref href hle
        apply mem_filter.mpr
        have hlocked : now<(s.heap ref).lockedUntil :=
          lt_of_le_of_lt hnow (lt_of_lt_of_le hrunning hle)
        simp [href,Guard.idle,hlocked]
    · apply length_filter_lt_length_iff_exists.mpr
      exact ⟨e,he,by simp [hidle]⟩
  · have hnone : ∀ e∈s.table, (s.heap e.2).idle now=false := by
      intro e he
      by_contra hidle
      exact hany (any_eq_true.mpr ⟨e,he,by simpa using hidle⟩)
    obtain ⟨least,hleast,rfl⟩ := Option.map_eq_some_iff.mp hevict
    obtain ⟨e,he,rfl⟩ := mem_map.mp (leastSeen_mem hleast)
    obtain ⟨he,hflight⟩ := mem_filter.mp he
    have hdrop : s.drop now e.1 = { s with
          table := s.table.filter fun f => !decide (f.1=e.1)
          lockouts := s.lockouts.filter fun l => !decide (l.1=e.1) } := by
      simp [Site.drop,h.crowded hnone]
    rw [hdrop]
    refine ⟨⟨?_,rfl,rfl⟩,?_⟩
    · apply h.shrink filter_sublist (fun l hl => (mem_filter.mp hl).1)
      · intro f hf hgone
        have hip : f.1=e.1 := by
          by_contra hne
          exact hgone (mem_filter.mpr ⟨hf,by simp [hne]⟩)
        rw [h.entry_unique hf he hip]
        simpa using hflight
      · intro l hl _ ref href _
        have hne := (mem_filter.mp hl).2
        exact mem_filter.mpr ⟨href,by simpa using hne⟩
    · apply length_filter_lt_length_iff_exists.mpr
      exact ⟨e,he,by simp⟩

/-- After making room there is a place for the address, or it has one. -/
theorem Sound.makeRoom (hnow : now ≤ s.clock) (hroom : makeRoom s now ip=some t) :
    Roomy s t ∧ (t.tracks ip=true ∨ t.table.length<loginGuardMax) := by
  unfold LoginThrottle.makeRoom at hroom
  split_ifs at hroom with hfull
  · obtain ⟨hroomy,hless⟩ := h.evict hnow hroom
    exact ⟨hroomy,.inr (hless.trans_le h.size)⟩
  · obtain rfl := Option.some.inj hroom
    refine ⟨⟨h,rfl,rfl⟩,?_⟩
    simp only [Bool.and_eq_true,decide_eq_true_eq,Bool.not_eq_true',not_and,
      Bool.not_eq_false] at hfull
    by_cases hlen : loginGuardMax ≤ s.table.length
    · exact .inl (hfull hlen)
    · exact .inr (not_le.mp hlen)

theorem Sound.unfinished_eq_zero (hnew : s.tracks ip=false) : s.unfinished ip=0 := by
  apply countP_eq_zero.mpr
  intro r hr hboth
  simp only [Bool.and_eq_true,decide_eq_true_eq] at hboth
  have hmine := h.held r hr hboth.1
  rw [hboth.2] at hmine
  have htracks : s.tracks ip=true := any_eq_true.mpr ⟨_,hmine,by simp⟩
  rw [hnew] at htracks
  cases htracks

theorem Sound.track (now : ℚ) (hnew : s.tracks ip=false)
    (hlen : s.table.length<loginGuardMax) : Sound (s.track now ip) := by
  have hout : ∀ e∈s.table, e.1≠ip := by
    intro e he
    simpa using any_eq_false.mp hnew e he
  -- An entry is the new one, or an old one that the new bucket does not touch.
  have hentry : ∀ e∈(s.track now ip).table, (e∈s.table ∧ (s.track now ip).heap e.2=s.heap e.2) ∨
        (e=(ip, s.fresh) ∧ (s.track now ip).heap e.2=⟨0,0,0,now⟩) := by
    intro e he
    rcases mem_append.mp he with he | he
    · exact .inl ⟨he,Function.update_of_ne (h.old e he).ne ..⟩
    · obtain rfl := mem_singleton.mp he
      exact .inr ⟨rfl,Function.update_self ..⟩
  refine { h with
    ips := ?_, refs := ?_, old := ?_, size := ?_, held := ?_, counted := ?_, bounded := ?_,
    scored := ?_, quiet := ?_, standing := ?_ }
  · simp only [Site.track,map_append,map_cons,map_nil]
    refine h.ips.append (nodup_singleton ip) ?_
    simpa [disjoint_singleton] using fun ref he => hout (ip, ref) he rfl
  · simp only [Site.track,map_append,map_cons,map_nil]
    refine h.refs.append (nodup_singleton s.fresh) ?_
    simpa [disjoint_singleton] using fun name he => absurd (h.old (name, s.fresh) he) (lt_irrefl _)
  · intro e he
    rcases hentry e he with ⟨hold,_⟩ | ⟨rfl,_⟩
    · exact (h.old e hold).trans (Nat.lt_succ_self _)
    · exact Nat.lt_succ_self _
  · simpa [Site.track] using hlen.nat_succ_le
  · intro r hr hflight
    exact mem_append_left _ (h.held r hr hflight)
  · intro e he
    change _=s.unfinished e.1
    rcases hentry e he with ⟨hold,heq⟩ | ⟨rfl,heq⟩
    · rw [heq]
      exact h.counted e hold
    · rw [heq,h.unfinished_eq_zero hnew]
  · intro e he
    rcases hentry e he with ⟨hold,heq⟩ | ⟨_,heq⟩
    · rw [heq]
      exact h.bounded e hold
    · rw [heq]
      exact Nat.zero_le 5
  · intro e he
    rcases hentry e he with ⟨hold,heq⟩ | ⟨_,heq⟩
    · rw [heq]
      exact h.scored e hold
    · rw [heq]
      exact Nat.zero_le 4
  · intro e he
    rcases hentry e he with ⟨hold,heq⟩ | ⟨_,heq⟩
    · rw [heq]
      exact h.quiet e hold
    · rw [heq]
      exact fun _ => Nat.zero_le 4
  · intro l hl hrunning
    obtain ⟨ref,href,hle⟩ := h.standing l hl hrunning
    refine ⟨ref,mem_append_left _ href,?_⟩
    change l.2≤(Function.update s.heap s.fresh _ ref).lockedUntil
    rw [Function.update_of_ne (h.old _ href).ne]
    exact hle

/-- `setdefault` finds the bucket of the address or makes one, and keeps the invariant. -/
theorem Sound.setDefault (now : ℚ) (hroom : s.tracks ip=true ∨ s.table.length<loginGuardMax) :
    Roomy s (setDefault s now ip).1 ∧
      (ip, (setDefault s now ip).2)∈(setDefault s now ip).1.table := by
  unfold LoginThrottle.setDefault
  cases hfind : s.table.find? fun e => decide (e.1=ip) with
  | some e =>
    have hip : e.1=ip := by simpa using find?_some hfind
    refine ⟨⟨h,rfl,rfl⟩,?_⟩
    rw [← hip]
    exact mem_of_find?_eq_some hfind
  | none =>
    have hnew : s.tracks ip=false := by
      apply any_eq_false.mpr
      intro e he
      simpa using find?_eq_none.mp hfind e he
    have hlen : s.table.length<loginGuardMax := by
      rcases hroom with htracks | hlen
      · rw [hnew] at htracks
        cases htracks
      · exact hlen
    exact ⟨⟨h.track now hnew hlen,rfl,rfl⟩,by simp [Site.track]⟩

theorem Sound.stamp (href : (ip, ref)∈s.table) (now : ℚ) :
    Sound (s.modify ref fun g => { g with seen := now }) :=
  h.modified (f := fun g => { g with seen := now }) href h.held h.read (fun _ _ => rfl)
    (h.counted _ href) (h.bounded _ href) (h.scored _ href) (h.quiet _ href) (.inl le_rfl)

/-- Admission: the bucket is neither locked nor full, so no lockout of the address stands. -/
theorem Sound.join (hr : r∈s.pool) (hflight : r.inFlight=false)
    (href : (r.ip, ref)∈s.table) (hopen : (s.heap ref).lockedUntil ≤ r.now)
    (hroom : (s.heap ref).inFlight<5) :
    Sound (((s.modify ref fun g => { g with inFlight := g.inFlight+1 }).noteAdmission
      r.ip).advance r { r with ref := ref, phase := .admitted }) := by
  have hclock : r.now ≤ s.clock := h.read r hr
  have hover := hopen.trans hclock
  have hjoined : Sound ((s.modify ref fun g => { g with inFlight := g.inFlight+1 }).advance r
      { r with ref := ref, phase := .admitted }) := by
    refine h.modified href (fun q hq hqflight => ?_) (fun q hq => ?_) (fun other hother => ?_) ?_
      hroom (h.scored _ href) (fun hlocked => absurd hover (not_le.mpr hlocked)) (.inr hover)
    · rcases mem_cons.mp hq with rfl | hq
      · exact href
      · exact h.held q (mem_of_mem_erase hq) hqflight
    · rcases mem_cons.mp hq with rfl | hq
      · exact hclock
      · exact h.read q (mem_of_mem_erase hq)
    · rw [unfinished_erase hr other]
      simp [Site.unfinished,Site.modify,Ne.symm hother]
    · rw [h.counted _ href,unfinished_erase hr r.ip,hflight]
      simp [Site.unfinished,Site.modify,Request.inFlight]
  refine { hjoined with waited := ?_ }
  intro a ha expiry hexpiry
  rcases mem_cons.mp ha with rfl | ha
  · -- A lockout still running would be carried by the bucket, which is open.
    by_contra hrunning
    obtain ⟨l,hl,rfl⟩ := mem_map.mp hexpiry
    obtain ⟨hl,hip⟩ := mem_filter.mp hl
    obtain ⟨place,hplace,hle⟩ := h.standing l hl (not_le.mp hrunning)
    have hsame : place=ref := congrArg Prod.snd (h.entry_unique hplace href (by simpa using hip))
    rw [hsame] at hle
    exact hrunning (hle.trans hover)
  · exact h.waited a ha expiry hexpiry

/-- The decision under the lock keeps the invariant, whichever way it goes. -/
theorem Sound.decided (hr : r∈s.pool) (hflight : r.inFlight=false)
    (href : (r.ip, ref)∈s.table) : Sound (decideAdmission s r ref) := by
  have hstamped := h.stamp href r.now
  unfold decideAdmission
  dsimp only
  split_ifs with hrefused
  · exact hstamped.finish hr hflight
  · rw [not_or,not_lt,not_le] at hrefused
    exact hstamped.join hr hflight href hrefused.1 hrefused.2

theorem Sound.enter (hr : r∈s.pool) (hflight : r.inFlight=false) : Sound (enter s r) := by
  unfold LoginThrottle.enter
  cases hroom : LoginThrottle.makeRoom s r.now r.ip with
  | none => exact h.finish hr hflight
  | some roomy =>
    obtain ⟨hroomy,hplace⟩ := h.makeRoom (h.read r hr) hroom
    obtain ⟨hdef,hentry⟩ := hroomy.sound.setDefault r.now hplace
    refine hdef.sound.decided ?_ hflight hentry
    rw [hdef.pool,hroomy.pool]
    exact hr

/-- The second critical section keeps the invariant: the fifth failure in a row sets a lockout
that no running one outlasts. -/
theorem Sound.score (lockoutSec : ℚ) (hr : r∈s.pool) (hflight : r.inFlight=true)
    (valid : Bool) : Sound (score lockoutSec s r valid) := by
  have hmine := h.held r hr hflight
  have hin : 0<(s.heap r.ref).inFlight := by
    rw [h.counted _ hmine]
    exact unfinished_pos hr hflight
  have hbounded := h.bounded _ hmine
  have hscored := h.scored _ hmine
  have hquiet := h.quiet _ hmine
  dsimp only at hbounded hscored hquiet
  unfold LoginThrottle.score
  split_ifs with hvalid hfifth
  · refine h.leave hr hflight rfl (Nat.zero_le 4) ?_ (.inl le_rfl)
    intro hlocked
    change 0+((s.heap r.ref).inFlight-1)≤4
    omega
  · -- Five failures: no lockout of the address can be running, or the count would be smaller.
    have hover : (s.heap r.ref).lockedUntil ≤ s.clock := by
      by_contra hrunning
      have hfew := hquiet (not_le.mp hrunning)
      omega
    have hleft := h.leave (f := fun g =>
        { g.leave with count := 0, lockedUntil := r.now+lockoutSec }) hr hflight rfl
      (Nat.zero_le 4)
      (by
        intro _
        change 0+((s.heap r.ref).inFlight-1)≤4
        omega)
      (.inr hover)
    have hentry : (r.ip, r.ref)∈((s.modify r.ref fun g =>
        { g.leave with count := 0, lockedUntil := r.now+lockoutSec }).finish r).table := hmine
    refine hleft.lock hentry ?_
    change _ ≤ (Function.update s.heap r.ref _ r.ref).lockedUntil
    rw [Function.update_self]
  · refine h.leave hr hflight rfl ?_ ?_ (.inl le_rfl)
    · change (s.heap r.ref).count+1≤4
      omega
    · intro hlocked
      have hfew := hquiet hlocked
      change (s.heap r.ref).count+1+((s.heap r.ref).inFlight-1)≤4
      omega

end

/-- The verification a handler is in returns an answer. -/
def VerificationReturns (s : Site) (event : Event) : Prop :=
  ∀ place, event = .act place .raised → ∀ r, s.pool[place]? = some r → r.phase ≠ .verifying

theorem inFlight_of_phase (h : r.phase≠.arrived) : r.inFlight=true := by
  simp [Request.inFlight,h]

theorem Sound.slots (h : Sound s) (held : ℕ) : Sound { s with kdfHeld := held } :=
  { h with }

theorem Sound.act (h : Sound s) (lockoutSec : ℚ) (hr : r∈s.pool) {verification : Verification}
    (hret : verification = .raised → r.phase≠.verifying) :
    Sound (act lockoutSec s r verification) := by
  unfold LoginThrottle.act
  cases hphase : r.phase with
  | arrived => exact h.enter hr (by simp [Request.inFlight,hphase])
  | admitted =>
    have hflight : r.inFlight=true := inFlight_of_phase (by simp [hphase])
    split_ifs
    · exact (h.slots _).advance hr hflight rfl rfl rfl rfl
    · exact h.advance hr hflight rfl rfl rfl rfl
  | busy =>
    have hflight : r.inFlight=true := inFlight_of_phase (by simp [hphase])
    have hmine := h.held r hr hflight
    refine h.leave hr hflight rfl (h.scored _ hmine) ?_ (.inl le_rfl)
    intro hlocked
    have hfew := h.quiet _ hmine hlocked
    change (s.heap r.ref).count+((s.heap r.ref).inFlight-1)≤4
    dsimp only at hfew
    omega
  | verifying =>
    have hflight : r.inFlight=true := inFlight_of_phase (by simp [hphase])
    cases verification with
    | answered valid => exact (h.slots _).advance hr hflight rfl rfl rfl rfl
    | raised => exact absurd hphase (hret rfl)
  | verified valid => exact h.score lockoutSec hr (inFlight_of_phase (by simp [hphase])) valid

theorem Sound.step (h : Sound s) (lockoutSec : ℚ) {event : Event}
    (hret : VerificationReturns s event) : Sound (step lockoutSec s event) := by
  cases event with
  | arrive ip =>
    refine h.repooled (fun r hr hflight => ?_) (fun r hr => ?_) fun ip => ?_
    · rcases mem_cons.mp hr with rfl | hr
      · cases hflight
      · exact h.held r hr hflight
    · rcases mem_cons.mp hr with rfl | hr
      · exact le_rfl
      · exact h.read r hr
    · simp [Site.unfinished,Request.inFlight]
  | act place verification =>
    change Sound (match s.pool[place]? with
      | none => s
      | some r => LoginThrottle.act lockoutSec s r verification)
    cases hplace : s.pool[place]? with
    | none => exact h
    | some r =>
      refine h.act lockoutSec (mem_of_getElem? hplace) ?_
      intro hraised
      exact hret place (by rw [hraised]) r hplace
  | pass seconds =>
    have hlater : s.clock ≤ s.clock+max 0 seconds := le_add_of_nonneg_right (le_max_left 0 seconds)
    refine { h with quiet := ?_, standing := ?_, read := ?_ }
    · intro e he hlocked
      exact h.quiet e he (lt_of_le_of_lt hlater hlocked)
    · intro l hl hrunning
      exact h.standing l hl (lt_of_le_of_lt hlater hrunning)
    · intro r hr
      exact (h.read r hr).trans hlater

/-- Over every interleaving of login requests whose verifications all return, every in-flight
count is the number of unfinished admitted requests and at most five, at most a thousand
addresses are tracked, and no admission comes before a standing lockout of its address is over. -/
theorem throttled_run (lockoutSec clock : ℚ) (events : List Event)
    (h : EveryStep (step lockoutSec) VerificationReturns (.start clock) events) :
    Throttled (run (step lockoutSec) (.start clock) events) := by
  have hsound : Sound (run (step lockoutSec) (.start clock) events) :=
    run_keeps_of (I := Sound) (fun s event hret hs => hs.step lockoutSec hret) h (sound_start clock)
  exact hsound.throttled

/-- One login request of the address, up to the end of its verification. -/
def oneLogin (ip : String) (verification : Verification) : List Event :=
  [.arrive ip, .act 0 verification, .act 0 verification, .act 0 verification]

/-- Two logins of the address that overlap from their arrival to their failure. -/
def overlapping (ip : String) : List Event :=
  [.arrive ip, .arrive ip] ++ List.replicate 7 (.act 1 (.answered false)) ++
    [.act 0 (.answered false)]

/-- Twice two overlapping failures and a fifth one lock the address, the next request is turned
away, and one that comes when the lockout is over is admitted. -/
def lockedOut (ip : String) : List Event :=
  overlapping ip ++ overlapping ip ++ oneLogin ip (.answered false) ++
    [.act 0 (.answered false), .arrive ip, .act 0 (.answered false), .pass 300, .arrive ip,
      .act 0 (.answered false)]

theorem throttled_run_lockout :
    (run (step 300) (.start 1000) (lockedOut "198.51.100.7")).admissions.map Admission.time =
        [1300, 1000, 1000, 1000, 1000, 1000] ∧
      (run (step 300) (.start 1000) (lockedOut "198.51.100.7")).lockouts =
        [("198.51.100.7", 1300)] ∧
      Throttled (run (step 300) (.start 1000) (lockedOut "198.51.100.7")) := by
  refine ⟨by decide +kernel,by decide +kernel,throttled_run 300 1000 _ ?_⟩
  simp [lockedOut,overlapping,oneLogin,EveryStep,VerificationReturns]

/-- Five requests of one address whose verification raised. -/
@[irreducible] def jammedSite : Site :=
  run (step 300) (.start 1000) (List.replicate 5 (oneLogin "198.51.100.7" .raised)).flatten

/-- A verification that raises never gives its place in the bucket back: after five of them the
address has no request in flight and is refused for good. -/
theorem raised_verification_keeps_place :
    jammedSite.table = [("198.51.100.7", 0)] ∧ (jammedSite.heap 0).inFlight = 5 ∧
      jammedSite.unfinished "198.51.100.7" = 0 ∧ ¬ Throttled jammedSite ∧
      (run (step 300) jammedSite [.pass 1000000, .arrive "198.51.100.7",
        .act 0 (.answered true)]).admissions = jammedSite.admissions := by
  have htable : jammedSite.table=[("198.51.100.7", 0)] := by decide +kernel
  have hflight : (jammedSite.heap 0).inFlight=5 := by decide +kernel
  have hunfinished : jammedSite.unfinished "198.51.100.7" = 0 := by decide +kernel
  refine ⟨htable,hflight,hunfinished,?_,by decide +kernel⟩
  intro h
  have hmem : ("198.51.100.7", 0)∈jammedSite.table := by
    rw [htable]
    exact mem_cons_self
  have hcounted : (jammedSite.heap 0).inFlight=jammedSite.unfinished "198.51.100.7" :=
    h.counted _ hmem
  rw [hflight,hunfinished] at hcounted
  exact absurd hcounted (by decide)

end PiGwPanel.LoginThrottle
