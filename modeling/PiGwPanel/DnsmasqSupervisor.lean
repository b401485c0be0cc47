import PiGwPanel.AnsweredProgram

/-!
# The supervisor of dnsmasq

`net_control/dnsmasq_supervisor.py`: `apply` validates a config, stops the running
child, puts the config in place and starts a child on it; a candidate that does not
come up is rolled back. Every call of the operating system may fail, and a child
may die when it likes or outlive SIGKILL.
-/

namespace PiGwPanel.DnsmasqSupervisor

open AnsweredProgram

/-- A child and the config file it was started on. -/
structure Child where
  text : Option String
  alive : Bool
  deriving DecidableEq

/-- The supervisor, its config file and the children it has lost its handle on. -/
structure Supervisor where
  /-- `_proc`. -/
  proc : Option Child
  strays : List Child
  /-- The config file. -/
  file : Option String
  /-- `_last_text`. -/
  lastText : Option String
  /-- Ghost: the text of the last apply that succeeded. -/
  applied : Option String

/-- How the calls of one `apply` go, each as far as it is made. -/
structure Luck where
  /-- The child is alive as the call begins. -/
  found : Bool
  /-- The candidate file is written, and dnsmasq accepts it. -/
  valid : Bool
  /-- It is still alive then. -/
  running : Bool
  /-- A running child ends when it is stopped. -/
  ended : Bool
  /-- The candidate file replaces the config. -/
  (replaced spawned : Bool)
  /-- The wait for the candidate is not broken off. -/
  waited : Bool
  /-- The candidate is alive after it. -/
  ready : Bool
  /-- A candidate still running ends when it is stopped. -/
  candidateEnded : Bool
  /-- The earlier config is put back. -/
  (restored respawned : Bool)

/-- What an `apply` leaves, whether it raised, whether it stopped the child that ran before, and
the contents of the config file at each start it attempted. -/
structure Outcome where
  state : Supervisor
  (raised stopped : Bool)
  attempts : List (Option String)

/-- The child lives on, or dies. -/
def lives (on : Bool) (s : Supervisor) : Supervisor :=
  { s with proc := s.proc.map fun child => { child with alive := child.alive && on } }

/-- `_running`. -/
def running (s : Supervisor) : Bool := s.proc.any Child.alive

/-- `stop`; nothing where the child outlives it. -/
def stop (ended : Bool) (s : Supervisor) : Option Supervisor :=
  if running s && !ended then none else some { s with proc := none }

/-- `_spawn`: the new child takes the place of whatever the handle was on. -/
def spawn (s : Supervisor) : Supervisor :=
  { s with proc := some ⟨s.file, true⟩, strays := s.strays ++ s.proc.toList }

/-- The rollback after a candidate that did not come up; `previous` is the text before. -/
def rollBack (luck : Luck) (previous : Option String) (previousRunning : Bool)
    (attempts : List (Option String)) (s : Supervisor) : Outcome :=
  let ended := stop luck.candidateEnded s
  let s := ended.getD s
  if !luck.restored then ⟨s, true, previousRunning, attempts⟩
  else
    let s := { s with file := previous, lastText := if ended.isSome then previous else none }
    if ended.isSome && previousRunning && previous.isSome then
      ⟨if luck.respawned then spawn s else { s with proc := none }, true, previousRunning,
        attempts ++ [s.file]⟩
    else ⟨s, true, previousRunning, attempts⟩

/-- `apply` once the running child is stopped. -/
def install (text : String) (luck : Luck) (previousRunning : Bool) (s : Supervisor) : Outcome :=
  if !luck.replaced then ⟨s, true, previousRunning, []⟩
  else
    let previous := s.lastText
    let s := { s with file := some text }
    if !luck.spawned then rollBack luck previous previousRunning [s.file] s
    else
      let s := lives luck.ready (spawn s)
      if luck.waited && running s then
        ⟨{ s with lastText := some text, applied := some text }, false, previousRunning, [s.file]⟩
      else rollBack luck previous previousRunning [s.file] s

/-- `apply`. -/
def apply (text : String) (luck : Luck) (s : Supervisor) : Outcome :=
  let s := lives luck.found s
  if some text = s.lastText && running s then ⟨{ s with applied := some text }, false, false, []⟩
  else if !luck.valid then ⟨s, true, false, []⟩
  else
    let s := lives luck.running s
    match stop luck.ended s with
    | none => ⟨s, true, false, []⟩
    | some idle => install text luck (running s) idle

/-- What happens to the supervisor. -/
inductive Event where
  | apply (text : String) (luck : Luck)
  | stop (ended : Bool)
  /-- The child dies. -/
  | dies

/-- The supervisor after an event. -/
def step (s : Supervisor) : Event → Supervisor
  | .apply text luck => (apply text luck s).state
  | .stop ended => (stop ended s).getD s
  | .dies => lives false s

/-- A new supervisor without a config file. -/
def blank : Supervisor := ⟨none, [], none, none, none⟩

/-- The config files are put in place when they should be, and a candidate still running when its
wait is broken off can be stopped. -/
def Lucky : Event → Prop
  | .apply _ luck => luck.replaced = true ∧ luck.restored = true ∧
      (luck.waited = true ∨ luck.candidateEnded = true)
  | _ => True

section Steps

variable {s t : Supervisor} {luck : Luck}

theorem stop_eq_some {ended : Bool} (h : stop ended s=some t) : t = { s with proc := none } := by
  unfold stop at h
  split at h
  · cases h
  · exact (Option.some.inj h).symm

theorem strays_rollBack (previous : Option String) (previousRunning : Bool)
    (attempts : List (Option String)) :
    (rollBack luck previous previousRunning attempts s).state.strays=s.strays := by
  unfold rollBack
  cases hstop : stop luck.candidateEnded s with
  | none => cases luck.restored <;> rfl
  | some t =>
    obtain rfl := stop_eq_some hstop
    dsimp only
    split_ifs <;> simp [spawn]

theorem strays_apply (text : String) (luck : Luck) (s : Supervisor) :
    (apply text luck s).state.strays=s.strays := by
  unfold apply
  dsimp only
  split
  · rfl
  · split
    · rfl
    · split
      · rfl
      next t hstop =>
        obtain rfl := stop_eq_some hstop
        unfold install
        dsimp only
        split_ifs <;> simp [strays_rollBack,spawn,lives]

theorem strays_step (s : Supervisor) (event : Event) (h : s.strays=[]) :
    (step s event).strays=[] := by
  cases event with
  | apply text luck => exact (strays_apply text luck s).trans h
  | stop ended =>
    show ((stop ended s).getD s).strays=[]
    cases hstop : stop ended s with
    | none => exact h
    | some t => obtain rfl := stop_eq_some hstop; exact h
  | dies => exact h

/-- The remembered text and the config file are those of the last apply that succeeded. -/
structure Agrees (s : Supervisor) : Prop where
  remembered : s.lastText = s.applied
  written : s.file = s.applied

/-- What an apply does that puts its files in place. -/
structure Applies (s : Supervisor) (o : Outcome) : Prop where
  agrees : Agrees o.state
  kept : o.raised = true → o.state.applied = s.applied
  retried : o.raised = true → o.stopped = true → s.applied.isSome = true → s.applied ∈ o.attempts

/-- A rollback that can stop the candidate and put the config back undoes the apply. -/
theorem rollBack_applies (hrestored : luck.restored=true)
    (hended : running t=true → luck.candidateEnded=true) (ht : t.applied=s.applied)
    (previousRunning : Bool) (attempts : List (Option String)) :
    Applies s (rollBack luck s.applied previousRunning attempts t) := by
  have hstop : stop luck.candidateEnded t=some { t with proc := none } := by
    unfold stop
    cases hlives : running t with
    | false => rfl
    | true => simp [hended hlives]
  unfold rollBack
  simp only [hstop,hrestored,Option.getD_some,Option.isSome_some,Bool.not_true,
    Bool.false_eq_true,if_false,if_true,Bool.true_and]
  split
  · refine ⟨?_,fun _ => ?_,fun _ _ _ => by simp⟩
    · split <;> exact ⟨ht.symm,ht.symm⟩
    · split <;> exact ht
  next hback =>
    refine ⟨⟨ht.symm,ht.symm⟩,fun _ => ht,fun _ hstopped happlied => ?_⟩
    exact absurd (Bool.and_eq_true_iff.mpr ⟨hstopped,happlied⟩) hback

theorem install_applies (h : Agrees s) {text : String} (hlucky : Lucky (.apply text luck))
    (previousRunning : Bool) :
    Applies s (install text luck previousRunning { s with proc := none }) := by
  obtain ⟨hrepl,hrestored,hended⟩ := hlucky
  unfold install
  dsimp only
  rw [h.remembered,hrepl]
  split
  next hfalse => cases hfalse
  next =>
    split
    · refine rollBack_applies hrestored (fun hlives => ?_) ?_ _ _
      · cases hlives
      · rfl
    · split
      · exact ⟨⟨rfl,rfl⟩,(nomatch ·),(nomatch ·)⟩
      next hready =>
        refine rollBack_applies hrestored (fun hlives => ?_) ?_ _ _
        · exact hended.resolve_left fun hwaited =>
            hready (Bool.and_eq_true_iff.mpr ⟨hwaited,hlives⟩)
        · rfl

theorem apply_applies (h : Agrees s) {text : String} (hlucky : Lucky (.apply text luck)) :
    Applies s (apply text luck s) := by
  unfold apply
  dsimp only
  split
  next hsame =>
    have htext : s.applied=some text := by
      rw [← h.remembered]
      exact (of_decide_eq_true (Bool.and_eq_true_iff.mp hsame).1).symm
    exact ⟨⟨h.remembered.trans htext,h.written.trans htext⟩,(nomatch ·),(nomatch ·)⟩
  · split
    · exact ⟨⟨h.remembered,h.written⟩,fun _ => rfl,nofun⟩
    · split
      · exact ⟨⟨h.remembered,h.written⟩,fun _ => rfl,nofun⟩
      next idle hstop =>
        obtain rfl := stop_eq_some hstop
        exact install_applies h hlucky _

theorem agrees_step (s : Supervisor) (event : Event) (hlucky : Lucky event) (h : Agrees s) :
    Agrees (step s event) := by
  cases event with
  | apply text luck => exact (apply_applies h hlucky).agrees
  | stop ended =>
    show Agrees ((stop ended s).getD s)
    cases hstop : stop ended s with
    | none => exact h
    | some t => obtain rfl := stop_eq_some hstop; exact ⟨h.remembered,h.written⟩
  | dies => exact ⟨h.remembered,h.written⟩

end Steps

/-- After every run there is at most one live child. As long as the config files could be put in
place and every candidate left running could be stopped, an apply that raises leaves the config of
the last apply that succeeded, and has tried to start a child on it again where it stopped the one
that ran on it. -/
theorem supervisor_recovers (events : List Event) :
    let s := run step blank events
    (s.proc.toList ++ s.strays).countP Child.alive ≤ 1 ∧
      (EveryStep step (fun _ => Lucky) blank events → ∀ text luck, Lucky (.apply text luck) →
        let after := apply text luck s
        after.raised = true → after.state.file = s.applied ∧
          ∀ child served, s.proc = some child → child.text = some served →
            s.applied = some served → after.stopped = true → some served ∈ after.attempts) := by
  intro s
  constructor
  · have hstrays : s.strays=[] := run_keeps (I := fun s : Supervisor => s.strays=[]) strays_step rfl
    rw [hstrays,List.append_nil]
    refine Nat.le_trans List.countP_le_length ?_
    cases s.proc <;> simp
  · intro hevents text luck hlucky after hraised
    have hagrees : Agrees s := run_keeps_of agrees_step hevents ⟨rfl,rfl⟩
    have happlies := apply_applies hagrees hlucky
    refine ⟨happlies.agrees.written.trans (happlies.kept hraised),?_⟩
    intro child served _ _ hserved hstopped
    have hretried := happlies.retried hraised hstopped (by rw [hserved]; rfl)
    rwa [hserved] at hretried

/-- Every call goes well. -/
def good : Luck := ⟨true, true, true, true, true, true, true, true, true, true, true⟩

/-- A candidate that dies at once: the config that ran is put back and started again. -/
theorem supervisor_recovers_dead_candidate :
    let after := apply "port=54" { good with ready := false }
      (run step blank [.apply "port=53" good])
    after.raised = true ∧ after.state.file = some "port=53" ∧ some "port=53" ∈ after.attempts := by
  intro after
  have h := (supervisor_recovers [.apply "port=53" good]).2 ⟨⟨rfl,rfl,.inl rfl⟩,trivial⟩
    "port=54" { good with ready := false } ⟨rfl,rfl,.inl rfl⟩ (by decide)
  exact ⟨by decide,h.1,h.2 ⟨some "port=53",true⟩ "port=53" (by decide) rfl (by decide) (by decide)⟩

/-- The config cannot be replaced once the child is stopped: nothing is started again. -/
theorem stopped_and_not_restarted :
    let before := run step blank [.apply "port=53" good]
    let after := apply "port=54" { good with replaced := false } before
    before.proc = some ⟨some "port=53", true⟩ ∧ before.applied = some "port=53" ∧
      after.raised = true ∧ after.stopped = true ∧ after.attempts = [] ∧
      after.state.proc = none := by
  decide

/-- A candidate that outlives its rollback makes the supervisor forget the config, and the next
one that fails deletes it. -/
example :
    let hung := { good with waited := false, candidateEnded := false }
    let before := run step blank [.apply "port=53" good, .apply "port=54" hung]
    let after := apply "port=55" { good with ready := false } before
    before.file = some "port=53" ∧ after.raised = true ∧ after.state.file = none := by
  decide

end PiGwPanel.DnsmasqSupervisor
