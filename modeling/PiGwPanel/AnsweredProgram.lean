import Mathlib.Data.List.Basic

/-!
# Programs whose commands are answered by an environment

A command of a program may take effect or not, and may report success or not,
independently of each other. An answered program reads one reply for every
command it issues; when the replies run out the process has died at that very
command. Quantifying over every finite list of replies therefore covers every
choice of failures and every crash point at once.
-/

namespace PiGwPanel.AnsweredProgram

/-- One answer of the environment to one command. -/
structure Reply where
  /-- Whether the command changed what it was meant to change. -/
  took : Bool
  /-- Whether the command reported success to its caller. -/
  said : Bool
  /-- Text that came with the answer. -/
  text : String
  /-- Whether a file that was to be removed is gone; only a removal looks at it. -/
  gone : Bool
  deriving DecidableEq, Repr

/-- The command took effect and said so. -/
def Reply.good : Reply := ⟨true, true, "", true⟩

/-- The command had no effect and said so. -/
def Reply.bad : Reply := ⟨false, false, "", true⟩

/-- How a program ends: with a value, with an exception, or with its process. -/
inductive Outcome (ε α : Type) where
  | done (value : α)
  | raised (error : ε)
  | killed
  deriving DecidableEq, Repr

/-- Where a program ended, what was left unread and the state it left behind. -/
structure Exit (R σ ε α : Type) where
  /-- Value, exception or death of the process. -/
  outcome : Outcome ε α
  /-- Replies not consumed. -/
  unread : List R
  /-- State the program left. -/
  state : σ

/-- A program over state `σ`, answered by `R`, raising `ε` and returning `α`. -/
def Prog (R σ ε α : Type) : Type := List R → σ → Exit R σ ε α

namespace Prog

variable {R σ τ ε α β : Type}

/-- Return a value without issuing a command. -/
def ret (value : α) : Prog R σ ε α := fun replies s => ⟨.done value, replies, s⟩

/-- Run the second program on the value of the first, unless the first raised or died. -/
def andThen (m : Prog R σ ε α) (next : α → Prog R σ ε β) : Prog R σ ε β := fun replies s =>
  match m replies s with
  | ⟨.done value, rest, t⟩ => next value rest t
  | ⟨.raised error, rest, t⟩ => ⟨.raised error, rest, t⟩
  | ⟨.killed, rest, t⟩ => ⟨.killed, rest, t⟩

instance : Monad (Prog R σ ε) where
  pure := ret
  bind := andThen

/-- Issue one command: read its reply, or die with the process. -/
def ask : Prog R σ ε R := fun replies s =>
  match replies with
  | [] => ⟨.killed, [], s⟩
  | reply :: rest => ⟨.done reply, rest, s⟩

/-- Raise an exception. -/
def raise (error : ε) : Prog R σ ε α := fun replies s => ⟨.raised error, replies, s⟩

/-- Read the state. -/
def read : Prog R σ ε σ := fun replies s => ⟨.done s, replies, s⟩

/-- Update the state. -/
def update (f : σ → σ) : Prog R σ ε Unit := fun replies s => ⟨.done (), replies, f s⟩

/-- Catch the exceptions of a program; the death of the process is not caught. -/
def attempt (m : Prog R σ ε α) : Prog R σ ε (Except ε α) := fun replies s =>
  match m replies s with
  | ⟨.done value, rest, t⟩ => ⟨.done (.ok value), rest, t⟩
  | ⟨.raised error, rest, t⟩ => ⟨.done (.error error), rest, t⟩
  | ⟨.killed, rest, t⟩ => ⟨.killed, rest, t⟩

/-- Run a program on the part of a larger state that `get` reads and `put` writes. -/
def on (get : τ → σ) (put : σ → τ → τ) (m : Prog R σ ε α) : Prog R τ ε α := fun replies t =>
  match m replies (get t) with
  | ⟨outcome, rest, s⟩ => ⟨outcome, rest, put s t⟩

/-- As long as every reply satisfies `A`: a value the program returns meets `Q`, an exception
leaves a state in `E`, and the death of the process one in `K`. -/
def Meets (A : R → Prop) (m : Prog R σ ε α) (s : σ) (K E : σ → Prop) (Q : α → σ → Prop) : Prop :=
  ∀ replies, (∀ reply ∈ replies, A reply) → (∀ reply ∈ (m replies s).unread, A reply) ∧
    match (m replies s).outcome with
    | .done value => Q value (m replies s).state
    | .raised _ => E (m replies s).state
    | .killed => K (m replies s).state

variable {f : σ → σ} {put : σ → τ → τ} {W : Except ε α → σ → Prop} {replies : List R} {error : ε}

section Meets

variable {A : R → Prop} {m : Prog R σ ε α} {next : α → Prog R σ ε β} {s : σ}
variable {K K' E E' : σ → Prop} {P Q : α → σ → Prop} {U : β → σ → Prop}

theorem Meets.raise (hE : E s) : Meets A (raise error : Prog R σ ε α) s K E Q := by
  intro replies hreps
  exact ⟨hreps,hE⟩

section

variable (hm : Meets A m s K E P)

include hm

theorem Meets.mono (hK : ∀ t, K t → K' t) (hE : ∀ t, E t → E' t)
    (hP : ∀ value t, P value t → Q value t) : Meets A m s K' E' Q := by
  intro replies hreps
  obtain ⟨hunread,hend⟩ := hm replies hreps
  refine ⟨hunread,?_⟩
  cases ho : (m replies s).outcome with
  | done value =>
    rw [ho] at hend
    exact hP value _ hend
  | raised error =>
    rw [ho] at hend
    exact hE _ hend
  | killed =>
    rw [ho] at hend
    exact hK _ hend

theorem Meets.value (hP : ∀ value t, P value t → Q value t) :
    Meets A m s K E Q := hm.mono (fun _ h => h) (fun _ h => h) hP

theorem Meets.weaken (hK : ∀ t, K t → K' t) (hE : ∀ t, E t → E' t) :
    Meets A m s K' E' P := hm.mono hK hE fun _ _ h => h

/-- Sequencing: what the first program returns in is where the second one starts. -/
theorem Meets.bind (hnext : ∀ value t, P value t → Meets A (next value) t K E U) :
    Meets A (m >>= next) s K E U := by
  intro replies hreps
  obtain ⟨hunread,hend⟩ := hm replies hreps
  change (∀ reply∈(andThen m next replies s).unread, A reply) ∧
    match (andThen m next replies s).outcome with
    | .done value => U value (andThen m next replies s).state
    | .raised _ => E (andThen m next replies s).state
    | .killed => K (andThen m next replies s).state
  unfold andThen
  rcases hx : m replies s with ⟨outcome,rest,t⟩
  rw [hx] at hunread hend
  cases outcome with
  | done value => exact hnext value t hend rest hunread
  | raised error => exact ⟨hunread,hend⟩
  | killed => exact ⟨hunread,hend⟩

end

theorem Meets.pure {value : α} (hQ : Q value s) : Meets A (pure value : Prog R σ ε α) s K E Q := by
  intro replies hreps
  exact ⟨hreps,hQ⟩

/-- A first program whose every value is taken over by the rest. -/
theorem Meets.seq {next : α → Prog R σ ε β}
    (hm : Meets A m s K E fun value t => Meets A (next value) t K E U) :
    Meets A (m >>= next) s K E U := .bind hm fun _ _ h => h

/-- A command either ends the process or answers with a reply in `A`. -/
theorem Meets.ask_bind {next : R → Prog R σ ε β} (hK : K s)
    (hreply : ∀ reply, A reply → Meets A (next reply) s K E U) :
    Meets A (ask >>= next) s K E U := by
  intro replies hreps
  cases replies with
  | nil => exact ⟨hreps,hK⟩
  | cons reply rest =>
    exact hreply reply (hreps reply (by simp)) rest fun r hr => hreps r (by simp [hr])

theorem Meets.read_bind {next : σ → Prog R σ ε β} (hnext : Meets A (next s) s K E U) :
    Meets A (read >>= next) s K E U := hnext

theorem Meets.update {Q : Unit → σ → Prop} (hQ : Q () (f s)) :
    Meets A (update f : Prog R σ ε Unit) s K E Q := by
  intro replies hreps
  exact ⟨hreps,hQ⟩

theorem Meets.update_bind {next : Unit → Prog R σ ε β}
    (hnext : Meets A (next ()) (f s) K E U) : Meets A (Prog.update f >>= next) s K E U := hnext

/-- A caught exception becomes a value; the death of the process stays one. -/
theorem Meets.attempt {X : σ → Prop} (hm : Meets A m s K X P)
    (hok : ∀ value t, P value t → W (.ok value) t) (herror : ∀ error t, X t → W (.error error) t) :
    Meets A (attempt m) s K E W := by
  intro replies hreps
  obtain ⟨hunread,hend⟩ := hm replies hreps
  unfold Prog.attempt
  rcases hx : m replies s with ⟨outcome,rest,t⟩
  rw [hx] at hunread hend
  cases outcome with
  | done value => exact ⟨hunread,hok value t hend⟩
  | raised error => exact ⟨hunread,herror error t hend⟩
  | killed => exact ⟨hunread,hend⟩

/-- A program run on a part of the state changes that part only. -/
theorem Meets.on {get : τ → σ} {t : τ} {K E : τ → Prop} {Q : α → τ → Prop}
    (hm : Meets A m (get t) (fun s => K (put s t)) (fun s => E (put s t))
      fun value s => Q value (put s t)) : Meets A (on get put m) t K E Q := by
  intro replies hreps
  exact hm replies hreps

/-- What a program does to a part, in terms of the whole. -/
theorem Meets.within {get : τ → σ} {t : τ} {K' E' : τ → Prop}
    {U : α → τ → Prop} (hm : Meets A m (get t) K E Q) (hK : ∀ s, K s → K' (put s t))
    (hE : ∀ s, E s → E' (put s t)) (hQ : ∀ value s, Q value s → U value (put s t)) :
    Meets A (Prog.on get put m) t K' E' U := .on (hm.mono hK hE hQ)

theorem Meets.state {I : σ → Prop} (hm : Meets A m s I I fun _ t => I t)
    (hreps : ∀ reply∈replies, A reply) : I (m replies s).state := by
  have hend := (hm replies hreps).2
  split at hend
  · exact hend
  · exact hend
  · exact hend

theorem Meets.anything :
    Meets (fun _ => True) m s (fun _ => True) (fun _ => True) fun _ _ => True := by
  intro replies _
  refine ⟨fun _ _ => trivial,?_⟩
  split <;> trivial

end Meets

section Erases

/-! ### Programs that keep notes

A program over a larger state erases to one over a part of it when the rest is
written and never read. -/

variable {get : τ → σ} {m : Prog R σ ε α} {noted : Prog R τ ε α}
variable {next : α → Prog R σ ε β} {notedNext : α → Prog R τ ε β}

/-- Without its notes the first program is the second. -/
def Erases (get : τ → σ) (noted : Prog R τ ε α) (m : Prog R σ ε α) : Prop :=
  ∀ replies t, m replies (get t) =
    ⟨(noted replies t).outcome, (noted replies t).unread, get (noted replies t).state⟩

theorem Erases.pure (value : α) :
    Erases get (pure value : Prog R τ ε α) (Pure.pure value : Prog R σ ε α) := fun _ _ => rfl

theorem Erases.raise (error : ε) :
    Erases get (raise error : Prog R τ ε α) (Prog.raise error : Prog R σ ε α) := fun _ _ => rfl

theorem Erases.note {f : τ → τ} (hf : ∀ t, get (f t)=get t) :
    Erases get (Prog.update f : Prog R τ ε Unit) (Pure.pure () : Prog R σ ε Unit) := by
  intro replies t
  change Exit.mk (.done ()) replies (get t)=Exit.mk (.done ()) replies (get (f t))
  rw [hf t]

theorem Erases.on (hput : ∀ s t, get (put s t)=s) : Erases get (Prog.on get put m) m := by
  intro replies t
  unfold Prog.on
  rcases hx : m replies (get t) with ⟨outcome,rest,s⟩
  simp only [hput]

theorem Erases.bind (hm : Erases get noted m)
    (hnext : ∀ value, Erases get (notedNext value) (next value)) :
    Erases get (noted >>= notedNext) (m >>= next) := by
  intro replies t
  change andThen m next replies (get t)=⟨(andThen noted notedNext replies t).outcome,
    (andThen noted notedNext replies t).unread,get (andThen noted notedNext replies t).state⟩
  unfold andThen
  rw [hm replies t]
  rcases hx : noted replies t with ⟨outcome,rest,u⟩
  cases outcome with
  | done value => exact hnext value rest u
  | raised error => rfl
  | killed => rfl

theorem Erases.attempt (hm : Erases get noted m) :
    Erases get (Prog.attempt noted) (Prog.attempt m) := by
  intro replies t
  unfold Prog.attempt
  rw [hm replies t]
  rcases hx : noted replies t with ⟨outcome,rest,u⟩
  cases outcome <;> rfl

end Erases

/-- Wherever the program stops `I` holds of the state, and a value it returns meets `Q`, as long
as every reply satisfies `A`. -/
def SafeTo (I : σ → Prop) (m : Prog R σ ε α) (s : σ) (Q : α → σ → Prop)
    (A : R → Prop := fun _ => True) : Prop :=
  Meets A m s I I fun value t => I t ∧ Q value t

section SafeTo

variable {m : Prog R σ ε α} {next : α → Prog R σ ε β} {s : σ}
variable {I : σ → Prop} {P P' : α → σ → Prop} {U : β → σ → Prop} {A : R → Prop}

theorem SafeTo.raise (hI : I s) : SafeTo I (raise error : Prog R σ ε α) s P A :=
  Meets.raise hI

theorem SafeTo.ask_bind {next : R → Prog R σ ε β} (hI : I s)
    (hreply : ∀ reply, SafeTo I (next reply) s U A) : SafeTo I (ask >>= next) s U A :=
  Meets.ask_bind hI fun reply _ => hreply reply

theorem SafeTo.read_bind {next : σ → Prog R σ ε β} (hnext : SafeTo I (next s) s U A) :
    SafeTo I (read >>= next) s U A := hnext

theorem SafeTo.update {Q : Unit → σ → Prop} (hI : I (f s)) (hQ : Q () (f s)) :
    SafeTo I (update f : Prog R σ ε Unit) s Q A := Meets.update ⟨hI,hQ⟩

theorem SafeTo.update_bind {next : Unit → Prog R σ ε β}
    (hnext : SafeTo I (next ()) (f s) U A) : SafeTo I (Prog.update f >>= next) s U A := hnext

theorem SafeTo.state (hm : SafeTo I m s P) (replies : List R) : I (m replies s).state :=
  (Meets.value hm fun _ _ h => h.1).state fun _ _ => trivial

theorem SafeTo.value (hm : SafeTo I m s P) {value : α}
    (hv : (m replies s).outcome = .done value) : P value (m replies s).state := by
  have hend := (hm replies fun _ _ => trivial).2
  rw [hv] at hend
  exact hend.2

section

variable (hm : SafeTo I m s P A)

include hm

theorem SafeTo.mono (hP : ∀ value t, I t → P value t → P' value t) : SafeTo I m s P' A :=
  Meets.value hm fun value t h => ⟨h.1,hP value t h.1 h.2⟩

/-- Sequencing keeps the invariant at every stop of either program. -/
theorem SafeTo.bind (hnext : ∀ value t, I t → P value t → SafeTo I (next value) t U A) :
    SafeTo I (m >>= next) s U A :=
  Meets.bind hm fun value t h => hnext value t h.1 h.2

/-- A caught exception is only known to leave the invariant. -/
theorem SafeTo.attempt (hok : ∀ value t, I t → P value t → W (.ok value) t)
    (herror : ∀ error t, I t → W (.error error) t) : SafeTo I (attempt m) s W A :=
  Meets.attempt hm (fun value t h => ⟨h.1,hok value t h.1 h.2⟩)
    fun error t h => ⟨h,herror error t h⟩

end

theorem SafeTo.pure {value : α} (hI : I s) (hP : P value s) :
    SafeTo I (pure value : Prog R σ ε α) s P A := Meets.pure ⟨hI,hP⟩

end SafeTo

/-- From every state with `I` the program stops in one. -/
def Keeps (I : σ → Prop) (m : Prog R σ ε α) : Prop := ∀ s, I s → SafeTo I m s fun _ _ => True

section Keeps

variable {m m' : Prog R σ ε α} {next : α → Prog R σ ε β} {I : σ → Prop}

theorem Keeps.pure (value : α) : Keeps I (pure value : Prog R σ ε α) :=
  fun _ hI => .pure hI trivial

theorem Keeps.raise (error : ε) : Keeps I (raise error : Prog R σ ε α) := fun _ hI => .raise hI

theorem Keeps.bind (hm : Keeps I m) (hnext : ∀ value, Keeps I (next value)) :
    Keeps I (m >>= next) :=
  fun s hI => .bind (hm s hI) fun value t ht _ => hnext value t ht

theorem Keeps.last (hm : Keeps I m) {f : α → β} : Keeps I (m >>= fun value => Pure.pure (f value)) :=
  hm.bind fun _ => .pure _

theorem Keeps.ask_bind {next : R → Prog R σ ε β} (hreply : ∀ reply, Keeps I (next reply)) :
    Keeps I (ask >>= next) := fun s hI => .ask_bind hI fun reply => hreply reply s hI

theorem Keeps.read_bind {next : σ → Prog R σ ε β} (hnext : ∀ s, Keeps I (next s)) :
    Keeps I (read >>= next) := fun s hI => .read_bind (hnext s s hI)

theorem Keeps.update (hf : ∀ s, I s → I (f s)) :
    Keeps I (update f : Prog R σ ε Unit) := fun s hI => .update (hf s hI) trivial

theorem Keeps.attempt (hm : Keeps I m) : Keeps I (attempt m) :=
  fun s hI => .attempt (hm s hI) (fun _ _ _ _ => trivial) fun _ _ _ => trivial

theorem Keeps.ite {c : Prop} [Decidable c] (hm : Keeps I m) (hm' : Keeps I m') :
    Keeps I (if c then m else m') := by
  split
  · exact hm
  · exact hm'

end Keeps

end Prog

section Runs

variable {σ ι : Type} (step : σ → ι → σ)

/-- The state after a list of events. -/
def run (s : σ) (events : List ι) : σ := events.foldl step s

/-- Every event of the list meets `C` in the state it is met with. -/
def EveryStep (C : σ → ι → Prop) : σ → List ι → Prop
  | _, [] => True
  | s, event :: rest => C s event ∧ EveryStep C (step s event) rest

instance EveryStep.decidable (C : σ → ι → Prop) [∀ s event, Decidable (C s event)] :
    (s : σ) → (events : List ι) → Decidable (EveryStep step C s events)
  | _, [] => .isTrue trivial
  | s, event :: rest =>
    have := EveryStep.decidable C (step s event) rest
    inferInstanceAs (Decidable (C s event ∧ EveryStep step C (step s event) rest))

variable {step} {I : σ → Prop} {C : σ → ι → Prop} {s : σ} {events : List ι}

@[simp] theorem run_nil : run step s []=s := rfl

@[simp] theorem run_cons (event : ι) :
    run step s (event::events)=run step (step s event) events := rfl

theorem run_append (more : List ι) :
    run step s (events++more)=run step (run step s events) more := by
  simp [run]

/-- A property kept by every event that meets `C` holds after every run made of such events. -/
theorem run_keeps_of (hstep : ∀ s event, C s event → I s → I (step s event))
    (hC : EveryStep step C s events) (hI : I s) : I (run step s events) := by
  induction events generalizing s with
  | nil => exact hI
  | cons event rest ih => exact ih hC.2 (hstep s event hC.1 hI)

theorem run_keeps (hstep : ∀ s event, I s → I (step s event)) (hI : I s) :
    I (run step s events) := by
  induction events generalizing s with
  | nil => exact hI
  | cons event rest ih => exact ih (hstep s event hI)

end Runs

end PiGwPanel.AnsweredProgram
