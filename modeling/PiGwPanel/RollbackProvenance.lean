import PiGwPanel.ConfigManager
import Mathlib.Logic.Relation

/-!
# What the rollback marker proves about the live config

Every call on the config manager is a sequence of single file moves. The moves
are stated once with what the code knows when it makes them, and each property
of arbitrary call sequences is a case analysis over the moves.
-/

namespace PiGwPanel.RollbackProvenance

open AnsweredProgram ConfigManager Prog

variable {Cfg Dig : Type}

/-- The marker pairs the snapshot with the config about to be applied. -/
def Stale (digest : Cfg → Dig) (d : Disk Cfg Dig) (cfg : Cfg) : Prop :=
  ∃ x, d.lastgood = .holds x ∧ d.marker = some (.pairing (digest x) (digest cfg))

/-- One file write of the manager, with the guard under which the code issues it. That no stale
pairing meets a config that goes live blindly is known only when `sure`. -/
inductive Move [DecidableEq Dig] (digest : Cfg → Dig) (sure : Prop) :
    Disk Cfg Dig → Disk Cfg Dig → Prop where
  /-- The readable live config becomes the snapshot. -/
  | snapshot {d} {previous : Cfg} (hlive : d.live = .holds previous) :
      Move digest sure d (d.withLastgood previous)
  /-- The fresh snapshot is paired with the config about to replace the live one. -/
  | pair {d} {previous : Cfg} (cfg : Cfg) (hlive : d.live = .holds previous)
      (hgood : d.lastgood = .holds previous) :
      Move digest sure d (d.withMarker (some (.pairing (digest previous) (digest cfg))))
  /-- A paired config goes live over its snapshot. -/
  | install {d} {previous : Cfg} (cfg : Cfg) (hlive : d.live = .holds previous)
      (hgood : d.lastgood = .holds previous)
      (hmark : d.marker = some (.pairing (digest previous) (digest cfg))) :
      Move digest sure d (d.withLive .apply cfg)
  /-- The pairing is dropped when the live config cannot be read. -/
  | unpair {d} : Move digest sure d (d.withMarker none)
  /-- A config goes live over one that is missing or could not be read. -/
  | installBlind {d} (cfg : Cfg) (hstale : sure → ¬ Stale digest d cfg) :
      Move digest sure d (d.withLive .apply cfg)
  /-- The marker is neutralised. -/
  | neutralise {d} : Move digest sure d (d.withMarker (some .invalidated))
  /-- A config goes live behind a neutralised marker. -/
  | installIrreversible {d} (cfg : Cfg) (hmark : d.marker = some .invalidated) :
      Move digest sure d (d.withLive .irreversible cfg)
  /-- The proven snapshot goes live again. -/
  | promote {d} {lastgood : Cfg} (htgt : rollbackTarget digest d = some lastgood) :
      Move digest sure d (d.withLive .rollback lastgood)
  /-- A promoted snapshot is paired with itself. -/
  | pairSelf {d} {cfg : Cfg} (hlive : d.live = .holds cfg) (hgood : d.lastgood = .holds cfg) :
      Move digest sure d (d.withMarker (some (.pairing (digest cfg) (digest cfg))))

section Moves

variable [DecidableEq Dig] {digest : Cfg → Dig} {start d : Disk Cfg Dig} {sure : Prop}
variable {A : Reply → Prop}

/-- The states the manager can have reached from `start` wherever it stops. -/
abbrev Moves (digest : Cfg → Dig) (sure : Prop) (start : Disk Cfg Dig) : Disk Cfg Dig → Prop :=
  Relation.ReflTransGen (Move digest sure) start

/-- A rollback target is the snapshot, and the marker pairs it with the live config. -/
theorem rollbackTarget_eq_some {x : Cfg} (h : rollbackTarget digest d=some x) :
    d.lastgood = .holds x ∧
      ∃ y, d.live = .holds y ∧ d.marker=some (.pairing (digest x) (digest y)) := by
  unfold rollbackTarget at h
  split at h
  · next lastgood a b live hgood hmark hlive =>
    split at h
    · next hd =>
      cases h
      exact ⟨hgood,live,hlive,by rw [hmark,hd.1,hd.2]⟩
    · cases h
  · cases h

section

variable (hd : Moves digest sure start d)

include hd

/-- A write is a move when its guard holds, and leaves everything alone when it fails. -/
theorem writeAtomic_safe {replace : Disk Cfg Dig → Disk Cfg Dig} {Q : Bool → Disk Cfg Dig → Prop}
    (hmove : Move digest sure d (replace d)) (hQ : ∀ durable, Q durable (replace d)) :
    SafeTo (Moves digest sure start) (writeAtomic replace) d Q A :=
  writeAtomic_safeTo hd (hd.tail hmove) hQ

theorem validateConfig_safe :
    SafeTo (Moves digest sure start) validateConfig d (fun _ t => t=d) A := by
  refine .ask_bind hd fun reply => ?_
  split
  · exact .pure hd rfl
  · exact .raise hd

/-- Once the pairing is dropped a config may go live blindly; a failed unlink leaves the pairing
as it was. -/
theorem invalidateProvenance_safe {cfg : Cfg}
    (hsure : sure → (∀ reply, A reply → reply.gone=true) ∨ ¬Stale digest d cfg) :
    SafeTo (Moves digest sure start) invalidateProvenance d
      (fun _ t => Move digest sure t (t.withLive .apply cfg)) A := by
  refine Prog.Meets.ask_bind hd fun reply hreply => ?_
  split
  · refine Prog.SafeTo.update (hd.tail .unpair) (.installBlind cfg ?_)
    rintro - ⟨x,-,hmark⟩
    cases hmark
  · next hgone =>
    refine Prog.SafeTo.pure hd (.installBlind cfg fun hs => ?_)
    exact (hsure hs).resolve_left fun hall => hgone (hall reply hreply)

theorem invalidateProvenanceDurably_safe :
    SafeTo (Moves digest sure start) invalidateProvenanceDurably d
      fun durable t => durable=true → t.marker=some .invalidated := by
  refine .bind (P := fun r t => ∀ durable, r = .ok durable →
    t.marker=some .invalidated) ?_ ?_
  · refine .attempt
      (writeAtomic_safe (Q := fun _ t => t.marker=some .invalidated) hd .neutralise ?_) ?_ ?_
    · intro durable
      rfl
    · intro durable t _ ht other _
      exact ht
    · intro error t _ other ho
      cases ho
  · intro r t ht hr
    cases r with
    | ok durable => exact .pure ht fun _ => hr durable rfl
    | error e => exact .pure ht nofun

theorem snapshotLive_safe {cfg : Cfg}
    (hsure : sure → (∀ reply, A reply → reply.gone=true) ∨ ¬Stale digest d cfg) :
    SafeTo (Moves digest sure start) (snapshotLive digest cfg) d
      (fun _ t => Move digest sure t (t.withLive .apply cfg)) A := by
  refine .read_bind ?_
  cases hlive : d.live with
  | holds previous =>
    refine .ask_bind hd fun reply => ?_
    split
    · refine .bind (P := fun _ t => t=d.withLastgood previous)
        (writeAtomic_safe hd (.snapshot hlive) fun _ => rfl) ?_
      rintro _ t ht rfl
      refine .bind (P := fun _ t => Move digest sure t (t.withLive .apply cfg))
        (writeAtomic_safe ht (.pair cfg hlive rfl) fun _ => .install cfg hlive rfl rfl) ?_
      intro _ t ht hmove
      exact .pure ht hmove
    · exact invalidateProvenance_safe hd hsure
  | absent => exact invalidateProvenance_safe hd hsure
  | damaged => exact invalidateProvenance_safe hd hsure

theorem apply_safe {cfg : Cfg}
    (hsure : sure → (∀ reply, A reply → reply.gone=true) ∨ ¬Stale digest d cfg) :
    SafeTo (Moves digest sure start) (apply digest cfg) d (fun _ _ => True) A := by
  refine .bind (validateConfig_safe hd) ?_
  rintro ⟨ok,out⟩ t ht rfl
  dsimp only
  split
  · exact .pure ht trivial
  · refine .bind (snapshotLive_safe ht hsure) fun _ t ht hmove => ?_
    refine .bind (P := fun _ _ => True)
      (writeAtomic_safe ht hmove fun _ => trivial) fun _ t ht _ => ?_
    exact .pure ht trivial

/-- An irreversible apply is made of moves, and a completed one leaves its config live
behind a neutralised marker. -/
theorem applyIrreversible_safe (cfg : Cfg) :
    SafeTo (Moves digest sure start) (applyIrreversible cfg) d
      fun result t => result.1=true → t.live = .holds cfg ∧ t.marker=some .invalidated := by
  refine .bind (validateConfig_safe hd) ?_
  rintro ⟨ok,out⟩ t ht rfl
  dsimp only
  split
  · exact .pure ht nofun
  · refine .bind (invalidateProvenanceDurably_safe ht) fun durable t ht hdurable => ?_
    cases durable with
    | false => exact .pure ht nofun
    | true =>
      have hmark := hdurable rfl
      refine .bind (P := fun _ t => t.live = .holds cfg ∧ t.marker=some .invalidated)
        (writeAtomic_safe ht (.installIrreversible cfg hmark) ?_) fun _ t ht hlive => ?_
      · intro _
        exact ⟨rfl,hmark⟩
      · exact .pure ht fun _ => hlive

/-- A rollback is made of moves; one that reports success had a target and promoted it. -/
theorem rollback_safe : SafeTo (Moves digest sure start) (rollback digest) d
      fun result t => result=true → ∃ x, rollbackTarget digest d=some x ∧
        t=(d.withLive .rollback x).withMarker (some (.pairing (digest x) (digest x))) := by
  refine .read_bind ?_
  cases htgt : rollbackTarget digest d with
  | none => exact .pure hd nofun
  | some x =>
    obtain ⟨hgood,-⟩ := rollbackTarget_eq_some htgt
    refine .bind (P := fun _ t => t=d.withLive .rollback x)
      (writeAtomic_safe hd (.promote htgt) fun _ => rfl) ?_
    rintro _ t ht rfl
    refine .bind (P := fun _ t => t=(d.withLive .rollback x).withMarker
        (some (.pairing (digest x) (digest x))))
      (writeAtomic_safe ht (.pairSelf rfl hgood) fun _ => rfl) ?_
    rintro _ t ht rfl
    exact .pure ht fun _ => ⟨x,rfl,rfl⟩

end

/-- A call during which the sidecar can be removed, or that applies a config which the marker on
disk does not pair with the snapshot. -/
def Sure (digest : Cfg → Dig) (d : Disk Cfg Dig) (event : Call Cfg × List Reply) : Prop :=
  (∀ reply ∈ event.2, reply.gone = true) ∨ ∀ cfg, event.1 = .apply cfg → ¬ Stale digest d cfg

/-- Whatever a call is answered and wherever it stops, it has made a sequence of moves. -/
theorem callStep_moves {event : Call Cfg × List Reply} (hsure : sure → Sure digest d event) :
    Moves digest sure d (callStep digest d event) := by
  obtain ⟨call,replies⟩ := event
  have hstate {α : Type} {m : DiskProg Cfg Dig α} {P : α → Disk Cfg Dig → Prop}
      {A : Reply → Prop} (hm : SafeTo (Moves digest sure d) m d P A)
      (hA : ∀ reply∈replies, A reply) :
      Moves digest sure d ((do let _ ← m : DiskProg Cfg Dig Unit) replies d).state :=
    Prog.Meets.state (.bind hm fun _ _ ht => .pure ht.1) hA
  cases call with
  | apply cfg =>
    refine hstate (A := (·∈replies)) (apply_safe .refl fun hs => ?_) fun _ h => h
    exact (hsure hs).imp_right fun hstale => hstale cfg rfl
  | applyIrreversible cfg =>
    exact hstate (applyIrreversible_safe .refl cfg) fun _ _ => trivial
  | rollback => exact hstate (rollback_safe .refl) fun _ _ => trivial
  | invalidateRollback =>
    exact hstate (invalidateProvenanceDurably_safe .refl) fun _ _ => trivial

variable {I : Disk Cfg Dig → Prop}

theorem Moves.keeps (hmove : ∀ {a b}, Move digest sure a b → I a → I b)
    (hd : Moves digest sure start d) (hI : I start) : I d := by
  induction hd with
  | refl => exact hI
  | tail _ hstep ih => exact hmove hstep ih

end Moves

section Truth

variable {digest : Cfg → Dig} {d : Disk Cfg Dig}

/-- The newest write of the live file was an apply of `y` over `x`. -/
def AppliedOver (d : Disk Cfg Dig) (x y : Cfg) : Prop :=
  ∃ earlier, d.history = ⟨.apply, .holds x, y⟩ :: earlier

/-- A marker that pairs the snapshot with the live config speaks the truth: the live config
is the snapshot itself or was applied over it by the newest write. -/
def Truthful (digest : Cfg → Dig) (d : Disk Cfg Dig) : Prop :=
  ∀ x y, d.lastgood = .holds x → d.live = .holds y →
    d.marker = some (.pairing (digest x) (digest y)) → x = y ∨ AppliedOver d x y

/-- Whatever the marker said before, after a move it speaks the truth. -/
theorem truthful_of_move [DecidableEq Dig] {a b : Disk Cfg Dig} (hmove : Move digest True a b) :
    Truthful digest b := by
  intro x y hx hy hmark
  cases hmove with
  | snapshot hlive =>
    cases hx
    exact .inl (FileText.holds.inj (hlive.symm.trans hy))
  | pair cfg hlive hgood =>
    exact .inl (FileText.holds.inj (hx.symm.trans (hgood.trans (hlive.symm.trans hy))))
  | install cfg hlive hgood _ =>
    cases hy
    refine .inr ⟨a.history,?_⟩
    rw [← hx,show (a.withLive .apply y).lastgood=a.live from hgood.trans hlive.symm]
    rfl
  | unpair => cases hmark
  | installBlind cfg hstale =>
    cases hy
    exact absurd ⟨x,hx,hmark⟩ (hstale trivial)
  | neutralise => cases hmark
  | installIrreversible cfg hneutral => cases hneutral.symm.trans hmark
  | promote htgt =>
    obtain ⟨hgood,-⟩ := rollbackTarget_eq_some htgt
    cases hy
    exact .inl (FileText.holds.inj (hx.symm.trans hgood))
  | pairSelf hlive hgood =>
    exact .inl (FileText.holds.inj (hx.symm.trans (hgood.trans (hlive.symm.trans hy))))

end Truth

section Confinement

variable {digest : Cfg → Dig} {d : Disk Cfg Dig}

/-- The configs that were live at some time since the state with `cfg` live and the given
history. -/
def liveSince (cfg : Cfg) (recent : List (LiveWrite Cfg)) : List Cfg :=
  cfg :: recent.map LiveWrite.after

/-- Since `cfg` went live on top of `past`, both the live config and whatever snapshot the
marker vouches for have been live in the meantime. -/
structure Confined (digest : Cfg → Dig) (cfg : Cfg) (past recent : List (LiveWrite Cfg))
    (d : Disk Cfg Dig) : Prop where
  /-- The history only grows. -/
  grown : d.history = recent ++ past
  /-- What is live now has been live since. -/
  live : ∃ y ∈ liveSince cfg recent, d.live = .holds y
  /-- What the marker vouches for has been live since. -/
  vouched : ∀ x y, d.marker = some (.pairing (digest x) y) → x ∈ liveSince cfg recent

variable {cfg : Cfg} {past recent : List (LiveWrite Cfg)}

theorem Confined.target [DecidableEq Dig] {x : Cfg} (hd : Confined digest cfg past recent d)
    (hx : rollbackTarget digest d=some x) : x∈liveSince cfg recent := by
  obtain ⟨-,y,-,hmark⟩ := rollbackTarget_eq_some hx
  exact hd.vouched x _ hmark

/-- Writing a config that was or becomes live keeps the disk confined. -/
theorem Confined.withLive (hd : Confined digest cfg past recent d) (kind : WriteKind) (new : Cfg) :
    Confined digest cfg past (⟨kind,d.live,new⟩::recent) (d.withLive kind new) where
  grown := by simp [Disk.withLive,hd.grown]
  live := ⟨new,by simp [liveSince],rfl⟩
  vouched x y hmark := by
    have hx := hd.vouched x y hmark
    simp only [liveSince,List.map_cons,List.mem_cons] at hx ⊢
    rcases hx with hx | hx
    · exact .inl hx
    · exact .inr (.inr hx)

theorem Confined.withPairing (hinj : Function.Injective digest) {previous : Cfg}
    (hd : Confined digest cfg past recent d) (hlive : d.live = .holds previous) (z : Dig) :
    Confined digest cfg past recent (d.withMarker (some (.pairing (digest previous) z))) where
  grown := hd.grown
  live := hd.live
  vouched x y hmark := by
    obtain ⟨y',hy',hlive'⟩ := hd.live
    cases hlive.symm.trans hlive'
    simp only [Disk.withMarker,Option.some.injEq,Marker.pairing.injEq] at hmark
    rw [← hinj hmark.1]
    exact hy'

theorem Confined.move [DecidableEq Dig] (hinj : Function.Injective digest) {a b : Disk Cfg Dig}
    (hmove : Move digest False a b) (ha : ∃ recent, Confined digest cfg past recent a) :
    ∃ recent, Confined digest cfg past recent b := by
  obtain ⟨recent,ha⟩ := ha
  have unvouched (marker : Option (Marker Dig)) (h : ∀ x y, marker≠some (.pairing x y)) :
      Confined digest cfg past recent (a.withMarker marker) :=
    ⟨ha.grown,ha.live,fun x y hmark => absurd hmark (h _ _)⟩
  cases hmove with
  | snapshot hlive => exact ⟨recent,ha.grown,ha.live,ha.vouched⟩
  | pair cfg hlive hgood => exact ⟨recent,ha.withPairing hinj hlive _⟩
  | install cfg hlive hgood hmark => exact ⟨_,ha.withLive .apply cfg⟩
  | unpair => exact ⟨recent,unvouched none nofun⟩
  | installBlind cfg _ => exact ⟨_,ha.withLive .apply cfg⟩
  | neutralise => exact ⟨recent,unvouched (some .invalidated) nofun⟩
  | installIrreversible cfg hmark => exact ⟨_,ha.withLive .irreversible cfg⟩
  | promote htgt => exact ⟨_,ha.withLive .rollback _⟩
  | pairSelf hlive hgood => exact ⟨recent,ha.withPairing hinj hlive _⟩

end Confinement

section Rollback

variable [DecidableEq Dig] {digest : Cfg → Dig} {d : Disk Cfg Dig}

/-- The three files are unchanged; the ghost history may have grown. -/
def SameFiles (d e : Disk Cfg Dig) : Prop :=
  e.live = d.live ∧ e.lastgood = d.lastgood ∧ e.marker = d.marker

/-- Every rollback from `d` that succeeds changes no file or restores the config that was
live immediately before the apply that installed the current one. -/
def UndoesLastApply (digest : Cfg → Dig) (d : Disk Cfg Dig) : Prop :=
  ∀ replies, (rollback digest replies d).outcome = .done true →
    SameFiles d (rollback digest replies d).state ∨ ∃ x y, d.live = .holds y ∧ AppliedOver d x y ∧
        (rollback digest replies d).state.live = .holds x

/-- A successful rollback over a truthful marker restores what the last apply replaced. -/
theorem rollback_of_truthful (hd : Truthful digest d) : UndoesLastApply digest d := by
  intro replies hdone
  have hrefl : Moves digest True d d := .refl
  obtain ⟨x,htgt,hstate⟩ := (rollback_safe hrefl).value hdone rfl
  obtain ⟨hgood,y,hlive,hmark⟩ := rollbackTarget_eq_some htgt
  rw [hstate]
  rcases hd x y hgood hlive hmark with rfl | happlied
  · exact .inl ⟨hlive.symm,rfl,hmark.symm⟩
  · exact .inr ⟨x,y,hlive,happlied,rfl⟩

/-- Wherever a rollback stops, it left the live config alone or put its target there. -/
theorem rollback_live (digest : Cfg → Dig) (replies : List Reply) :
    (rollback digest replies d).state.live=d.live ∨ ∃ x, rollbackTarget digest d=some x ∧
        (rollback digest replies d).state.live = .holds x := by
  let I (t : Disk Cfg Dig) : Prop :=
    t.live=d.live ∨ ∃ x, rollbackTarget digest d=some x ∧ t.live = .holds x
  have hsafe : SafeTo I (rollback digest) d fun _ _ => True := by
    refine .read_bind ?_
    have hI : I d := .inl rfl
    cases htgt : rollbackTarget digest d with
    | none => exact .pure hI trivial
    | some x =>
      have hx : ∀ t : Disk Cfg Dig, t.live = .holds x → I t := fun t ht => .inr ⟨x,htgt,ht⟩
      refine .bind (P := fun _ t => t.live = .holds x)
        (writeAtomic_safeTo hI (hx _ rfl) fun _ => rfl) fun _ t ht hlive => ?_
      refine .bind (P := fun _ _ => True)
        (writeAtomic_safeTo ht (hx _ hlive) fun _ => trivial) fun _ t ht _ => ?_
      exact .pure ht trivial
  exact hsafe.state replies

/-- After any further calls a rollback leaves the live config alone or installs one that has
been live since `cfg` was live in `d`. -/
def NeverUndone (digest : Cfg → Dig) (cfg : Cfg) (d : Disk Cfg Dig) : Prop :=
  ∀ calls replies, ∃ recent,
    (run (callStep digest) d calls).history = recent ++ d.history ∧
    ((rollback digest replies (run (callStep digest) d calls)).state.live =
        (run (callStep digest) d calls).live ∨
      ∃ x ∈ liveSince cfg recent,
        (rollback digest replies (run (callStep digest) d calls)).state.live = .holds x)

/-- A config that went live behind a neutralised marker is never undone. -/
theorem neverUndone_of_invalidated (hinj : Function.Injective digest) {cfg : Cfg}
    (hlive : d.live = .holds cfg) (hmark : d.marker=some .invalidated) :
    NeverUndone digest cfg d := by
  intro calls replies
  have hinit : ∃ recent, Confined digest cfg d.history recent d :=
    ⟨[],rfl,⟨cfg,by simp [liveSince],hlive⟩,fun x y h => by simp [hmark] at h⟩
  obtain ⟨recent,hconf⟩ : ∃ recent, Confined digest cfg d.history recent
      (run (callStep digest) d calls) :=
    run_keeps (I := fun t => ∃ recent, Confined digest cfg d.history recent t)
      (fun _ _ => (callStep_moves False.elim).keeps (Confined.move hinj)) hinit
  refine ⟨recent,hconf.grown,?_⟩
  rcases rollback_live digest replies with hsame | ⟨x,htgt,hx⟩
  · exact .inl hsame
  · exact .inr ⟨x,hconf.target htgt,hx⟩

/-- After any calls, answered in any way and cut short anywhere: when every call was sure, a
rollback that succeeds undoes the last apply; and no rollback ever undoes a completed irreversible
apply. -/
theorem rollback_restores_replaced_config (hinj : Function.Injective digest)
    (start : Disk Cfg Dig) (hstart : Truthful digest start) (calls : List (Call Cfg × List Reply)) :
    (EveryStep (callStep digest) (Sure digest) start calls →
      UndoesLastApply digest (run (callStep digest) start calls)) ∧
    ∀ cfg answers out, (applyIrreversible cfg answers (run (callStep digest) start calls)).outcome =
        .done (true, out) →
      NeverUndone digest cfg
        (applyIrreversible cfg answers (run (callStep digest) start calls)).state := by
  constructor
  · intro hsure
    refine rollback_of_truthful (run_keeps_of (fun _ _ hevent => ?_) hsure hstart)
    exact (callStep_moves fun _ => hevent).keeps fun hmove _ => truthful_of_move hmove
  · intro cfg answers out hdone
    have hrefl : Moves digest True (run (callStep digest) start calls) _ := .refl
    obtain ⟨hlive,hmark⟩ := (applyIrreversible_safe hrefl cfg).value hdone rfl
    exact neverUndone_of_invalidated hinj hlive hmark

/-- A fresh data directory. -/
def freshDisk : Disk ℕ ℕ := ⟨.absent, .absent, none, []⟩

/-- One config is applied, then another, each without trouble. -/
def twoApplies : List (Call ℕ × List Reply) :=
  [(.apply 1, List.replicate 3 .good), (.apply 2, List.replicate 5 .good)]

/-- Two applies followed by a rollback that succeeds, and a completed irreversible apply. -/
theorem rollback_restores_replaced_config_two_applies :
    let d := run (callStep id) freshDisk twoApplies
    ((rollback id [.good, .good] d).outcome = .done true ∧ UndoesLastApply id d) ∧
      (applyIrreversible 3 (List.replicate 3 .good) d).outcome = .done (true, "") ∧
      NeverUndone id 3 (applyIrreversible 3 (List.replicate 3 .good) d).state := by
  have hstart : Truthful id freshDisk := nofun
  have h := rollback_restores_replaced_config Function.injective_id freshDisk hstart twoApplies
  exact ⟨⟨by decide,h.1 ⟨.inl (by decide),.inl (by decide),trivial⟩⟩,by decide,
    h.2 3 _ "" (by decide)⟩

/-- The second config is applied again; this time it cannot be read and the marker cannot be
removed. The rollback then installs the first config, which the last apply did not replace. -/
theorem rollback_skips_an_apply :
    let d := run (callStep id) freshDisk (twoApplies ++
      [(.apply 2, [.good, .bad, { Reply.bad with gone := false }, .good])])
    (rollback id [.good, .good] d).outcome = .done true ∧
      (rollback id [.good, .good] d).state.live = .holds 1 ∧ AppliedOver d 2 2 ∧
      ¬ UndoesLastApply id d := by
  intro d
  have happlied : AppliedOver d 2 2 := ⟨d.history.tail,by decide⟩
  have hdone : (rollback id [.good,.good] d).outcome = .done true := by decide
  have hlive : (rollback id [.good,.good] d).state.live = .holds 1 := by decide
  refine ⟨hdone,hlive,happlied,fun hundoes => ?_⟩
  rcases hundoes _ hdone with ⟨hsame,-⟩ | ⟨x,y,-,⟨earlier,hover⟩,hx⟩
  · revert hsame
    decide
  · obtain ⟨rest,hrest⟩ := happlied
    cases hrest.symm.trans hover
    cases hlive.symm.trans hx

end Rollback

end PiGwPanel.RollbackProvenance
