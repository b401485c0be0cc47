import PiGwPanel.FeedOutcome

/-!
# The shrink guard over a subscription's history

A feed that lists fewer than half of the stored nodes deletes nothing the first
time: it flags the missing nodes and leaves its fingerprint in the settings.
What a merge deletes therefore depends on the merge before it, and this module
follows both through any history of one subscription's merges, of which some
fail and are rolled back.
-/

namespace PiGwPanel.FeedMerge

open NodeSecurity StableFirstMatch List

/-- One attempt at a merge. An attempt that fails is rolled back. -/
structure Attempt where
  call : MergeCall
  completes : Bool

section History

variable (digest : List Identity → String)

/-- The store after an attempt. -/
def attempted (store : FeedStore) (attempt : Attempt) : FeedStore :=
  if attempt.completes then (reconcile digest attempt.call store).1 else store

/-- The store after a history of attempts. -/
def history (start : FeedStore) (attempts : List Attempt) : FeedStore :=
  attempts.foldl (attempted digest) start

/-- The history ends in a completed merge of `call` in the store `before`, but for failures. -/
def LastCompleted (start : FeedStore) (attempts : List Attempt) (before : FeedStore)
    (call : MergeCall) : Prop :=
  ∃ earlier failures, attempts = earlier ++ ⟨call, true⟩ :: failures ∧
    (∀ attempt ∈ failures, attempt.completes = false) ∧ before = history digest start earlier

variable {digest} {start : FeedStore} {attempts : List Attempt}

theorem history_failures {store : FeedStore} (h : ∀ attempt∈attempts, attempt.completes=false) :
    history digest store attempts=store := by
  induction attempts with
  | nil => rfl
  | cons attempt rest ih =>
    have hstep : attempted digest store attempt=store := by
      unfold attempted
      rw [h attempt mem_cons_self]
      rfl
    unfold history at ih ⊢
    rw [foldl_cons,hstep]
    exact ih fun other hother => h other (mem_cons_of_mem _ hother)

theorem LastCompleted.history_eq {before : FeedStore} {call : MergeCall}
    (h : LastCompleted digest start attempts before call) :
    history digest start attempts=(reconcile digest call before).1 := by
  obtain ⟨earlier,failures,rfl,hfailed,rfl⟩ := h
  have hsplit : history digest start (earlier++⟨call,true⟩::failures) =
      history digest (reconcile digest call (history digest start earlier)).1 failures := by
    unfold history
    rw [foldl_append,foldl_cons]
    rfl
  rw [hsplit,history_failures hfailed]

/-- A history has a last completed merge, or nothing has happened. -/
theorem lastCompleted_cases (digest : List Identity → String) (start : FeedStore)
    (attempts : List Attempt) : history digest start attempts=start ∨
      ∃ before call, LastCompleted digest start attempts before call := by
  induction attempts using reverseRecOn with
  | nil => exact .inl rfl
  | append_singleton attempts attempt ih =>
    cases hdone : attempt.completes with
    | true =>
      right
      refine ⟨history digest start attempts,attempt.call,attempts,[],?_,by simp,rfl⟩
      rw [← hdone]
    | false =>
      have hlast : ∀ other∈[attempt], other.completes=false := by simpa using hdone
      rcases ih with hsame | ⟨before,call,earlier,failures,rfl,hfailed,hpre⟩
      · left
        have hsplit : history digest start (attempts++[attempt]) =
            history digest (history digest start attempts) [attempt] := foldl_append
        rw [hsplit,history_failures hlast,hsame]
      · right
        refine ⟨before,call,earlier,failures++[attempt],by simp,?_,hpre⟩
        intro other hother
        rcases mem_append.mp hother with hother | hother
        · exact hfailed other hother
        · exact hlast other hother

end History

section Deletions

/-! ### What one merge deletes -/

variable (digest : List Identity → String) (call : MergeCall) (store : FeedStore)

/-- The merge deletes the row. -/
def Deleted (row : RawNode) : Prop :=
  row ∈ store.rows ∧ ∀ new ∈ (reconcile digest call store).1.rows, new.id ≠ row.id

/-- The feed lists fewer than half of the stored nodes, and some. -/
def Shrinks : Prop :=
  call.entries ≠ [] ∧ 2 * call.entries.length < (nodesForSub store.rows call.subId).length

variable {digest call store}

theorem anomalousShrink_iff :
    call.anomalousShrink (nodesForSub store.rows call.subId)=true ↔ Shrinks call store := by
  unfold MergeCall.anomalousShrink Shrinks
  simp only [Bool.and_eq_true,decide_eq_true_eq,ne_eq]
  constructor
  · rintro ⟨⟨hsome,-⟩,hfewer⟩
    exact ⟨hsome,hfewer⟩
  · rintro ⟨hsome,hfewer⟩
    refine ⟨⟨hsome,fun hnone => ?_⟩,hfewer⟩
    rw [hnone] at hfewer
    exact absurd hfewer (by simp)

theorem deleted_iff_decision {row : RawNode} (hrow : row∈store.rows) :
    Deleted digest call store row ↔ row.subscriptionId=some call.subId ∧
      call.decision digest store.settings store.rows row=some .delete := by
  have hfate : Deleted digest call store row ↔
      call.fate digest store.settings store.rows row=none := by
    constructor
    · intro hdel
      cases hfate : call.fate digest store.settings store.rows row with
      | none => rfl
      | some new =>
        exact absurd (fate_keeps hfate).1 (hdel.2 new (mem_reconcile_of_fate hrow hfate))
    · intro hfate
      refine ⟨hrow,fun new hnew hid => ?_⟩
      rw [fate_of_mem_reconcile hrow hnew hid] at hfate
      cases hfate
  rw [hfate]
  unfold MergeCall.fate
  by_cases hsub : row.subscriptionId=some call.subId
  · rw [if_pos hsub]
    have hlist := entryFor_items_isSome hsub
    cases hentry : call.entryFor call.items row with
    | some item =>
      have hmem : identity row∈call.entries.map identity := hlist.mp (by rw [hentry]; rfl)
      simp [MergeCall.decision,MergeCall.verdict,hmem]
    | none =>
      cases hdec : call.decision digest store.settings store.rows row with
      | none => simp [actOn]
      | some verdict => cases verdict <;> simp [actOn,hsub]
  · simp [hsub]

/-- When the sweep decides to delete a node. -/
theorem decision_eq_delete_iff {row : RawNode} :
    call.decision digest store.settings store.rows row=some .delete ↔
      identity row∉call.entries.map identity ∧ call.entries≠[] ∧
      (Shrinks call store → row.stale=true ∧ store.settings (shrinkKey call.subId) =
          some (digest (sortByKey identityOrder (call.entries.map identity)))) ∧
      call.isActive row=false := by
  unfold MergeCall.decision MergeCall.verdict MergeCall.shrinkConfirmed MergeCall.fingerprint
  rw [← anomalousShrink_iff]
  by_cases hlist : identity row∈call.entries.map identity
  · simp [hlist]
  · by_cases hempty : call.entries=[]
    · simp [hempty]
    · cases hshrink : call.anomalousShrink (nodesForSub store.rows call.subId) with
      | false =>
        cases hact : call.isActive row <;> simp [hlist,hempty]
      | true =>
        cases hstale : row.stale <;> by_cases hconfirmed : store.settings (shrinkKey call.subId) =
            some (digest (sortByKey identityOrder (call.entries.map identity))) <;>
          cases hact : call.isActive row <;> simp [hlist,hempty,hconfirmed]

end Deletions

section Guard

/-! ### What the merges of a history delete -/

/-- What `_shrink_fingerprint` hashes. -/
def MergeCall.sortedIdentities (call : MergeCall) : List Identity :=
  sortByKey identityOrder (call.entries.map identity)

theorem mem_entries_of_sortedIdentities_eq {a b : MergeCall}
    (h : a.sortedIdentities=b.sortedIdentities) (key : Identity) :
    key∈a.entries.map identity ↔ key∈b.entries.map identity := by
  have ha := (sortByKey_perm identityOrder (a.entries.map identity)).mem_iff (a := key)
  have hb := (sortByKey_perm identityOrder (b.entries.map identity)).mem_iff (a := key)
  unfold MergeCall.sortedIdentities at h
  rw [← ha,← hb,h]

/-- The hash has no collision among these feeds and is never empty. -/
structure TellsApart (digest : List Identity → String) (calls : List MergeCall) : Prop where
  given : ∀ a ∈ calls, digest a.sortedIdentities ≠ ""
  apart : ∀ a ∈ calls, ∀ b ∈ calls, digest a.sortedIdentities = digest b.sortedIdentities →
    a.sortedIdentities = b.sortedIdentities

variable {digest : List Identity → String} {start : FeedStore} {past : List Attempt}
  {call : MergeCall}

/-- A fingerprint on record was left by the last completed merge, and by a shrink. -/
theorem lastCompleted_of_recorded (hsub : ∀ attempt∈past, attempt.call.subId=call.subId)
    (hstart : start.settings (shrinkKey call.subId)∈[none,some ""])
    (hdig : TellsApart digest (call::past.map Attempt.call))
    (hrec : (history digest start past).settings (shrinkKey call.subId) =
      some (digest call.sortedIdentities)) :
    ∃ before earlier, LastCompleted digest start past before earlier ∧ Shrinks earlier before ∧
      earlier.sortedIdentities=call.sortedIdentities := by
  have hgiven : digest call.sortedIdentities ≠ "" := hdig.given call mem_cons_self
  rcases lastCompleted_cases digest start past with hsame | ⟨before,earlier,hlast⟩
  · rw [← hsame,hrec] at hstart
    simp [hgiven] at hstart
  · have hmem : earlier∈past.map Attempt.call := by
      obtain ⟨_,_,rfl,-⟩ := hlast
      simp
    obtain ⟨attempt,hattempt,hcall⟩ := mem_map.mp hmem
    have hkey : earlier.subId=call.subId := hcall ▸ hsub attempt hattempt
    -- what the last completed merge wrote is what is on record
    have hwrote : earlier.fingerprint digest (nodesForSub before.rows earlier.subId) =
        digest call.sortedIdentities := by
      rw [hlast.history_eq,← hkey] at hrec
      simpa [reconcile] using hrec
    unfold MergeCall.fingerprint at hwrote
    split at hwrote
    next hshrink =>
      refine ⟨before,earlier,hlast,anomalousShrink_iff.mp hshrink,?_⟩
      exact hdig.apart earlier (mem_cons_of_mem _ hmem) call mem_cons_self hwrote
    · exact absurd hwrote.symm hgiven

/-- In any history of one subscription's merges an empty feed deletes
nothing, a shrink deletes only what the last completed merge flagged when it saw the same shrink,
and any other feed deletes the inactive nodes it does not list. -/
theorem deletions_over_history (hsub : ∀ attempt ∈ past, attempt.call.subId = call.subId)
    (hstart : start.settings (shrinkKey call.subId) ∈ [none, some ""])
    (hdig : TellsApart digest (call :: past.map Attempt.call)) :
    (call.entries = [] → ∀ row, ¬Deleted digest call (history digest start past) row) ∧
    (Shrinks call (history digest start past) →
      ∀ row, Deleted digest call (history digest start past) row →
        ∃ before earlier, LastCompleted digest start past before earlier ∧ Shrinks earlier before ∧
          (∀ key, key ∈ earlier.entries.map identity ↔ key ∈ call.entries.map identity) ∧
          row ∈ (reconcile digest earlier before).1.rows ∧ row.stale = true) ∧
    (call.entries ≠ [] → ¬Shrinks call (history digest start past) →
      ∀ row ∈ (history digest start past).rows,
        Deleted digest call (history digest start past) row ↔
          row.subscriptionId = some call.subId ∧ call.isActive row = false ∧
          identity row ∉ call.entries.map identity) := by
  refine ⟨?_,?_,?_⟩
  · intro hempty row hdel
    have hdec := ((deleted_iff_decision hdel.1).mp hdel).2
    exact (decision_eq_delete_iff.mp hdec).2.1 hempty
  · intro hshrinks row hdel
    have hdec := ((deleted_iff_decision hdel.1).mp hdel).2
    obtain ⟨-,-,hconfirmed,-⟩ := decision_eq_delete_iff.mp hdec
    obtain ⟨hstale,hrec⟩ := hconfirmed hshrinks
    obtain ⟨before,earlier,hlast,hearlier,hsame⟩ := lastCompleted_of_recorded hsub hstart hdig hrec
    refine ⟨before,earlier,hlast,hearlier,mem_entries_of_sortedIdentities_eq hsame,?_,hstale⟩
    rw [← hlast.history_eq]
    exact hdel.1
  · intro hsome hgrown row hrow
    rw [deleted_iff_decision hrow,decision_eq_delete_iff]
    constructor
    · rintro ⟨hrowSub,hunlisted,-,-,hinactive⟩
      exact ⟨hrowSub,hinactive,hunlisted⟩
    · rintro ⟨hrowSub,hinactive,hunlisted⟩
      exact ⟨hrowSub,hunlisted,hsome,fun hshrinks => absurd hshrinks hgrown,hinactive⟩

/-- Three servers of subscription 1. -/
def threeServers : FeedStore where
  rows := [trojanNode, { trojanNode with id := 2, port := 444 },
    { trojanNode with id := 3, port := 445 }]
  lastId := 3
  settings := fun _ => none
  legal := ⟨by decide, by decide, by decide, by simp; decide +kernel⟩

/-- A feed that lists one of them. -/
def oneServer : MergeCall where
  subId := 1
  parsed := [⟨trojanNode, trojanNode_normal⟩]
  active := none
  defaultProfileId := none

/-- A hash that tells feeds with different addresses apart. -/
def joinedAddresses (ids : List Identity) : String := String.join (ids.map Identity.address)

/-- The feed shrinks and then a refresh with another feed fails. -/
def shrunkOnce : List Attempt := [⟨oneServer, true⟩, ⟨movedServer, false⟩]

/-- The second server is deleted when the shrunk feed comes again. -/
theorem deletions_over_history_shrunkOnce : ∃ row, Deleted joinedAddresses oneServer
        (history joinedAddresses threeServers shrunkOnce) row ∧
      ∃ before earlier, LastCompleted joinedAddresses threeServers shrunkOnce before earlier ∧
        Shrinks earlier before ∧ row ∈ (reconcile joinedAddresses earlier before).1.rows ∧
        row.stale = true := by
  have hdig : TellsApart joinedAddresses (oneServer::shrunkOnce.map Attempt.call) :=
    ⟨by decide +kernel,by decide +kernel⟩
  have hshrinks : Shrinks oneServer (history joinedAddresses threeServers shrunkOnce) :=
    anomalousShrink_iff.mp (by decide +kernel)
  have hdel : Deleted joinedAddresses oneServer (history joinedAddresses threeServers shrunkOnce)
      { trojanNode with id := 2, port := 444, stale := true } :=
    (deleted_iff_decision (by decide +kernel)).mpr ⟨rfl,by decide +kernel⟩
  have hsub : ∀ attempt∈shrunkOnce, attempt.call.subId=oneServer.subId := by decide
  have hstart : threeServers.settings (shrinkKey oneServer.subId)∈[none,some ""] := by decide
  obtain ⟨before,earlier,hlast,hearlier,-,hrow,hstale⟩ :=
    (deletions_over_history hsub hstart hdig).2.1 hshrinks _ hdel
  exact ⟨_,hdel,before,earlier,hlast,hearlier,hrow,hstale⟩

end Guard

end PiGwPanel.FeedMerge
