import Mathlib.Data.List.Basic

/-!
# Nested transaction blocks on one connection

`nodes/store.py`, `_SafeConn`. The connection counts how deep its blocks are
nested, remembers whether one of them failed, and issues `BEGIN`, `COMMIT` or
`ROLLBACK` only at the outermost level; the database has a transaction state of
its own. What runs between is a tree of blocks and writes in which any exception
may be handled anywhere.

The answers of the database to the outermost commands are part of the tree. A
command that fails may leave the transaction open, as a `COMMIT` on a busy
database does, or may end it.
-/

namespace PiGwPanel.NestedTransactions

/-- How a `COMMIT` or a `ROLLBACK` ends. -/
inductive Answer where
  | done
  /-- It raised and the transaction is still open. -/
  | failsOpen
  /-- It raised and the database dropped the transaction. -/
  | failsClosed
  deriving DecidableEq, Repr

/-- The connection and the database behind it. -/
structure Conn (W : Type) where
  transactionDepth : ℕ
  (rollbackOnly closed : Bool)
  /-- The database's own transaction, with the writes made in it. -/
  transaction : Option (List W)
  committed : List W
  deriving DecidableEq, Repr

/-- Code that runs on the connection. -/
inductive Body (W : Type) where
  | skip
  | write (w : W)
  | throw
  | seq (first second : Body W)
  /-- The exceptions of the part are handled. -/
  | attempt (part : Body W)
  /-- A `with` block: whether `BEGIN` works, how `COMMIT` and `ROLLBACK` end, and the code. -/
  | block (begins : Bool) (commits rollsBack : Answer) (part : Body W)
  deriving DecidableEq, Repr

variable {W : Type}

/-- A write: part of the open transaction, or committed by itself. -/
def Conn.put (c : Conn W) (w : W) : Conn W :=
  match c.transaction with
  | some writes => { c with transaction := some (writes ++ [w]) }
  | none => { c with committed := c.committed ++ [w] }

/-- `__enter__`; the database refuses a `BEGIN` inside a transaction. -/
def Conn.enter (c : Conn W) (begins : Bool) : Option (Conn W) :=
  if c.closed then none
  else if c.transactionDepth = 0 then
    if begins && c.transaction.isNone then
      some { c with transactionDepth := 1, rollbackOnly := false, transaction := some [] }
    else none
  else some { c with transactionDepth := c.transactionDepth + 1 }

/-- `rollback()` of the database connection. -/
def Conn.rollback (c : Conn W) : Answer → Conn W
  | .failsOpen => c
  | .done | .failsClosed => { c with transaction := none }

/-- `commit()` of the database connection; outside a transaction it does nothing. -/
def Conn.commit (c : Conn W) : Answer → Conn W × Bool
  | .done => ({ c with committed := c.committed ++ c.transaction.getD [], transaction := none }, false)
  | .failsOpen => (c, true)
  | .failsClosed => ({ c with transaction := none }, true)

/-- `__exit__`: the connection afterwards, and whether an exception leaves the block. -/
def Conn.exit (c : Conn W) (raised : Bool) (commits rollsBack : Answer) : Conn W × Bool :=
  let spoiled := c.rollbackOnly || raised
  if c.transactionDepth - 1 = 0 then
    let outside := { c with transactionDepth := 0, rollbackOnly := false }
    if spoiled then (outside.rollback rollsBack, true) else outside.commit commits
  else
    ({ c with transactionDepth := c.transactionDepth - 1, rollbackOnly := spoiled }, raised)

/-- Run the code: the connection it leaves, and whether it raised. -/
def exec : Body W → Conn W → Conn W × Bool
  | .skip, c => (c, false)
  | .write w, c => if c.closed then (c, true) else (c.put w, false)
  | .throw, c => (c, true)
  | .seq first second, c =>
    let left := exec first c
    if left.2 then left else exec second left.1
  | .attempt part, c => ((exec part c).1, false)
  | .block begins commits rollsBack part, c =>
    match c.enter begins with
    | none => (c, true)
    | some inside =>
      let left := exec part inside
      left.1.exit left.2 commits rollsBack

/-- Whether the code raises inside a transaction, where no block has to begin one. -/
def Body.raises : Body W → Bool
  | .skip | .write _ | .attempt _ => false
  | .throw => true
  | .seq first second => first.raises || second.raises
  | .block _ _ _ part => part.raises

/-- The writes the code makes inside a transaction. -/
def Body.writes : Body W → List W
  | .skip | .throw => []
  | .write w => [w]
  | .seq first second => if first.raises then first.writes else first.writes ++ second.writes
  | .attempt part | .block _ _ _ part => part.writes

/-- Some block of the code is left by an exception. -/
def Body.blockFails : Body W → Bool
  | .skip | .write _ | .throw => false
  | .seq first second => if first.raises then first.blockFails else first.blockFails || second.blockFails
  | .attempt part => part.blockFails
  | .block _ _ _ part => part.raises || part.blockFails

/-- The connection is in no block and the database in no transaction. -/
structure Idle (c : Conn W) : Prop where
  depth : c.transactionDepth = 0
  clean : c.rollbackOnly = false
  outside : c.transaction = none

/-- Inside an open transaction code does what its tree says: its writes join the transaction, a
failed block marks it, and the depth comes back. -/
theorem exec_inside (part : Body W) (depth : ℕ) (spoiled : Bool) (writes committed : List W) :
    exec part ⟨depth+1,spoiled,false,some writes,committed⟩ =
      (⟨depth+1,spoiled || part.blockFails,false,some (writes++part.writes),committed⟩,
        part.raises) := by
  induction part generalizing depth spoiled writes with
  | skip => simp [exec,Body.blockFails,Body.writes,Body.raises]
  | throw => simp [exec,Body.blockFails,Body.writes,Body.raises]
  | write w => simp [exec,Body.blockFails,Body.writes,Body.raises,Conn.put]
  | seq first second ihfirst ihsecond =>
    simp only [exec,ihfirst]
    cases hraises : first.raises with
    | true => simp [Body.blockFails,Body.writes,Body.raises,hraises]
    | false =>
      rw [if_neg (by simp),ihsecond]
      simp [Body.blockFails,Body.writes,Body.raises,hraises,Bool.or_assoc]
  | attempt part ih =>
    simp only [exec,ih]
    simp [Body.blockFails,Body.writes,Body.raises]
  | block begins commits rollsBack part ih =>
    have henter : Conn.enter ⟨depth+1,spoiled,false,some writes,committed⟩ begins =
        some ⟨depth+1+1,spoiled,false,some writes,committed⟩ := by
      simp [Conn.enter]
    simp only [exec,henter,ih]
    simp [Conn.exit,Body.blockFails,Body.writes,Body.raises,Bool.or_assoc,Bool.or_comm]

/-- Some block of the tree under the outermost one, or that one itself, is left by an exception. -/
def Body.spoils (part : Body W) : Bool := part.blockFails || part.raises

/-- The outermost block from an idle connection: `BEGIN`, the code, and one command at the end. -/
theorem exec_outermost {c : Conn W} (hidle : Idle c) (hopen : c.closed=false)
    (commits rollsBack : Answer) (part : Body W) : exec (.block true commits rollsBack part) c =
      if part.spoils then
        (Conn.rollback { c with transaction := some part.writes } rollsBack, true)
      else Conn.commit { c with transaction := some part.writes } commits := by
  obtain ⟨depth,spoiled,closed,transaction,committed⟩ := c
  obtain ⟨rfl,rfl,rfl⟩ := hidle
  cases hopen
  have henter : Conn.enter ⟨0,false,false,none,committed⟩ true =
      some ⟨0+1,false,false,some ([] : List W),committed⟩ := rfl
  simp only [exec,henter,exec_inside]
  simp [Conn.exit,Body.spoils]

/-- The outermost block took effect as a whole and left normally, or raised and left everything
as it was. From an idle connection either way the connection is idle again. -/
def AllOrNothing (before : Conn W) (result : Conn W × Bool) (writes : List W) : Prop :=
  (result.2 = false ∧ result.1 = { before with committed := before.committed ++ writes }) ∨
    (result.2 = true ∧ result.1 = before)

variable {before : Conn W} {result : Conn W × Bool} {writes : List W}

theorem AllOrNothing.idle
    (h : AllOrNothing before result writes) (hidle : Idle before) : Idle result.1 := by
  rcases h with ⟨_,heq⟩ | ⟨_,heq⟩
  · rw [heq]
    exact ⟨hidle.depth,hidle.clean,hidle.outside⟩
  · rwa [heq]

/-- The command that ends the outermost transaction does not leave it open. -/
def EndsTransaction (commits rollsBack : Answer) (part : Body W) : Prop :=
  if part.spoils then rollsBack ≠ .failsOpen else commits ≠ .failsOpen

instance (commits rollsBack : Answer) (part : Body W) :
    Decidable (EndsTransaction commits rollsBack part) :=
  inferInstanceAs (Decidable (if part.spoils then _ else _))

/-- The command left the transaction open, so the connection is not as before. -/
theorem not_allOrNothing_of_open (hidle : Idle before) (hopen : result.1.transaction.isSome) :
    ¬ AllOrNothing before result writes := by
  intro h
  rw [(h.idle hidle).outside] at hopen
  cases hopen

/-- An outermost block is all-or-nothing exactly when it did not begin, or when the command at its
end does not leave the transaction open. -/
theorem outermost_whole (hidle : Idle before) (begins : Bool)
    (commits rollsBack : Answer) (part : Body W) :
    AllOrNothing before (exec (.block begins commits rollsBack part) before) part.writes ↔
      before.closed=true ∨ begins=false ∨ EndsTransaction commits rollsBack part := by
  have hsame : { before with transaction := none }=before := by
    rw [← hidle.outside]
  by_cases hstart : before.closed=true ∨ begins=false
  · have hrefused : before.enter begins=none := by
      rcases hstart with hclosed | hbegins
      · simp [Conn.enter,hclosed]
      · simp [Conn.enter,hidle.depth,hbegins]
    have hexec : exec (.block begins commits rollsBack part) before=(before, true) := by
      simp [exec,hrefused]
    rw [hexec]
    constructor
    · intro _
      exact hstart.imp_right .inl
    · intro _
      exact .inr ⟨rfl,rfl⟩
  · simp only [not_or,Bool.not_eq_true,Bool.not_eq_false] at hstart
    obtain ⟨hclosed,rfl⟩ := hstart
    rw [exec_outermost hidle hclosed]
    unfold EndsTransaction
    cases hspoils : part.spoils with
    | true =>
      cases rollsBack with
      | failsOpen =>
        have hnot : ¬ AllOrNothing before
            (Conn.rollback { before with transaction := some part.writes } .failsOpen, true)
            part.writes := not_allOrNothing_of_open hidle rfl
        simpa [hclosed] using hnot
      | done => simpa [hclosed,Conn.rollback,AllOrNothing] using hsame
      | failsClosed => simpa [hclosed,Conn.rollback,AllOrNothing] using hsame
    | false =>
      cases commits with
      | failsOpen =>
        have hnot : ¬ AllOrNothing before
            (Conn.commit { before with transaction := some part.writes } .failsOpen)
            part.writes := not_allOrNothing_of_open hidle rfl
        simpa [hclosed] using hnot
      | done =>
        simp [hclosed,Conn.commit,AllOrNothing,hidle.outside]
      | failsClosed => simpa [hclosed,Conn.commit,AllOrNothing] using hsame

/-- For every tree of blocks and writes under an outermost block, with exceptions handled anywhere:
either every write is committed or none is, and the connection is outside any transaction again,
exactly when the block did not begin or its `COMMIT` or `ROLLBACK` does not leave the transaction
open. -/
theorem outermost_allOrNothing_iff {before : Conn W} (hidle : Idle before) (begins : Bool)
    (commits rollsBack : Answer) (part : Body W) :
    (AllOrNothing before (exec (.block begins commits rollsBack part) before) part.writes ∧
      Idle (exec (.block begins commits rollsBack part) before).1) ↔
      before.closed = true ∨ begins = false ∨ EndsTransaction commits rollsBack part := by
  rw [← outermost_whole hidle begins commits rollsBack part]
  constructor
  · intro h
    exact h.1
  · intro h
    exact ⟨h,h.idle hidle⟩

/-- An idle connection with nothing committed. -/
def emptyConn : Conn ℕ := ⟨0, false, false, none, []⟩

theorem idle_emptyConn : Idle emptyConn := ⟨rfl,rfl,rfl⟩

/-- A failed inner block whose exception is handled takes the outer writes with it. -/
theorem outermost_allOrNothing_swallowed : EndsTransaction .done .done
        (.seq (.write 1) (.attempt (.block true .done .done (.seq (.write 2) .throw)))) ∧
      AllOrNothing emptyConn (exec (.block true .done .done
          (.seq (.write 1) (.attempt (.block true .done .done (.seq (.write 2) .throw)))))
          emptyConn) [1, 2] ∧
      Idle (exec (.block true .done .done
          (.seq (.write 1) (.attempt (.block true .done .done (.seq (.write 2) .throw)))))
          emptyConn).1 := by
  have hends : EndsTransaction .done .done
      (.seq (.write 1) (.attempt (.block true .done .done (.seq (.write 2) .throw)))) := by
    decide
  exact ⟨hends,(outermost_allOrNothing_iff idle_emptyConn true .done .done _).mpr
    (.inr (.inr hends))⟩

/-- A `COMMIT` that fails on a busy database leaves the transaction open behind a connection that
counts no block: the next block cannot begin. -/
theorem failed_commit_keeps_transaction : exec (.block true .failsOpen .done (.write 1)) emptyConn =
        (⟨0, false, false, some [1], []⟩, true) ∧
      ¬ AllOrNothing emptyConn (exec (.block true .failsOpen .done (.write 1)) emptyConn) [1] ∧
      exec (.block true .done .done (.write 2)) ⟨0, false, false, some [1], []⟩ =
        (⟨0, false, false, some [1], []⟩, true) := by
  refine ⟨by decide,?_,by decide⟩
  exact not_allOrNothing_of_open idle_emptyConn rfl

end PiGwPanel.NestedTransactions
