import Mathlib.Data.List.Destutter
import PiGwPanel.AnsweredProgram
import PiGwPanel.PyText

/-!
# Watching the delegated prefix

`net_control/pd_client.py`: the DHCPv6 client's hook leaves the delegated prefix in
a file, and a watcher reads it once a second and calls back when the value is not
the one it remembers. The value is remembered before the callback is made. The
watcher only runs with a callback, and an exception of it is logged.
-/

namespace PiGwPanel.PrefixWatcher

open AnsweredProgram PyText

/-- What opening and reading the prefix file gives. -/
inductive PrefixFile where
  | text (content : String)
  | missing
  /-- Any other failure to read it. -/
  | unreadable
  deriving DecidableEq, Repr

/-- The value of the file, where there is one to act on; nothing is delegated without a file. -/
def PrefixFile.value : PrefixFile → Option (Option String)
  | .text content => some (if stripText content = "" then none else some (stripText content))
  | .missing => some none
  | .unreadable => none

/-- One callback made. -/
structure Call where
  value : Option String
  raised : Bool
  deriving DecidableEq, Repr

/-- The watcher of a `PdClient`. -/
structure Watcher where
  /-- `_last_prefix`; nothing for `_UNSEEN`. -/
  lastPrefix : Option (Option String)
  /-- Ghost: the callbacks made, newest first. -/
  calls : List Call
  deriving DecidableEq, Repr

/-- One poll: what it finds, and whether a callback made in it raises. -/
structure Poll where
  file : PrefixFile
  raises : Bool
  deriving DecidableEq, Repr

/-- `poll_once`, inside the loop of `_watch`. -/
def pollOnce (w : Watcher) (poll : Poll) : Watcher :=
  match poll.file.value with
  | none => w
  | some value =>
    if some value = w.lastPrefix then w
    else { lastPrefix := some value, calls := ⟨value, poll.raises⟩ :: w.calls }

/-- A client that has not polled yet. -/
def unseen : Watcher := ⟨none, []⟩

/-- What is remembered is the value of the last callback, whether it raised or not. -/
theorem lastPrefix_run (polls : List Poll) : (run pollOnce unseen polls).lastPrefix =
      (run pollOnce unseen polls).calls.head?.map Call.value := by
  refine run_keeps (I := fun w : Watcher => w.lastPrefix=w.calls.head?.map Call.value) ?_ rfl
  intro w poll h
  unfold pollOnce
  split
  · exact h
  · split
    · exact h
    · rfl

/-- From a watcher that has seen a value. -/
theorem calls_of_seen (polls : List Poll) (last : Option String) (raised : Bool)
    (earlier : List Call) :
    (run pollOnce ⟨some last,⟨last,raised⟩::earlier⟩ polls).calls.reverse.map Call.value =
      earlier.reverse.map Call.value ++
        (polls.filterMap (·.file.value)).destutter' (·≠·) last := by
  induction polls generalizing last raised earlier with
  | nil => simp
  | cons poll rest ih =>
    rw [run_cons,pollOnce,List.filterMap_cons]
    cases poll.file.value with
    | none => exact ih last raised earlier
    | some value =>
      by_cases hval : value=last
      · simp [hval,ih]
      · simp [hval,Ne.symm hval,ih]

/-- Over every sequence of polls the callbacks are made for the values read, in their order, each
run of equal ones once. -/
theorem calls_eq_destutter (polls : List Poll) :
    (run pollOnce unseen polls).calls.reverse.map Call.value =
      (polls.filterMap (·.file.value)).destutter (· ≠ ·) := by
  induction polls with
  | nil => rfl
  | cons poll rest ih =>
    rw [run_cons,pollOnce,List.filterMap_cons]
    cases poll.file.value with
    | none => exact ih
    | some value => exact calls_of_seen rest value poll.raises []

/-- After every sequence of polls, one that reads a value calls back, or the last callback was for
that value and did not raise, exactly when the last callback did not raise for that value. -/
theorem pollOnce_calls_iff (polls : List Poll) (poll : Poll) (value : Option String)
    (hval : poll.file.value = some value) :
    let w := run pollOnce unseen polls
    ((pollOnce w poll).calls = ⟨value, poll.raises⟩ :: w.calls ∨ w.calls.head? = some ⟨value, false⟩) ↔
      w.calls.head? ≠ some ⟨value, true⟩ := by
  have hlast := lastPrefix_run polls
  dsimp only
  generalize run pollOnce unseen polls=w at hlast
  have hpoll : pollOnce w poll = if some value=w.lastPrefix then w
      else { lastPrefix := some value, calls := ⟨value,poll.raises⟩::w.calls } := by
    unfold pollOnce
    rw [hval]
  rw [hpoll,hlast]
  cases hcalls : w.calls with
  | nil => simp
  | cons last earlier =>
    obtain ⟨seen,raised⟩ := last
    by_cases hseen : value=seen
    · subst hseen
      cases raised <;> simp [hcalls]
    · simp [hseen,Ne.symm hseen]

/-- A prefix that arrives after the segment had none. -/
theorem pollOnce_calls_new_prefix :
    let w := run pollOnce unseen [⟨.missing, true⟩]
    (pollOnce w ⟨.text "2001:db8:1200::/56\n", false⟩).calls =
        ⟨some "2001:db8:1200::/56", false⟩ :: w.calls ∨
      w.calls.head? = some ⟨some "2001:db8:1200::/56", false⟩ :=
  (pollOnce_calls_iff [⟨.missing,true⟩] ⟨.text "2001:db8:1200::/56\n",false⟩ _
    (by decide +kernel)).mpr (by decide +kernel)

/-- The callback for a prefix raises, and no later poll of the same prefix calls again. -/
theorem raised_prefix_dropped :
    let file := PrefixFile.text "2001:db8:1200::/56\n"
    file.value = some (some "2001:db8:1200::/56") ∧
      (run pollOnce unseen [⟨file, true⟩, ⟨file, false⟩]).calls =
        [⟨some "2001:db8:1200::/56", true⟩] := by
  decide +kernel

end PiGwPanel.PrefixWatcher
