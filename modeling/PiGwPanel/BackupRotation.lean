import Mathlib.Data.List.Sort
import Mathlib.Data.String.Basic
import PiGwPanel.AnsweredProgram

/-!
# Rotation of the automatic backups

`BackupScheduler.run_once` writes a backup named after the clock and then deletes
all but the last few names of the directory, in the order of the text. The
directory is the list of its names in the order in which they were last written.
-/

namespace PiGwPanel.BackupRotation

open AnsweredProgram List

/-- The name of the backup of a second. -/
def backupName (now : ℤ) : String := "backup-" ++ (toString now ++ ".json")

/-- The names the rotation looks at. -/
def isBackup (name : String) : Bool :=
  "backup-".toList.isPrefixOf name.toList && ".json".toList.isSuffixOf name.toList

/-- One call of `run_once`. -/
structure Call where
  enabled : Bool
  now : ℤ
  /-- The document was made, accepted and written. -/
  written : Bool
  /-- The names that cannot be deleted. -/
  stuck : List String
  deriving DecidableEq, Repr

/-- The call comes as far as the rotation. -/
def Call.rotates (call : Call) : Bool := call.enabled && call.written

/-- A file is written last. -/
def write (name : String) (dir : List String) : List String := dir.filter (· ≠ name) ++ [name]

/-- `kept[:-keep]`: with nothing to keep the slice is empty. -/
def outdated (keep : ℕ) (kept : List String) : List String :=
  if keep = 0 then [] else kept.take (kept.length - keep)

/-- The loop of deletions over the sorted names. -/
def prune (keep : ℕ) (stuck dir : List String) : List String :=
  let old := outdated keep ((dir.filter isBackup).insertionSort (· ≤ ·))
  dir.filter fun name => !old.contains name || stuck.contains name

/-- `run_once`. -/
def runOnce (keep : ℕ) (dir : List String) (call : Call) : List String :=
  if call.rotates then prune keep call.stuck (write (backupName call.now) dir) else dir

/-- The backups of a directory, oldest first, are in the order of their names. -/
def Ascending (dir : List String) : Prop := (dir.filter isBackup).Pairwise (· < ·)

/-- A call that rotates and finds more backups than it keeps can delete what it means to, and the
backups it finds, its own being the last, are in the order of their names. -/
def Orderly (keep : ℕ) (dir : List String) (call : Call) : Prop :=
  call.rotates = true → keep < ((write (backupName call.now) dir).filter isBackup).length →
    call.stuck = [] ∧ Ascending (write (backupName call.now) dir)

instance (keep : ℕ) (dir : List String) (call : Call) : Decidable (Orderly keep dir call) :=
  inferInstanceAs (Decidable (_ → _ → _ ∧ List.Pairwise _ _))

theorem isBackup_backupName (now : ℤ) : isBackup (backupName now)=true := by
  unfold isBackup backupName
  rw [Bool.and_eq_true, isPrefixOf_iff_prefix,isSuffixOf_iff_suffix]
  simp only [String.toList_append]
  exact ⟨prefix_append _ _,⟨_,(append_assoc _ _ _)⟩⟩

theorem filter_write (now : ℤ) (dir : List String) : (write (backupName now) dir).filter isBackup =
      (dir.filter isBackup).filter (·≠backupName now)++[backupName now] := by
  unfold write
  rw [filter_append,filter_comm]
  simp [isBackup_backupName]

variable {keep : ℕ}

theorem filter_outdated {names : List String} (h : names.Pairwise (·<·)) (hkeep : 0<keep) :
    names.filter (fun name => !(outdated keep names).contains name) =
      names.drop (names.length-keep) := by
  unfold outdated
  rw [if_neg hkeep.ne']
  generalize names.length-keep=surplus
  have hnodup : (names.take surplus++names.drop surplus).Nodup := by
    rw [take_append_drop]
    exact h.imp fun hlt => hlt.ne
  have hdisjoint := (nodup_append.mp hnodup).2.2
  have hfst : (names.take surplus).filter (fun name => !(names.take surplus).contains name)=[] :=
    filter_eq_nil_iff.mpr (by simp)
  have hlast : (names.drop surplus).filter (fun name => !(names.take surplus).contains name) =
      names.drop surplus := by
    refine filter_eq_self.mpr fun name hname => ?_
    simpa using fun hmem => hdisjoint name hmem name hname rfl
  conv_lhs => rw [← take_append_drop surplus names,filter_append]
  rw [take_append_drop,hfst,hlast,nil_append]

/-- Of the directory just written the rotation keeps the last names. -/
theorem filter_prune {dir : List String} (h : Ascending dir) (hkeep : 0<keep) :
    (prune keep [] dir).filter isBackup =
      (dir.filter isBackup).drop ((dir.filter isBackup).length-keep) := by
  have hsorted : (dir.filter isBackup).insertionSort (·≤·)=dir.filter isBackup :=
    (h.imp le_of_lt).insertionSort_eq
  unfold prune
  rw [hsorted,filter_comm,← filter_outdated h hkeep]
  simp

theorem prune_of_few {dir stuck : List String} (h : (dir.filter isBackup).length≤keep) :
    prune keep stuck dir=dir := by
  have hnone : (dir.filter isBackup).length-keep=0 := by omega
  unfold prune outdated
  simp [hnone]

/-- Whatever calls there were before, a call that rotates keeps its own file and, of all the
backups, the ones written last, as long as the backups of a directory it deletes from are in the
order of their names and its deletions succeed. -/
theorem rotation_keeps_newest (keep : ℕ) (hkeep : 0 < keep) (dir : List String)
    (calls : List Call) (call : Call)
    (hcall : Orderly keep (run (runOnce keep) dir calls) call) (hrotates : call.rotates = true) :
    let written := (write (backupName call.now) (run (runOnce keep) dir calls)).filter isBackup
    let after := runOnce keep (run (runOnce keep) dir calls) call
    backupName call.now ∈ after ∧ after.filter isBackup = written.drop (written.length - keep) := by
  generalize run (runOnce keep) dir calls=before at *
  have hkept : (runOnce keep before call).filter isBackup =
      ((write (backupName call.now) before).filter isBackup).drop
        (((write (backupName call.now) before).filter isBackup).length-keep) := by
    unfold runOnce
    rw [if_pos hrotates]
    by_cases hmany : keep<((write (backupName call.now) before).filter isBackup).length
    · obtain ⟨hstuck,hnames⟩ := hcall hrotates hmany
      rw [hstuck]
      exact filter_prune hnames hkeep
    · rw [not_lt] at hmany
      rw [prune_of_few hmany,Nat.sub_eq_zero_of_le hmany,drop_zero]
  refine ⟨mem_of_mem_filter (p := isBackup) ?_,hkept⟩
  rw [hkept,filter_write,length_append,length_singleton,drop_append_of_le_length (by omega)]
  exact mem_append_right _ mem_cons_self

/-- A call at a second whose backup can be written and whose deletions succeed. -/
def callAt (now : ℤ) : Call := ⟨true, now, true, []⟩

/-- Three days with room for two backups, beside a file the rotation does not look at. -/
theorem rotation_keeps_newest_two :
    let before := run (runOnce 2) ["notes.txt"] [callAt 1700000000, callAt 1700086400]
    backupName 1700172800 ∈ runOnce 2 before (callAt 1700172800) ∧
      runOnce 2 before (callAt 1700172800) =
        ["notes.txt", "backup-1700086400.json", "backup-1700172800.json"] := by
  refine ⟨(rotation_keeps_newest 2 (by decide) ["notes.txt"] _ _ ?_ rfl).1,?_⟩
  · decide +kernel
  · decide +kernel

/-- The clock was ahead and is set back: the backup is deleted as soon as it is written. -/
theorem backup_deleted_at_once :
    let dir := [backupName 1700000000, backupName 1700086400]
    runOnce 2 dir (callAt 1600000000) = dir ∧ backupName 1600000000 ∉ dir := by
  decide +kernel

end PiGwPanel.BackupRotation
