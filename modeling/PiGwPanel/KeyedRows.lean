import Mathlib.Data.List.Nodup

/-!
# Rows under unique keys

Lists read as tables: no two rows share a key, writing a row under a key in use
replaces the row there, and a dictionary built from a list of entries keeps the
last entry of every key at the place of its first.
-/

namespace PiGwPanel.KeyedRows

open List

/-- Taking rows out of a table, or changing them under their keys, takes keys out. -/
theorem map_filterMap_sublist {α κ : Type} {key : α → κ} {f : α → Option α}
    (h : ∀ row after, f row=some after → key after=key row) (rows : List α) :
    ((rows.filterMap f).map key).Sublist (rows.map key) := by
  induction rows with
  | nil => exact List.Sublist.slnil
  | cons row rest ih =>
    cases hrow : f row with
    | none =>
      rw [filterMap_cons_none hrow]
      exact ih.cons (key row)
    | some after =>
      rw [filterMap_cons_some hrow,map_cons,map_cons,h row after hrow]
      exact ih.cons_cons (key row)

variable {α κ : Type} [DecidableEq κ] (key : α → κ)

/-- The rows with the one under the given row's key replaced by it. -/
def replaceRow (rows : List α) (row : α) : List α :=
  rows.map fun other => if key other = key row then row else other

/-- The rows with one more, or with the one under its key replaced. -/
def putRow (rows : List α) (row : α) : List α :=
  if key row ∈ rows.map key then replaceRow key rows row else rows ++ [row]

/-- The dictionary of a list of entries. -/
def putRows (entries : List α) : List α := entries.foldl (putRow key) []

variable {key}

theorem map_key_replaceRow (rows : List α) (row : α) :
    (replaceRow key rows row).map key=rows.map key := by
  unfold replaceRow
  rw [map_map]
  refine map_congr_left fun other _ => ?_
  by_cases h : key other=key row
  · simp [h]
  · simp [h]

variable {row : α} {rows entries : List α} {other : α}

theorem mem_of_mem_replaceRow (h : other∈replaceRow key rows row) : other=row ∨ other∈rows := by
  obtain ⟨old,hold,rfl⟩ := mem_map.mp h
  by_cases hkey : key old=key row
  · rw [if_pos hkey]
    exact .inl rfl
  · rw [if_neg hkey]
    exact .inr hold

theorem mem_map_key_putRow {k : κ} :
    k∈(putRow key rows row).map key ↔ k=key row ∨ k∈rows.map key := by
  unfold putRow
  split
  next hused =>
    rw [map_key_replaceRow]
    constructor
    · exact .inr
    · rintro (rfl | h)
      · exact hused
      · exact h
  · rw [map_append,mem_append,map_singleton,mem_singleton,or_comm]

/-- A row put in place of its namesake keeps the keys distinct. -/
theorem nodup_map_key_putRow (h : (rows.map key).Nodup) (row : α) :
    ((putRow key rows row).map key).Nodup := by
  unfold putRow
  split
  · rw [map_key_replaceRow]
    exact h
  next hnew =>
    rw [map_append,map_singleton]
    exact h.append (nodup_singleton _) (disjoint_singleton.mpr hnew)

theorem mem_of_mem_putRow (h : other∈putRow key rows row) : other=row ∨ other∈rows := by
  unfold putRow at h
  split at h
  · exact mem_of_mem_replaceRow h
  · rcases mem_append.mp h with h | h
    · exact .inr h
    · exact .inl (mem_singleton.mp h)

theorem nodup_map_key_putRows (entries : List α) : ((putRows key entries).map key).Nodup := by
  suffices h : ∀ rows : List α, (rows.map key).Nodup →
      ((entries.foldl (putRow key) rows).map key).Nodup from h [] nodup_nil
  induction entries with
  | nil => exact fun rows hrows => hrows
  | cons entry rest ih => exact fun rows hrows => ih _ (nodup_map_key_putRow hrows entry)

/-- The keys that come in are the keys that stay. -/
theorem mem_map_key_putRows {k : κ} : k∈(putRows key entries).map key ↔ k∈entries.map key := by
  unfold putRows
  suffices h : ∀ rows : List α, k∈(entries.foldl (putRow key) rows).map key ↔
      k∈rows.map key ∨ k∈entries.map key by
    rw [h []]
    simp
  induction entries with
  | nil => simp
  | cons entry rest ih =>
    intro rows
    rw [foldl_cons,ih,mem_map_key_putRow,map_cons,mem_cons]
    constructor
    · rintro ((h | h) | h)
      · exact .inr (.inl h)
      · exact .inl h
      · exact .inr (.inr h)
    · rintro (h | h | h)
      · exact .inl (.inr h)
      · exact .inl (.inl h)
      · exact .inr h

theorem mem_of_mem_putRows {entry : α} (h : entry∈putRows key entries) : entry∈entries := by
  suffices hall : ∀ rows : List α, entry∈entries.foldl (putRow key) rows →
      entry∈rows ∨ entry∈entries by
    rcases hall [] h with h | h
    · cases h
    · exact h
  clear h
  induction entries with
  | nil => exact fun rows h => .inl h
  | cons first rest ih =>
    intro rows h
    rcases ih _ h with h | h
    · rcases mem_of_mem_putRow h with rfl | h
      · exact .inr mem_cons_self
      · exact .inl h
    · exact .inr (mem_cons_of_mem _ h)

/-- With distinct keys a lookup finds the one row of the key. -/
theorem find?_key_eq_some_iff (h : (rows.map key).Nodup) {k : κ} :
    rows.find? (fun other => key other=k)=some row ↔ row∈rows ∧ key row=k := by
  constructor
  · intro hfound
    have hkey := find?_some hfound
    exact ⟨mem_of_find?_eq_some hfound,of_decide_eq_true hkey⟩
  · rintro ⟨hrow,hkey⟩
    cases hfound : rows.find? (fun other => key other=k) with
    | none =>
      have hnone := find?_eq_none.mp hfound row hrow
      exact absurd hkey (by simpa using hnone)
    | some found =>
      have hfoundKey : key found=k := by simpa using find?_some hfound
      rw [inj_on_of_nodup_map h (mem_of_find?_eq_some hfound) hrow (hfoundKey.trans hkey.symm)]

theorem length_putRow_le (rows : List α) (row : α) :
    (putRow key rows row).length ≤ rows.length+1 := by
  unfold putRow replaceRow
  split
  · rw [length_map]
    omega
  · have hlen : (rows++[row]).length=rows.length+1 := length_append
    omega

theorem length_putRows_le (entries : List α) : (putRows key entries).length≤entries.length := by
  unfold putRows
  suffices h : ∀ rows : List α,
      (entries.foldl (putRow key) rows).length ≤ rows.length+entries.length by
    simpa using h []
  induction entries with
  | nil => exact fun rows => Nat.le_refl _
  | cons entry rest ih =>
    intro rows
    have hrow := @length_putRow_le _ _ _ key rows entry
    have hrest := ih (putRow key rows entry)
    rw [foldl_cons,length_cons]
    omega

end PiGwPanel.KeyedRows
