import Mathlib.Data.List.Sort

/-!
# First match after a stable sort by key

Looking for the first element with a property in a list that was stably sorted
by a key finds the element of least key that has it, the earliest one among
equals. The insertion sort never has to be unfolded by a caller.
-/

namespace PiGwPanel.StableFirstMatch

open List

variable {α κ : Type} [LinearOrder κ] (key : α → κ) (p : α → Bool)

/-- Of a candidate and the best element of the rest: the candidate wins when it has the
property and no larger key. -/
def better (candidate : α) : Option α → Option α
  | none => if p candidate then some candidate else none
  | some best => if p candidate && key candidate ≤ key best then some candidate else some best

/-- The element of least key with the property, the earliest one among equals. -/
def leading : List α → Option α
  | [] => none
  | a :: rest => better key p a (leading rest)

/-- The stable sort by key. -/
def sortByKey (l : List α) : List α := l.insertionSort fun a b => key a ≤ key b

theorem better_of_false {a : α} (ha : p a=false) (best : Option α) : better key p a best=best := by
  cases best with
  | none => simp [better,ha]
  | some b => simp [better,ha]

theorem better_of_le {a : α} (ha : p a=true) {best : Option α}
    (hle : ∀ b, best=some b → key a≤key b) : better key p a best=some a := by
  cases best with
  | none => simp [better,ha]
  | some b => simp [better,ha,hle b rfl]

variable {l : List α}

/-- Inserting a candidate into a sorted list and looking for the first match is choosing
between the candidate and the first match. -/
theorem find?_orderedInsert (a : α) (hl : l.Pairwise fun b c => key b≤key c) :
    (l.orderedInsert (fun b c => key b≤key c) a).find? p=better key p a (l.find? p) := by
  induction l with
  | nil => cases ha : p a <;> simp [better,ha]
  | cons b rest ih =>
    rw [pairwise_cons] at hl
    by_cases hab : key a≤key b
    · rw [orderedInsert_cons,if_pos hab]
      cases ha : p a with
      | false => rw [find?_cons_of_neg (by simp [ha]),better_of_false key p ha]
      | true =>
        have hbound : ∀ c∈b::rest, key a≤key c := by
          intro c hc
          rcases mem_cons.mp hc with rfl | hc
          · exact hab
          · exact hab.trans (hl.1 c hc)
        rw [find?_cons_of_pos ha,better_of_le key p ha]
        exact fun best hbest => hbound best (mem_of_find?_eq_some hbest)
    · rw [orderedInsert_cons,if_neg hab]
      cases hb : p b with
      | false =>
        rw [find?_cons_of_neg (by simp [hb]),find?_cons_of_neg (by simp [hb])]
        exact ih hl.2
      | true =>
        rw [find?_cons_of_pos hb,find?_cons_of_pos hb]
        simp [better,hab]

theorem find?_sortByKey (l : List α) : (sortByKey key l).find? p=leading key p l := by
  induction l with
  | nil => rfl
  | cons a rest ih =>
    have hsorted : (sortByKey key rest).Pairwise fun b c => key b≤key c :=
      pairwise_insertionSort (fun b c => key b≤key c) rest
    change ((sortByKey key rest).orderedInsert _ a).find? p=better key p a (leading key p rest)
    rw [find?_orderedInsert key p a hsorted,ih]

theorem sortByKey_perm (l : List α) : (sortByKey key l).Perm l :=
  perm_insertionSort _ l

theorem sortByKey_pairwise (l : List α) : (sortByKey key l).Pairwise fun a b => key a≤key b :=
  pairwise_insertionSort (fun a b => key a≤key b) l

theorem sortByKey_of_pairwise (hl : l.Pairwise fun a b => key a≤key b) :
    sortByKey key l=l := hl.insertionSort_eq

/-- Where at most one element has the property, sorting does not change the match. -/
theorem find?_sortByKey_of_unique (hunique : ∀ a∈l, ∀ b∈l, p a=true → p b=true → a=b) :
    (sortByKey key l).find? p=l.find? p := by
  have hmem (a : α) : a∈sortByKey key l ↔ a∈l := (sortByKey_perm key l).mem_iff
  cases hfst : l.find? p with
  | none =>
    rw [find?_eq_none] at hfst ⊢
    exact fun a ha => hfst a ((hmem a).mp ha)
  | some a =>
    have hpa : p a=true := find?_some hfst
    have ha : a∈l := mem_of_find?_eq_some hfst
    cases hsorted : (sortByKey key l).find? p with
    | none => exact absurd hpa (find?_eq_none.mp hsorted a ((hmem a).mpr ha))
    | some b =>
      have hb : b∈l := (hmem b).mp (mem_of_find?_eq_some hsorted)
      rw [hunique b hb a ha (find?_some hsorted) hpa]

end PiGwPanel.StableFirstMatch
