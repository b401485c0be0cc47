import Mathlib.Data.List.Basic

/-!
# Results of checks that may fail

What is known once a chain of checks came out well: every link did.
-/

namespace PiGwPanel.CheckedResult

open List

variable {ε α β : Type}

variable {κ : Type} {items : List α} {first : Except ε α} {value : β}

theorem exists_of_bind_ok {next : α → Except ε β} (h : first >>= next = .ok value) :
    ∃ a, first = .ok a ∧ next a = .ok value := by
  cases first with
  | error why => cases h
  | ok a => exact ⟨a,rfl,h⟩

theorem exists_of_map_ok {f : α → β} (h : first.map f = .ok value) :
    ∃ a, first = .ok a ∧ f a=value := by
  cases first with
  | error why => cases h
  | ok a => exact ⟨a,rfl,Except.ok.inj h⟩

theorem exists_of_isOk {result : Except ε α} (h : result.isOk=true) :
    ∃ value, result = .ok value := by
  cases result with
  | error why => exact absurd h (by simp [Except.isOk,Except.toBool])
  | ok value => exact ⟨value,rfl⟩

section Guards

variable {p : Prop} [Decidable p] {why : ε}

variable {rest : Except ε α} {value : α}

theorem of_ite_ok (h : (if p then rest else .error why) = .ok value) : p ∧ rest = .ok value := by
  by_cases hp : p
  · rw [if_pos hp] at h
    exact ⟨hp,h⟩
  · rw [if_neg hp] at h
    cases h

theorem of_ite_error_ok (h : (if p then .error why else rest) = .ok value) :
    ¬p ∧ rest = .ok value := by
  by_cases hp : p
  · rw [if_pos hp] at h
    cases h
  · rw [if_neg hp] at h
    exact ⟨hp,h⟩

/-- A guarded step can come out well when its guard holds and the rest can. -/
theorem ok_dite_iff {rest : p → Except ε α} :
    (∃ result, (if h : p then rest h else .error why) = .ok result) ↔
      ∃ h : p, ∃ result, rest h = .ok result := by
  by_cases h : p <;> simp [h]

theorem ok_ite_iff : (∃ result, (if p then rest else .error why) = .ok result) ↔
      p ∧ ∃ result, rest = .ok result := by
  by_cases h : p <;> simp [h]

end Guards

/-- A check of every item that gives items back unchanged gives the list back. -/
theorem mapM_ok_fixed {check : α → Except ε α} {checked : List α}
    (hfixed : ∀ item∈items, ∀ out, check item = .ok out → out=item)
    (h : items.mapM check = .ok checked) : checked=items := by
  induction items generalizing checked with
  | nil => exact (Except.ok.inj h).symm
  | cons item rest ih =>
    rw [mapM_cons] at h
    obtain ⟨out,hhead,h⟩ := exists_of_bind_ok h
    obtain ⟨outs,htail,h⟩ := exists_of_bind_ok h
    have hrest := ih (fun other hother => hfixed other (mem_cons_of_mem _ hother)) htail
    rw [← Except.ok.inj h,hfixed item mem_cons_self out hhead,hrest]

/-- What a check of items came out with, each item apart. -/
theorem forall_mapM_ok {check : α → Except ε β} {checked : List β}
    (h : items.mapM check = .ok checked) : (∀ out∈checked, ∃ item∈items, check item = .ok out) ∧
      ∀ item∈items, ∃ out∈checked, check item = .ok out := by
  induction items generalizing checked with
  | nil =>
    rw [← Except.ok.inj h]
    simp
  | cons item rest ih =>
    rw [mapM_cons] at h
    obtain ⟨out,hhead,h⟩ := exists_of_bind_ok h
    obtain ⟨outs,htail,h⟩ := exists_of_bind_ok h
    rw [← Except.ok.inj h]
    obtain ⟨hout,hin⟩ := ih htail
    refine ⟨forall_mem_cons.mpr ⟨⟨item,mem_cons_self,hhead⟩,fun other hother => ?_⟩,
      forall_mem_cons.mpr ⟨⟨out,mem_cons_self,hhead⟩,fun other hother => ?_⟩⟩
    · obtain ⟨source,hsource,hcheck⟩ := hout other hother
      exact ⟨source,mem_cons_of_mem _ hsource,hcheck⟩
    · obtain ⟨found,hfound,hcheck⟩ := hin other hother
      exact ⟨found,mem_cons_of_mem _ hfound,hcheck⟩

/-- The values the checks of some keys find, by key; the first check that fails is the answer. -/
def collect {κ : Type} (check : κ → Except ε (Option α)) : List κ → Except ε (List (κ × α))
  | [] => .ok []
  | key :: rest => do
    let value ← check key
    let others ← collect check rest
    return (value.map fun found => (key, found)).toList ++ others

variable {check : κ → Except ε (Option α)} {keys : List κ}

theorem collect_ok_iff :
    (∃ found, collect check keys = .ok found) ↔ ∀ key∈keys, ∃ value, check key = .ok value := by
  induction keys with
  | nil => simp [collect]
  | cons key rest ih =>
    rw [forall_mem_cons,← ih]
    constructor
    · rintro ⟨found,h⟩
      obtain ⟨value,hval,h⟩ := exists_of_bind_ok h
      obtain ⟨others,hothers,-⟩ := exists_of_bind_ok h
      exact ⟨⟨value,hval⟩,others,hothers⟩
    · rintro ⟨⟨value,hval⟩,others,hothers⟩
      refine ⟨(value.map fun found => (key, found)).toList++others, ?_⟩
      unfold collect
      rw [hval,hothers]
      rfl

/-- Collected values are those of the checks. -/
theorem lookup_collect [BEq κ] [LawfulBEq κ]
    {found : List (κ × α)} (hkeys : keys.Nodup) (h : collect check keys = .ok found) {key : κ} :
    (key∈keys → check key = .ok (found.lookup key)) ∧ (key∉keys → found.lookup key=none) := by
  induction keys generalizing found with
  | nil =>
    rw [← Except.ok.inj h]
    simp
  | cons first rest ih =>
    obtain ⟨value,hval,h⟩ := exists_of_bind_ok h
    obtain ⟨others,hothers,h⟩ := exists_of_bind_ok h
    rw [← Except.ok.inj h]
    obtain ⟨hfst,hrest⟩ := nodup_cons.mp hkeys
    have hlater := ih hrest hothers
    by_cases heq : key=first
    · subst heq
      rw [hval]
      cases value with
      | none => simp [hlater.2 hfst]
      | some v => simp
    · have hskip : ((value.map fun v => (first, v)).toList++others).lookup key =
          others.lookup key := by
        cases value with
        | none => rfl
        | some v =>
          have hbeq : (key == first)=false := by simpa using heq
          simp [lookup_cons,hbeq]
      rw [hskip]
      constructor
      · intro hmem
        exact hlater.1 ((mem_cons.mp hmem).resolve_left heq)
      · intro hmem
        exact hlater.2 fun hin => hmem (mem_cons_of_mem _ hin)

end PiGwPanel.CheckedResult
