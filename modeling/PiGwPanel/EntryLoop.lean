import Mathlib.Algebra.GroupWithZero.Nat
import Mathlib.Data.List.Basic

/-!
# Reading entries one by one

A loop over the entries of a document: an entry is kept as a value, skipped
under a label, or raises and ends the loop; the loop also ends once it has kept
as many values as it may. What comes out is said entry by entry.
-/

namespace PiGwPanel.EntryLoop

open List

/-- What one entry comes to. -/
inductive Outcome (α : Type) where
  | kept (value : α)
  | skipped (label : String)

/-- Entries skipped so far by label, in the order the labels came up. -/
abbrev Counts := List (String × ℕ)

/-- `counts[label] = counts.get(label, 0) + 1`. -/
def note : Counts → String → Counts
  | [], label => [(label, 1)]
  | (known, count) :: rest, label =>
    if known = label then (known, count + 1) :: rest else (known, count) :: note rest label

/-- How many entries were skipped. -/
def total (counts : Counts) : ℕ := (counts.map Prod.snd).sum

theorem total_note (counts : Counts) (label : String) :
    total (note counts label)=total counts+1 := by
  induction counts with
  | nil => rfl
  | cons first rest ih =>
    have hfst : total (first::rest)=first.2+total rest := by
      simp [total]
    unfold note
    by_cases h : first.1=label
    · simp only [if_pos h,total,map_cons,sum_cons]
      omega
    · have hnote : total ((first.1, first.2)::note rest label) =
          first.2+total (note rest label) := by
        simp [total]
      rw [if_neg h,hnote,ih,hfst]
      omega

variable {ε E α : Type}

/-- The loop, with what it kept and skipped before. -/
def readAll (read : E → Except ε (Outcome α)) (limit : Option ℕ) :
    List E → List α → Counts → Except ε (List α × Counts)
  | [], kept, counts => .ok (kept, counts)
  | entry :: rest, kept, counts =>
    match read entry with
    | .error why => .error why
    | .ok (.skipped label) => readAll read limit rest kept (note counts label)
    | .ok (.kept value) =>
      if limit.any (· ≤ kept.length + 1) then .ok (kept ++ [value], counts)
      else readAll read limit rest (kept ++ [value]) counts

section Entries

variable (read : E → Except ε (Outcome α))

/-- What an entry gives on its own: the value the loop keeps when it reads this entry alone, or none
where the entry is skipped or raises. -/
def given (entry : E) : List α :=
  match readAll read none [entry] [] [] with
  | .ok (kept, _) => kept
  | .error _ => []

/-- The entries the loop comes to before it has enough, `kept` values being there already. -/
def reached (limit : Option ℕ) : ℕ → List E → List E
  | _, [] => []
  | kept, entry :: rest =>
    entry :: if (given read entry).isEmpty then reached limit kept rest
      else if limit.any (· ≤ kept + 1) then [] else reached limit (kept + 1) rest

/-- The values a loop with a limit stops at; one is kept before the limit is looked at. -/
def upTo (limit : Option ℕ) (values : List α) : List α :=
  match limit with
  | none => values
  | some most => values.take (max most 1)

/-- The entries give fewer values than the limit. -/
def Below (limit : Option ℕ) (entries : List E) : Prop :=
  ∀ most ∈ limit, (entries.flatMap (given read)).length < most

variable {read}

variable {entry : E} {entries : List E} {limit : Option ℕ}

theorem given_of_kept {value : α} (h : read entry = .ok (.kept value)) :
    given read entry=[value] := by
  simp [given,readAll,h]

theorem given_of_skipped {label : String} (h : read entry = .ok (.skipped label)) :
    given read entry=[] := by
  simp [given,readAll,h]

theorem given_of_error {why : ε} (h : read entry = .error why) : given read entry=[] := by
  simp [given,readAll,h]

/-- The three ways one entry can go. -/
theorem read_cases (read : E → Except ε (Outcome α)) (entry : E) :
    (∃ why, read entry = .error why) ∨ (∃ label, read entry = .ok (.skipped label)) ∨
      ∃ value, read entry = .ok (.kept value) := by
  cases h : read entry with
  | error why => exact .inl ⟨why,rfl⟩
  | ok outcome =>
    cases outcome with
    | skipped label => exact .inr (.inl ⟨label,rfl⟩)
    | kept value => exact .inr (.inr ⟨value,rfl⟩)

theorem length_given (entry : E) : (given read entry).length≤1 := by
  obtain ⟨why,h⟩ | ⟨label,h⟩ | ⟨value,h⟩ := read_cases read entry
  · simp [given_of_error h]
  · simp [given_of_skipped h]
  · simp [given_of_kept h]

/-- The loop returns exactly when no entry it comes to raises. -/
theorem readAll_returns_iff (limit : Option ℕ) (entries : List E) (kept : List α)
    (counts : Counts) : (∃ out, readAll read limit entries kept counts = .ok out) ↔
      ∀ entry∈reached read limit kept.length entries, ∃ outcome, read entry = .ok outcome := by
  induction entries generalizing kept counts with
  | nil => simp [readAll,reached]
  | cons entry rest ih =>
    obtain ⟨why,h⟩ | ⟨label,h⟩ | ⟨value,h⟩ := read_cases read entry
    · simp [readAll,reached,h]
    · simp only [readAll,reached,h,given_of_skipped h,isEmpty_nil,if_true, forall_mem_cons]
      rw [ih kept (note counts label)]
      simp
    · have hlen : (kept++[value]).length=kept.length+1 := by simp
      by_cases hfull : limit.any (·≤kept.length+1)=true
      · simp [readAll,reached,h,given_of_kept h,hfull]
      · simp only [readAll,reached,h,given_of_kept h,hfull,isEmpty_cons,
          Bool.false_eq_true,if_false,forall_mem_cons]
        rw [ih (kept++[value]) counts,hlen]
        simp

/-- What the loop returns: the values of the entries it came to, in order, and one count for
every other of them. -/
theorem readAll_ok {kept values : List α} {counts after : Counts}
    (h : readAll read limit entries kept counts = .ok (values, after)) :
    values=kept++(reached read limit kept.length entries).flatMap (given read) ∧
      values.length+total after =
        kept.length+total counts+(reached read limit kept.length entries).length := by
  induction entries generalizing kept counts with
  | nil =>
    simp only [readAll,Except.ok.injEq,Prod.mk.injEq] at h
    simp [reached,h.1,h.2]
  | cons entry rest ih =>
    obtain ⟨why,hread⟩ | ⟨label,hread⟩ | ⟨value,hread⟩ := read_cases read entry
    · simp [readAll,hread] at h
    · simp only [readAll,hread] at h
      obtain ⟨hvals,htotal⟩ := ih h
      rw [total_note] at htotal
      simp only [reached,given_of_skipped hread,isEmpty_nil,if_true,flatMap_cons,
        nil_append,length_cons]
      exact ⟨hvals,by omega⟩
    · have hlen : (kept++[value]).length=kept.length+1 := by simp
      simp only [readAll,hread] at h
      by_cases hfull : limit.any (·≤kept.length+1)=true
      · rw [if_pos hfull] at h
        obtain ⟨rfl,rfl⟩ := h
        simp only [reached,given_of_kept hread,hfull,isEmpty_cons,Bool.false_eq_true,
          if_false,if_true,flatMap_cons,flatMap_nil,append_nil,
          length_cons,length_nil,hlen,true_and]
        omega
      · rw [if_neg hfull] at h
        obtain ⟨hvals,htotal⟩ := ih h
        rw [hlen] at hvals htotal
        simp only [reached,given_of_kept hread,hfull,isEmpty_cons,Bool.false_eq_true,
          if_false,flatMap_cons,length_cons]
        refine ⟨?_,by omega⟩
        rw [hvals,append_assoc]

/-- Up to the limit, what the loop came to is all that the entries give. -/
theorem flatMap_reached (limit : Option ℕ) (entries : List E) (count : ℕ) :
    (reached read limit count entries).flatMap (given read) =
      upTo (limit.map (·-count)) (entries.flatMap (given read)) := by
  induction entries generalizing count with
  | nil => cases limit <;> simp [reached,upTo]
  | cons entry rest ih =>
    have hlen := @length_given _ _ _ read entry
    cases hgiven : given read entry with
    | nil => simp [reached,hgiven,ih]
    | cons value more =>
      obtain rfl : more=[] := by
        rw [hgiven,length_cons] at hlen
        exact length_eq_zero_iff.mp (by omega)
      cases limit with
      | none => simp [reached,hgiven,ih,upTo]
      | some most =>
        by_cases hfull : most ≤ count+1
        · have hone : max (most-count) 1=1 := by omega
          simp [reached,hgiven,hfull,upTo,hone]
        · have hmore : max (most-count) 1=max (most-(count+1)) 1+1 := by omega
          simp [reached,hgiven,hfull,ih,upTo,hmore]

/-- Below the limit the loop comes to every entry. -/
theorem reached_of_below {count : ℕ}
    (h : ∀ most∈limit, count+(entries.flatMap (given read)).length < most) :
    reached read limit count entries=entries := by
  induction entries generalizing count with
  | nil => rfl
  | cons entry rest ih =>
    rw [flatMap_cons] at h
    cases hgiven : given read entry with
    | nil =>
      simp only [hgiven,nil_append] at h
      simp only [reached,hgiven,isEmpty_nil,if_true]
      rw [ih h]
    | cons value more =>
      have hroom : ¬limit.any (· ≤ count+1)=true := by
        cases limit with
        | none => simp
        | some most =>
          have := h most rfl
          simp only [hgiven,length_append,length_cons] at this
          simp only [Option.any_some,decide_eq_true_eq]
          omega
      have hrest : ∀ most∈limit, count+1+(rest.flatMap (given read)).length < most := by
        intro most hmost
        have := h most hmost
        simp only [hgiven,length_append,length_cons] at this
        omega
      simp only [reached,hgiven,isEmpty_cons,Bool.false_eq_true,if_false,if_neg hroom]
      rw [ih hrest]

theorem mem_of_mem_reached {count : ℕ} (h : entry∈reached read limit count entries) :
    entry∈entries := by
  induction entries generalizing count with
  | nil => simp [reached] at h
  | cons first rest ih =>
    obtain rfl | h := mem_cons.mp h
    · exact mem_cons_self
    · split at h
      · exact mem_cons_of_mem _ (ih h)
      · split at h
        · simp at h
        · exact mem_cons_of_mem _ (ih h)

/-- Entries do not disturb each other: the loop returns, its values are those the entries give on
their own, and below the limit every entry is a value or a count. -/
structure Apart (read : E → Except ε (Outcome α)) (limit : Option ℕ) (entries : List E)
    (out : Except ε (List α × Counts)) : Prop where
  returns : ∃ result, out = .ok result
  values : ∀ values counts, out = .ok (values, counts) →
    values = upTo limit (entries.flatMap (given read))
  counted : Below read limit entries → ∀ values counts, out = .ok (values, counts) →
    values.length + total counts = entries.length

/-- Returning is all the loop needs for its entries not to disturb each other. -/
theorem apart_iff (limit : Option ℕ) (entries : List E) :
    Apart read limit entries (readAll read limit entries [] []) ↔
      ∀ entry∈reached read limit 0 entries, ∃ outcome, read entry = .ok outcome := by
  rw [show (0 : ℕ)=([] : List α).length from rfl,← readAll_returns_iff limit entries [] []]
  refine ⟨fun h => h.returns,fun hret => ⟨hret,fun values counts h => ?_,
    fun hbelow values counts h => ?_⟩⟩
  · have hall := @flatMap_reached _ _ _ read limit entries 0
    rw [(readAll_ok h).1,nil_append,length_nil,hall]
    simp
  · have htotal := (readAll_ok h).2
    have hreached : reached read limit 0 entries=entries := by
      apply reached_of_below
      intro most hmost
      rw [Nat.zero_add]
      exact hbelow most hmost
    rw [length_nil,hreached] at htotal
    simpa [total] using htotal

end Entries

end PiGwPanel.EntryLoop
