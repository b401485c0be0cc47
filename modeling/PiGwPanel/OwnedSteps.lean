import Mathlib.Data.List.Basic

/-!
# Loops whose steps each own a part of a map

A loop goes over items and stops at the first one that raises. When every step
reads and writes only the keys of its own item, and no two items share a key, the
loop does to the keys of each item what the step would have done to them in the
beginning; after a stop, the keys of the items not reached are as they were.
-/

namespace PiGwPanel.OwnedSteps

open List

variable {α κ V ε : Type}

/-- A step of a loop: the exception it raises, if any, and the map it leaves. -/
abbrev Step (α κ V ε : Type) := α → (κ → V) → Option ε × (κ → V)

/-- Perform the step for every item, up to the first exception. -/
def forEach (act : Step α κ V ε) : List α → (κ → V) → Option ε × (κ → V)
  | [], map => (none, map)
  | item :: rest, map =>
    match act item map with
    | (none, after) => forEach act rest after
    | (some why, after) => (some why, after)

/-- Every step keeps to the keys of its own item. -/
structure Owned (act : Step α κ V ε) (owns : α → κ → Prop) : Prop where
  /-- Other keys are left alone. -/
  frame : ∀ item map key, ¬owns item key → (act item map).2 key = map key
  /-- Other keys are not read. -/
  raises : ∀ item map other, (∀ key, owns item key → map key = other key) →
    (act item map).1 = (act item other).1
  writes : ∀ item map other, (∀ key, owns item key → map key = other key) →
    ∀ key, owns item key → (act item map).2 key = (act item other).2 key

/-- No two items share a key. -/
def Apart (owns : α → κ → Prop) (items : List α) : Prop :=
  items.Pairwise fun a b => ∀ key, owns a key → ¬owns b key

variable {act : Step α κ V ε} {owns : α → κ → Prop} {items : List α} {map : κ → V}

variable {item : α} {rest : List α}

theorem forEach_cons_of_none (h : (act item map).1=none) :
    forEach act (item::rest) map=forEach act rest (act item map).2 := by
  rw [forEach]
  split
  next after hact =>
    rw [hact]
  next why after hact =>
    rw [hact] at h
    cases h

theorem forEach_cons_of_some {why : ε} (h : (act item map).1=some why) :
    forEach act (item::rest) map=act item map := by
  rw [forEach]
  split
  next after hact =>
    rw [hact] at h
    cases h
  next found after hact =>
    exact hact.symm

variable {key : κ}

/-- A loop over two lists in turn. -/
theorem forEach_append_of_none {first second : List α} (h : (forEach act first map).1=none) :
    forEach act (first++second) map=forEach act second (forEach act first map).2 := by
  induction first generalizing map with
  | nil => rfl
  | cons item rest ih =>
    cases hact : (act item map).1 with
    | none =>
      rw [forEach_cons_of_none hact] at h ⊢
      rw [cons_append,forEach_cons_of_none hact]
      exact ih h
    | some why =>
      rw [forEach_cons_of_some hact,hact] at h
      cases h

/-- What a loop that stops at an item leaves of every other one. -/
structure Stopped (act : Step α κ V ε) (owns : α → κ → Prop) (map after : κ → V)
    (before : List α) (item : α) (rest : List α) : Prop where
  /-- The items before it went through. -/
  done : ∀ earlier ∈ before, ∀ key, owns earlier key → after key = (act earlier map).2 key
  at_item : ∀ key, owns item key → after key = (act item map).2 key
  /-- Those after it were not reached. -/
  unreached : ∀ later ∈ rest, ∀ key, owns later key → after key = map key

variable (h : Owned act owns)

include h

theorem eq_after_first (hapart : Apart owns (item::rest)) {later : α}
    (hlater : later∈rest) (hkey : owns later key) : (act item map).2 key=map key :=
  h.frame item map key fun hown => (pairwise_cons.mp hapart).1 later hlater key hown hkey

theorem forEach_eq_none_iff (hapart : Apart owns items) :
    (forEach act items map).1=none ↔ ∀ item∈items, (act item map).1=none := by
  induction items generalizing map with
  | nil => simp [forEach]
  | cons item rest ih =>
    rw [forall_mem_cons]
    cases hfst : (act item map).1 with
    | some why =>
      rw [forEach_cons_of_some hfst,hfst]
      simp
    | none =>
      rw [forEach_cons_of_none hfst,ih hapart.of_cons]
      simp only [true_and]
      refine forall₂_congr fun later hlater => ?_
      rw [h.raises later _ map fun key hkey => eq_after_first h hapart hlater hkey]

theorem forEach_frame (hkey : ∀ item∈items, ¬owns item key) :
    (forEach act items map).2 key=map key := by
  induction items generalizing map with
  | nil => rfl
  | cons item rest ih =>
    obtain ⟨hitem,hrest⟩ := forall_mem_cons.mp hkey
    cases hact : (act item map).1 with
    | none => rw [forEach_cons_of_none hact,ih hrest,h.frame item map key hitem]
    | some why => rw [forEach_cons_of_some hact,h.frame item map key hitem]

/-- After a loop that raised nothing, the keys of an item are as its step leaves them. -/
theorem forEach_at_owned (hapart : Apart owns items)
    (hnone : ∀ item∈items, (act item map).1=none) (hitem : item∈items)
    (hkey : owns item key) : (forEach act items map).2 key=(act item map).2 key := by
  induction items generalizing map with
  | nil => cases hitem
  | cons first rest ih =>
    obtain ⟨hfst,hrest⟩ := forall_mem_cons.mp hnone
    have hsame {later : α} (hlater : later∈rest) :
        ∀ key, owns later key → (act first map).2 key=map key := fun key hown =>
      eq_after_first h hapart hlater hown
    have hrest' : ∀ later∈rest, (act later (act first map).2).1=none := fun later hlater =>
      (h.raises later _ map (hsame hlater)).trans (hrest later hlater)
    rw [forEach_cons_of_none hfst]
    rcases mem_cons.mp hitem with rfl | hlater
    · exact forEach_frame h fun other hother =>
        (pairwise_cons.mp hapart).1 other hother key hkey
    · rw [ih hapart.of_cons hrest' hlater]
      exact h.writes item _ map (hsame hlater) key hkey

theorem forEach_stops {before : List α} {why : ε} (hapart : Apart owns (before++item::rest))
    (hpre : ∀ earlier∈before, (act earlier map).1=none) (hitem : (act item map).1=some why) :
    (forEach act (before++item::rest) map).1=some why ∧
      Stopped act owns map (forEach act (before++item::rest) map).2 before item rest := by
  obtain ⟨hfst,hsnd,hcross⟩ := pairwise_append.mp hapart
  have hnone := (forEach_eq_none_iff h hfst).mpr hpre
  have hkept : ∀ key, (∀ earlier∈before, ¬owns earlier key) →
      (forEach act before map).2 key=map key := fun key hkey => forEach_frame h hkey
  have hclear : ∀ later∈item::rest, ∀ key, owns later key →
      ∀ earlier∈before, ¬owns earlier key := fun later hlater key hkey earlier hearlier hown =>
    hcross earlier hearlier later hlater key hown hkey
  have hsame : ∀ key, owns item key → (forEach act before map).2 key=map key := fun key hkey =>
    hkept key (hclear item mem_cons_self key hkey)
  have hstop : (act item (forEach act before map).2).1=some why :=
    (h.raises item _ map hsame).trans hitem
  rw [forEach_append_of_none hnone,forEach_cons_of_some hstop]
  refine ⟨hstop,fun earlier hearlier key hkey => ?_,fun key hkey => ?_,
    fun later hlater key hkey => ?_⟩
  · have hnot : ¬owns item key := hcross earlier hearlier item mem_cons_self key hkey
    rw [h.frame item _ key hnot]
    exact forEach_at_owned h hfst hpre hearlier hkey
  · exact h.writes item _ map hsame key hkey
  · have hnot : ¬owns item key := fun hown =>
      (pairwise_cons.mp hsnd).1 later hlater key hown hkey
    rw [h.frame item _ key hnot]
    exact hkept key (hclear later (mem_cons_of_mem item hlater) key hkey)

end PiGwPanel.OwnedSteps
