import Mathlib.Data.List.Basic

/-!
# Text in pieces

Formats without escapes put pieces of text between separators and read them back
by splitting. What was joined comes back exactly when no piece holds a
separator.
-/

namespace PiGwPanel.DelimitedText

open List

variable {separates : Char → Bool}

/-- No character of the text separates. -/
def Free (separates : Char → Bool) (text : String) : Prop :=
  ∀ c ∈ text.toList, separates c = false

instance (text : String) : Decidable (Free separates text) :=
  List.decidableBAll (fun c => separates c = false) text.toList

@[simp] theorem free_append {first second : String} :
    Free separates (first++second) ↔ Free separates first ∧ Free separates second := by
  simp [Free,String.toList_append,or_imp,forall_and]

variable {separator : Char} {text : String} {pieces : List String}

theorem Free.mono {fewer : Char → Bool} (h : Free separates text)
    (hfewer : ∀ c, fewer c=true → separates c=true) : Free fewer text := by
  intro c hc
  by_contra hseparates
  have htrue := hfewer c (by simpa using hseparates)
  rw [h c hc] at htrue
  cases htrue

/-- The pieces between separators. -/
def split (separates : Char → Bool) (text : String) : List String :=
  (text.toList.splitOnP separates).map String.ofList

/-- Pieces with a separator between them. -/
def join (separator : Char) (pieces : List String) : String :=
  String.ofList ([separator].intercalate (pieces.map String.toList))

theorem join_singleton (separator : Char) (piece : String) : join separator [piece]=piece := by
  simp [join]

theorem join_cons_cons (separator : Char) (first second : String) (rest : List String) :
    join separator (first::second::rest) =
      first++String.singleton separator++join separator (second::rest) := by
  unfold join
  rw [map_cons,map_cons,intercalate_cons_cons,← String.toList_inj]
  simp [String.toList_append]

theorem free_of_mem_split {piece : String} (h : piece∈split separates text) :
    Free separates piece := by
  obtain ⟨chars,hchars,rfl⟩ := mem_map.mp h
  intro c hc
  rw [String.toList_ofList] at hc
  have hpieces : ∀ (text chars : List Char), chars∈text.splitOnP separates →
      ∀ c∈chars, separates c=false := by
    intro text
    induction text with
    | nil => simp
    | cons first rest ih =>
      intro chars hchars c hc
      rw [splitOnP_cons_eq_if_modifyHead] at hchars
      split at hchars
      · rcases mem_cons.mp hchars with rfl | hlater
        · cases hc
        · exact ih chars hlater c hc
      next hfst =>
        cases hsplit : rest.splitOnP separates with
        | nil => exact absurd hsplit (splitOnP_ne_nil _ _)
        | cons head others =>
          rw [hsplit,modifyHead_cons] at hchars
          rcases mem_cons.mp hchars with rfl | hlater
          · rcases mem_cons.mp hc with rfl | hin
            · simpa using hfst
            · exact ih head (by rw [hsplit]; exact mem_cons_self) c hin
          · exact ih chars (by rw [hsplit]; exact mem_cons_of_mem _ hlater) c hc
  exact hpieces text.toList chars hchars c hc

variable (hsep : separates separator=true)

include hsep

variable (hne : pieces ≠ [])

include hne

/-- Joined pieces come back when none of them holds a separator. -/
theorem split_join (hfree : ∀ piece∈pieces, Free separates piece) :
    split separates (join separator pieces)=pieces := by
  unfold split join
  rw [String.toList_ofList]
  induction pieces with
  | nil => exact absurd rfl hne
  | cons first rest ih =>
    have hsingle : first.toList.splitOnP separates=[first.toList] := by
      apply splitOnP_eq_singleton
      intro c hc
      rw [hfree first mem_cons_self c hc]
    cases rest with
    | nil =>
      rw [map_singleton,intercalate_singleton,hsingle,map_singleton, String.ofList_toList]
    | cons second others =>
      have hlater := ih (by simp) fun piece hpiece => hfree piece (mem_cons_of_mem _ hpiece)
      rw [map_cons,map_cons,intercalate_cons_cons,append_assoc,
        singleton_append,splitOnP_append_cons _ _ hsep,hsingle,map_append,
        ← map_cons,hlater,map_singleton,String.ofList_toList,singleton_append]

theorem split_join_flatMap :
    split separates (join separator pieces)=pieces.flatMap (split separates) := by
  induction pieces with
  | nil => exact absurd rfl hne
  | cons first rest ih =>
    cases rest with
    | nil => simp [join_singleton]
    | cons second others =>
      have hlater := ih (by simp)
      have hsplit : split separates (join separator (first::second::others)) =
          split separates first++split separates (join separator (second::others)) := by
        unfold split
        rw [join_cons_cons,String.toList_append,String.toList_append,append_assoc,
          ← map_append,← splitOnP_append_cons _ _ hsep]
        simp
      rw [hsplit,hlater]
      rfl

/-- Joined pieces come back exactly when none of them holds a separator. -/
theorem split_join_iff : split separates (join separator pieces)=pieces ↔
      ∀ piece∈pieces, Free separates piece := by
  constructor
  · intro h piece hpiece
    rw [← h] at hpiece
    exact free_of_mem_split hpiece
  · exact split_join hsep hne

end PiGwPanel.DelimitedText
