import Mathlib.Data.List.Infix
import Mathlib.Data.List.Perm.Subperm

/-!
# Replacing every occurrence of a pattern

`str.replace` on lists of cells. What a cell looks like is a parameter, so that one
scan serves plain characters and characters that remember where they come from. A
run of cells is foreign to the mask when it shares no cell with it: such a run is
never made by a replacement, only kept.
-/

namespace PiGwPanel.TextReplacement

open List

variable {α β : Type} [DecidableEq α] (look : β → α)

/-- The scan; the cells of an occurrence are skipped once the mask stands for them. -/
def scan (pattern : List α) (mask : List β) : ℕ → List β → List β
  | _, [] => []
  | skip + 1, _ :: rest => scan pattern mask skip rest
  | 0, cell :: rest =>
    if pattern.isPrefixOf ((cell :: rest).map look) then
      mask ++ scan pattern mask (pattern.length - 1) rest
    else cell :: scan pattern mask 0 rest

/-- `text.replace(pattern, mask)` for a pattern that is not empty. -/
def replaceAll (pattern : List α) (mask text : List β) : List β := scan look pattern mask 0 text

/-- The patterns one after the other. -/
def replaceEach (patterns : List (List α)) (mask text : List β) : List β :=
  patterns.foldl (fun text pattern => replaceAll look pattern mask text) text

variable {look} {pattern : List α} {mask text u : List β} {cell : β} {rest : List β}

theorem scan_skip (skip : ℕ) (text : List β) :
    scan look pattern mask skip text=replaceAll look pattern mask (text.drop skip) := by
  induction text generalizing skip with
  | nil => cases skip <;> rfl
  | cons cell rest ih =>
    cases skip with
    | zero => rfl
    | succ skip => exact ih skip

/-- Replacing cells is replacing what they are cells of. -/
theorem map_replaceEach {γ : Type} (f : γ → β) (patterns : List (List α)) (mask text : List γ) :
    (replaceEach (look ∘ f) patterns mask text).map f =
      replaceEach look patterns (mask.map f) (text.map f) := by
  have hscan (pattern : List α) (skip : ℕ) (text : List γ) :
      (scan (look ∘ f) pattern mask skip text).map f =
        scan look pattern (mask.map f) skip (text.map f) := by
    induction text generalizing skip with
    | nil => cases skip <;> rfl
    | cons cell rest ih =>
      cases skip with
      | zero =>
        simp only [scan,map_cons,map_map,Function.comp_apply]
        split_ifs
        · rw [map_append,ih]
        · rw [map_cons,ih]
      | succ skip => exact ih skip
  induction patterns generalizing text with
  | nil => rfl
  | cons pattern patterns ih => exact (ih _).trans (congrArg _ (hscan pattern 0 text))

theorem replaceAll_keep (h : ¬pattern <+: (cell::rest).map look) :
    replaceAll look pattern mask (cell::rest)=cell::replaceAll look pattern mask rest := by
  rw [← isPrefixOf_iff_prefix] at h
  exact if_neg h

variable {patterns : List (List α)}

/-- A text without an occurrence stays as it is. -/
theorem replaceEach_eq_self (h : ∀ pattern∈patterns, ¬pattern <:+: text.map look) :
    replaceEach look patterns mask text=text := by
  have hone (pattern : List α) (text : List β) (h : ¬pattern <:+: text.map look) :
      replaceAll look pattern mask text=text := by
    induction text with
    | nil => rfl
    | cons cell rest ih =>
      rw [replaceAll_keep fun hfront => h hfront.isInfix,ih fun hrest => h (infix_cons hrest)]
  induction patterns with
  | nil => rfl
  | cons pattern patterns ih =>
    obtain ⟨hpat,hrest⟩ := forall_mem_cons.mp h
    rw [replaceEach,foldl_cons,hone pattern text hpat]
    exact ih hrest

theorem replaceAll_match (hne : u≠[]) (h : u.map look=pattern) :
    replaceAll look pattern mask (u++rest)=mask++replaceAll look pattern mask rest := by
  obtain ⟨cell,tail,rfl⟩ := exists_cons_of_ne_nil hne
  have hbegins : pattern.isPrefixOf ((cell::(tail++rest)).map look)=true := by
    rw [ isPrefixOf_iff_prefix,← h]
    exact (prefix_append (cell::tail) rest).map look
  have hlen : pattern.length-1=tail.length := by rw [← h]; simp
  refine (if_pos hbegins).trans ?_
  rw [scan_skip,hlen]
  exact congrArg (mask++replaceAll look pattern mask ·) (drop_left)

/-- Induction along the scan: past an occurrence, or past a cell that is kept. -/
@[elab_as_elim]
theorem replaceAll_induction (look : β → α) {motive : List β → Prop} (hpat : pattern≠[]) (text : List β)
    (nil : motive [])
    (hit : ∀ u rest, u≠[] → u.map look=pattern → motive rest → motive (u++rest))
    (keep : ∀ cell rest, ¬pattern <+: (cell::rest).map look → motive rest →
      motive (cell::rest)) : motive text := by
  induction hn : text.length using Nat.strong_induction_on generalizing text with
  | _ n ih =>
    cases text with
    | nil => exact nil
    | cons cell rest =>
      by_cases h : pattern <+: (cell::rest).map look
      · obtain ⟨back,hback⟩ := h
        obtain ⟨u,tail,htext,hu,-⟩ := map_eq_append_iff.mp hback.symm
        have hne : u≠[] := by
          rintro rfl
          exact hpat hu.symm
        have hshort : tail.length<n := by
          have := length_pos_of_ne_nil hne
          rw [← hn,htext,length_append]
          omega
        rw [htext]
        exact hit u tail hne hu (ih _ hshort tail rfl)
      · exact keep cell rest h (ih rest.length (by simp [← hn]) rest rfl)

theorem mem_replaceAll {c : β} (hpat : pattern≠[])
    (h : c∈replaceAll look pattern mask text) : c∈mask ∨ c∈text := by
  induction text using replaceAll_induction look hpat with
  | nil => cases h
  | hit u rest hne hu ih =>
    rw [replaceAll_match hne hu,mem_append] at h
    rcases h with h | h
    · exact .inl h
    · exact (ih h).imp_right (mem_append_right u)
  | keep cell rest hkeep ih =>
    rw [replaceAll_keep hkeep,mem_cons] at h
    rcases h with rfl | h
    · exact .inr mem_cons_self
    · exact (ih h).imp_right (mem_cons_of_mem cell)

theorem infix_of_append {front : List β} (hne : u≠[]) (hu : ∀ c∈u, c∉front)
    (h : u <:+: front++rest) : u <:+: rest := by
  induction front with
  | nil => exact h
  | cons first front ih =>
    rw [cons_append,infix_cons_iff] at h
    rcases h with h | h
    · obtain rfl | ⟨tail,rfl,-⟩ := prefix_cons_iff.mp h
      · exact absurd rfl hne
      · exact absurd mem_cons_self (hu first mem_cons_self)
    · exact ih (fun c hc hfront => hu c hc (mem_cons_of_mem first hfront)) h

theorem prefix_of_replaceAll (hpat : pattern≠[]) (hmask : mask≠[])
    (hu : ∀ c∈u, c∉mask) (h : u <+: replaceAll look pattern mask text) : u <+: text := by
  induction text using replaceAll_induction look hpat generalizing u with
  | nil => exact h
  | hit v rest hne hv ih =>
    rw [replaceAll_match hne hv] at h
    obtain ⟨first,mask,rfl⟩ := exists_cons_of_ne_nil hmask
    obtain rfl | ⟨tail,rfl,-⟩ := prefix_cons_iff.mp h
    · exact nil_prefix
    · exact absurd mem_cons_self (hu first mem_cons_self)
  | keep cell rest hkeep ih =>
    rw [replaceAll_keep hkeep] at h
    obtain rfl | ⟨tail,rfl,htail⟩ := prefix_cons_iff.mp h
    · exact nil_prefix
    · exact cons_prefix_cons.mpr ⟨rfl,ih (fun c hc => hu c (mem_cons_of_mem cell hc)) htail⟩

/-- A foreign run of the result was in the text, and it is no occurrence. -/
theorem infix_of_replaceAll (hpat : pattern≠[]) (hmask : mask≠[]) (hne : u≠[])
    (hu : ∀ c∈u, c∉mask) (h : u <:+: replaceAll look pattern mask text) :
    u <:+: text ∧ u.map look≠pattern := by
  induction text using replaceAll_induction look hpat with
  | nil => exact absurd (infix_nil.mp h) hne
  | hit v rest hv hlook ih =>
    rw [replaceAll_match hv hlook] at h
    obtain ⟨hrest,hother⟩ := ih (infix_of_append hne hu h)
    exact ⟨hrest.trans (suffix_append v rest).isInfix,hother⟩
  | keep cell rest hkeep ih =>
    rw [replaceAll_keep hkeep,infix_cons_iff] at h
    rcases h with h | h
    · have hbegins : u <+: cell::rest := by
        rw [← replaceAll_keep hkeep] at h
        exact prefix_of_replaceAll hpat hmask hu h
      exact ⟨hbegins.isInfix,fun heq => hkeep (heq ▸ hbegins.map look)⟩
    · exact ⟨infix_cons (ih h).1,(ih h).2⟩

section

variable (hpats : ∀ p ∈ patterns, p ≠ [])

include hpats

theorem mem_replaceEach {c : β}
    (h : c∈replaceEach look patterns mask text) : c∈mask ∨ c∈text := by
  induction patterns generalizing text with
  | nil => exact .inr h
  | cons pattern patterns ih =>
    rcases ih (fun p hp => hpats p (mem_cons_of_mem pattern hp)) h with hmask | hstep
    · exact .inl hmask
    · exact mem_replaceAll (hpats pattern mem_cons_self) hstep

/-- A foreign run of the result of all replacements was in the text. -/
theorem infix_of_replaceEach (hmask : mask≠[]) (hne : u≠[]) (hu : ∀ c∈u, c∉mask)
    (h : u <:+: replaceEach look patterns mask text) : u <:+: text ∧ u.map look∉patterns := by
  induction patterns generalizing text with
  | nil => exact ⟨h,not_mem_nil⟩
  | cons pattern patterns ih =>
    have hpat := hpats pattern mem_cons_self
    obtain ⟨hstep,hlater⟩ := ih (fun p hp => hpats p (mem_cons_of_mem pattern hp)) h
    obtain ⟨htext,hthis⟩ := infix_of_replaceAll hpat hmask hne hu hstep
    exact ⟨htext,by simp [hthis,hlater]⟩

/-- A pattern that shares nothing with the mask occurs nowhere in the result. -/
theorem not_infix_replaceEach
    (hmask : mask≠[]) (hmem : pattern∈patterns) (hclear : ∀ c∈mask, look c∉pattern) :
    ¬pattern <:+: (replaceEach look patterns mask text).map look := by
  rintro ⟨front,back,h⟩
  obtain ⟨first,tail,hsplit,hfst,-⟩ := map_eq_append_iff.mp h.symm
  obtain ⟨before,u,rfl,-,hu⟩ := map_eq_append_iff.mp hfst
  have hinfix : u <:+: replaceEach look patterns mask text := ⟨before,tail,hsplit.symm⟩
  have hne : u≠[] := by
    rintro rfl
    exact hpats pattern hmem hu.symm
  have hforeign (c : β) (hc : c∈u) : c∉mask := fun hmask =>
    hclear c hmask (hu ▸ mem_map_of_mem hc)
  exact (infix_of_replaceEach hpats hmask hne hforeign hinfix).2 (hu ▸ hmem)

end

section Nested

/-! ### Occurrences that do not cross

When of two occurrences that share a cell one lies inside the other, replacing the
longest patterns first leaves no cell of an occurrence. -/

variable {patterns : List (List α)} {start : List β}

/-- Cells outside the mask stand in the text once. -/
def Once (mask text : List β) : Prop := text.Pairwise fun a b => a = b → a ∈ mask

theorem once_replaceAll (hpat : pattern≠[]) (h : Once mask text) :
    Once mask (replaceAll look pattern mask text) := by
  induction text using replaceAll_induction look hpat with
  | nil => exact h
  | hit u rest hne hu ih =>
    rw [replaceAll_match hne hu]
    refine pairwise_append.mpr ⟨?_,ih (pairwise_append.mp h).2.1,fun a ha _ _ _ => ha⟩
    exact pairwise_iff_forall_sublist.mpr fun hsub _ => hsub.subset mem_cons_self
  | keep cell rest hkeep ih =>
    rw [replaceAll_keep hkeep]
    obtain ⟨hcell,hrest⟩ := pairwise_cons.mp h
    refine pairwise_cons.mpr ⟨fun b hb heq => ?_,ih hrest⟩
    rcases mem_replaceAll hpat hb with hmask | hmem
    · exact heq ▸ hmask
    · exact hcell b hmem heq

/-- What no occurrence touches stays at the start of the text. -/
theorem prefix_replaceAll (hpat : pattern≠[])
    (happart : ∀ v, v <:+: text → v.map look=pattern → ∀ c∈u, c∉v) (h : u <+: text) :
    u <+: replaceAll look pattern mask text := by
  induction text using replaceAll_induction look hpat generalizing u with
  | nil => exact h
  | hit v rest hne hv ih =>
    obtain ⟨first,tail,rfl⟩ := exists_cons_of_ne_nil hne
    obtain rfl | ⟨more,rfl,-⟩ := prefix_cons_iff.mp h
    · exact nil_prefix
    · exact absurd mem_cons_self (happart _ (prefix_append _ rest).isInfix hv first
        mem_cons_self)
  | keep cell rest hkeep ih =>
    rw [replaceAll_keep hkeep]
    obtain rfl | ⟨more,rfl,hmore⟩ := prefix_cons_iff.mp h
    · exact nil_prefix
    · exact cons_prefix_cons.mpr ⟨rfl,ih (fun v hv hlook c hc =>
        happart v (infix_cons hv) hlook c (mem_cons_of_mem cell hc)) hmore⟩

/-- A run that lies inside every occurrence it meets is kept whole or goes whole. -/
theorem kept_or_gone (hpat : pattern≠[]) (honce : Once mask text) (hne : u≠[])
    (hforeign : ∀ c∈u, c∉mask)
    (hinside : ∀ v, v <:+: text → v.map look=pattern → ∀ c∈u, c∈v → u ⊆ v)
    (h : u <:+: text) : u <:+: replaceAll look pattern mask text ∨
      ∀ c∈u, c∉replaceAll look pattern mask text := by
  induction text using replaceAll_induction look hpat with
  | nil => exact .inl h
  | hit v rest hv hlook ih =>
    rw [replaceAll_match hv hlook]
    obtain ⟨-,hrest,hcross⟩ := pairwise_append.mp honce
    by_cases hshare : ∃ c∈u, c∈v
    · obtain ⟨c,hc,hcv⟩ := hshare
      have hsub := hinside v (prefix_append v rest).isInfix hlook c hc hcv
      refine .inr fun d hd hmem => ?_
      rcases mem_append.mp hmem with hmask | hmem
      · exact hforeign d hd hmask
      · rcases mem_replaceAll hpat hmem with hmask | hmem
        · exact hforeign d hd hmask
        · exact hforeign d hd (hcross d (hsub hd) d hmem rfl)
    · have hapart : ∀ c∈u, c∉v := fun c hc hcv => hshare ⟨c,hc,hcv⟩
      rcases ih hrest (fun w hw => hinside w (hw.trans (suffix_append v rest).isInfix))
        (infix_of_append hne hapart h) with hkept | hgone
      · exact .inl (hkept.trans (suffix_append mask _).isInfix)
      · refine .inr fun c hc hmem => ?_
        rcases mem_append.mp hmem with hmask | hmem
        · exact hforeign c hc hmask
        · exact hgone c hc hmem
  | keep cell rest hkeep ih =>
    rw [replaceAll_keep hkeep]
    obtain ⟨hcell,hrest⟩ := pairwise_cons.mp honce
    rcases infix_cons_iff.mp h with hfront | hback
    · obtain rfl | ⟨more,rfl,hmore⟩ := prefix_cons_iff.mp hfront
      · exact absurd rfl hne
      · refine .inl (List.IsPrefix.isInfix (cons_prefix_cons.mpr ⟨rfl,?_⟩))
        refine prefix_replaceAll hpat (fun v hv hlook c hc hcv => ?_) hmore
        have hsub := hinside v (infix_cons hv) hlook c (mem_cons_of_mem cell hc) hcv
        exact hforeign cell mem_cons_self (hcell cell (hv.subset (hsub mem_cons_self)) rfl)
    · rcases ih hrest (fun v hv => hinside v (infix_cons hv)) hback with hkept | hgone
      · exact .inl (infix_cons hkept)
      · refine .inr fun c hc hmem => ?_
        rcases mem_cons.mp hmem with rfl | hmem
        · exact hforeign c hc (hcell c (hback.subset hc) rfl)
        · exact hgone c hc hmem

/-- An occurrence of a pattern. -/
def Occurs (look : β → α) (patterns : List (List α)) (text u : List β) : Prop :=
  u <:+: text ∧ u.map look ∈ patterns

/-- Of two occurrences that share a cell, one lies inside the other. -/
def Nested (look : β → α) (patterns : List (List α)) (text : List β) : Prop :=
  ∀ u v, Occurs look patterns text u → Occurs look patterns text v → ∀ c ∈ u, c ∈ v → u ⊆ v ∨ v ⊆ u

/-- What holds of the text while the patterns are replaced: every occurrence of the start is
whole or gone. -/
structure Replacing (look : β → α) (patterns done : List (List α)) (mask start text : List β) :
    Prop where
  once : Once mask text
  old : ∀ u, u ≠ [] → (∀ c ∈ u, c ∉ mask) → u <:+: text → u <:+: start
  whole : ∀ u, Occurs look patterns start u → u <:+: text ∨ ∀ c ∈ u, c ∉ text
  gone : ∀ u, u <:+: start → u.map look ∈ done → ∀ c ∈ u, c ∉ text

/-- One replacement. -/
theorem Replacing.step {done later : List (List α)}
    (h : Replacing look patterns done mask start text) (hpats : patterns=done++pattern::later)
    (hsorted : patterns.Pairwise fun p q => q.length≤p.length)
    (hfilled : ∀ p∈patterns, p≠[]) (hmask : mask≠[])
    (hclear : ∀ p∈patterns, ∀ c∈mask, look c∉p) (hnested : Nested look patterns start) :
    Replacing look patterns (done++[pattern]) mask start (replaceAll look pattern mask text) := by
  have hmem : pattern∈patterns := by simp [hpats]
  have hpat := hfilled pattern hmem
  have hforeign {u : List β} (hu : u.map look∈patterns) (c : β) (hc : c∈u) : c∉mask :=
    fun hcmask => hclear _ hu c hcmask (mem_map_of_mem hc)
  have hlen {u : List β} (hu : u.map look∈patterns) : u≠[] := by
    rintro rfl
    exact hfilled _ hu rfl
  have hwhole (u : List β) (hu : Occurs look patterns start u) :
      u <:+: replaceAll look pattern mask text ∨ ∀ c∈u, c∉replaceAll look pattern mask text := by
    rcases h.whole u hu with hkept | hgone
    · refine kept_or_gone hpat h.once (hlen hu.2) (hforeign hu.2) (fun v hv hlook c hc hcv => ?_)
        hkept
      have hvmem : v.map look∈patterns := hlook ▸ hmem
      have hvstart := h.old v (hlen hvmem) (hforeign hvmem) hv
      rcases hnested u v hu ⟨hvstart,hvmem⟩ c hc hcv with hsub | hsub
      · exact hsub
      -- The occurrence is not longer than the pattern: longer ones are gone by now.
      · have hnodup : v.Nodup := by
          refine (List.Pairwise.sublist hv.sublist h.once).imp_of_mem fun ha _ hab heq => ?_
          exact hforeign hvmem _ ha (hab heq)
        have hshort : u.length≤v.length := by
          have hcases : u.map look∈done ∨ u.map look∈pattern::later := by
            rw [← mem_append,← hpats]
            exact hu.2
          rcases hcases with hdone | hlater
          · exact absurd (hkept.subset hc) (h.gone u hu.1 hdone c hc)
          · have hv' : v.length=pattern.length := by rw [← hlook,length_map]
            rw [hv',← length_map look]
            rw [hpats] at hsorted
            rcases mem_cons.mp hlater with heq | hlater
            · rw [heq]
            · exact (pairwise_cons.mp (pairwise_append.mp hsorted).2.1).1 _ hlater
        exact ((subperm_of_subset hnodup hsub).perm_of_length_le hshort).symm.subset
    · refine .inr fun c hc hmem => ?_
      rcases mem_replaceAll hpat hmem with hcmask | hmem
      · exact hforeign hu.2 c hc hcmask
      · exact hgone c hc hmem
  refine ⟨once_replaceAll hpat h.once,fun u hne hu hinfix => ?_,hwhole,fun u hu hdone => ?_⟩
  · exact h.old u hne hu (infix_of_replaceAll hpat hmask hne hu hinfix).1
  · have hall : u.map look∈patterns := by
      rw [hpats]
      exact mem_append.mpr ((mem_append.mp hdone).imp_right fun h =>
        mem_cons.mpr (.inl (mem_singleton.mp h)))
    rcases mem_append.mp hdone with hdone | heq
    · intro c hc hmem
      rcases mem_replaceAll hpat hmem with hcmask | hmem
      · exact hforeign hall c hc hcmask
      · exact h.gone u hu hdone c hc hmem
    · refine (hwhole u ⟨hu,hall⟩).resolve_left fun hkept => ?_
      exact (infix_of_replaceAll hpat hmask (hlen hall) (hforeign hall) hkept).2
        (mem_singleton.mp heq)

section

variable (hsorted : patterns.Pairwise fun p q => q.length ≤ p.length)
  (hfilled : ∀ p ∈ patterns, p ≠ []) (hmask : mask ≠ []) (honce : Once mask text)
  (hnested : Nested look patterns text) (hu : Occurs look patterns text u) {c : β} (hc : c ∈ u)

include hsorted hfilled hmask honce hnested hu hc

theorem gone_of_clear (hclear : ∀ p∈patterns, ∀ c∈mask, look c∉p) :
    c∉replaceEach look patterns mask text := by
  have hrun (done later : List (List α)) (current : List β) (hall : patterns=done++later)
      (h : Replacing look patterns done mask text current) :
      Replacing look patterns patterns mask text (replaceEach look later mask current) := by
    induction later generalizing done current with
    | nil =>
      obtain rfl : patterns=done := by simpa using hall
      exact h
    | cons pattern later ih =>
      exact ih (done++[pattern]) _ (by simp [hall]) (h.step hall hsorted hfilled hmask hclear hnested)
  have hstart : Replacing look patterns [] mask text text :=
    ⟨honce,fun _ _ _ h => h,fun _ h => .inl h.1,nofun⟩
  exact (hrun [] patterns text rfl hstart).gone u hu.1 hu.2 c hc

/-- No cell of an occurrence is left, where no pattern that comes after one in the text meets the
mask. -/
theorem gone_of_nested (hclear : ∀ v, Occurs look patterns text v → ∀ p∈patterns,
      p.length≤v.length → ∀ c∈mask, look c∉p) :
    c∉replaceEach look patterns mask text := by
  induction patterns with
  | nil => cases hu.2
  | cons first rest ih =>
    by_cases hfst : first <:+: text.map look
    · -- the longest pattern is in the text, so none meets the mask
      obtain ⟨_,back,hsplit⟩ := hfst
      obtain ⟨_,after,htext,hfront,-⟩ := map_eq_append_iff.mp hsplit.symm
      obtain ⟨front,v,rfl,-,rfl⟩ := map_eq_append_iff.mp hfront
      refine gone_of_clear hsorted hfilled hmask honce hnested hu hc fun p hp => ?_
      refine hclear v ⟨⟨front,after,htext.symm⟩,mem_cons_self⟩ p hp ?_
      rw [← length_map look]
      rcases mem_cons.mp hp with rfl | hp
      · exact le_rfl
      · exact (pairwise_cons.mp hsorted).1 p hp
    · have hrest : u.map look∈rest := (mem_cons.mp hu.2).resolve_left fun heq =>
        hfst (heq ▸ hu.1.map look)
      have hkept : replaceEach look [first] mask text=text :=
        replaceEach_eq_self (forall_mem_singleton.mpr hfst)
      change c∉replaceEach look rest mask (replaceEach look [first] mask text)
      rw [hkept]
      have hmore (v : List β) (h : Occurs look rest text v) : Occurs look (first::rest) text v :=
        ⟨h.1,mem_cons_of_mem _ h.2⟩
      exact ih (pairwise_cons.mp hsorted).2 (fun p hp => hfilled p (mem_cons_of_mem _ hp))
        (fun u v hu hv => hnested u v (hmore u hu) (hmore v hv)) ⟨hu.1,hrest⟩
        fun v hv p hp => hclear v (hmore v hv) p (mem_cons_of_mem _ hp)

end

end Nested

end PiGwPanel.TextReplacement
