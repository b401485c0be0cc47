import PiGwPanel.FeedMerge

/-!
# What a merge makes of every row

The two loops of `reconcile`, said row by row: a stored row is rewritten by the
entry of its identity, or kept, flagged or deleted when the feed has none, and
the entries without a stored row are added behind. All later statements about a
merge are read from this form.
-/

namespace PiGwPanel.FeedMerge

open NodeSecurity KeyedRows StableFirstMatch List

section MergeRows

/-! ### What the merge makes of the rows -/

variable (call : MergeCall)

/-- The entry a row is matched with. -/
def MergeCall.entryFor (items : List (RawNode × ℕ)) (row : RawNode) : Option (RawNode × ℕ) :=
  items.find? fun item => rowIdentity row = (some call.subId, identity item.1)

/-- A row after the entry it is matched with. -/
def MergeCall.written (row : RawNode) (item : RawNode × ℕ) : RawNode :=
  if call.refuses row item then row else call.refreshedRow row item.1 item.2

/-- A row after the merge. -/
def MergeCall.mergedRow (items : List (RawNode × ℕ)) (row : RawNode) : RawNode :=
  match call.entryFor items row with
  | none => row
  | some item => call.written row item

/-- The rows the merge adds. -/
def MergeCall.newRows (rows : List RawNode) : ℕ → List (RawNode × ℕ) → List RawNode
  | _, [] => []
  | lastId, item :: rest =>
    match call.stored rows item.1 with
    | some _ => MergeCall.newRows rows lastId rest
    | none => call.newRow (lastId + 1) item.1 item.2 :: MergeCall.newRows rows (lastId + 1) rest

/-- The merge reports the active node as changed on account of this row. -/
def MergeCall.changed (items : List (RawNode × ℕ)) (row : RawNode) : Bool :=
  match call.entryFor items row with
  | none => false
  | some item => call.isActive row && !call.refuses row item &&
      configDiffers row (call.refreshedRow row item.1 item.2)

variable {call}

theorem entryFor_cons (item : RawNode × ℕ) (rest : List (RawNode × ℕ)) (row : RawNode) :
    call.entryFor (item::rest) row =
      if rowIdentity row=(some call.subId, identity item.1) then some item
      else call.entryFor rest row := by
  unfold MergeCall.entryFor
  by_cases h : rowIdentity row=(some call.subId, identity item.1)
  · simp [h]
  · simp [h]

variable {lastId : ℕ} {row cur entry : RawNode} {state : MergeState} {item : RawNode × ℕ}
variable {rows : List RawNode} {rest : List (RawNode × ℕ)} {items : List (RawNode × ℕ)}

theorem identity_of_entryFor (h : call.entryFor items row=some item) :
    item∈items ∧ rowIdentity row=(some call.subId, identity item.1) :=
  ⟨mem_of_find?_eq_some h,by simpa using find?_some h⟩

theorem entryFor_eq_none (h : (rowIdentity row).2∉items.map fun item => identity item.1) :
    call.entryFor items row=none := by
  unfold MergeCall.entryFor
  rw [find?_eq_none]
  intro item hitem hrow
  refine h (mem_map.mpr ⟨item,hitem,?_⟩)
  rw [of_decide_eq_true hrow]

@[simp] theorem refreshedRow_id (cur entry : RawNode) (position : ℕ) :
    (call.refreshedRow cur entry position).id=cur.id := rfl

theorem rowIdentity_refreshedRow (position : ℕ)
    (h : rowIdentity cur=(some call.subId, identity entry)) :
    rowIdentity (call.refreshedRow cur entry position)=rowIdentity cur := h.symm

@[simp] theorem written_id (row : RawNode) (item : RawNode × ℕ) :
    (call.written row item).id=row.id := by
  unfold MergeCall.written
  split <;> rfl

theorem rowIdentity_written (h : rowIdentity row=(some call.subId, identity item.1)) :
    rowIdentity (call.written row item)=rowIdentity row := by
  unfold MergeCall.written
  split
  · rfl
  · exact rowIdentity_refreshedRow item.2 h

theorem mergedRow_keeps (items : List (RawNode × ℕ)) (row : RawNode) :
    (call.mergedRow items row).id=row.id ∧
      rowIdentity (call.mergedRow items row)=rowIdentity row := by
  unfold MergeCall.mergedRow
  split
  · exact ⟨rfl,rfl⟩
  next item hitem =>
    exact ⟨written_id row item,rowIdentity_written (identity_of_entryFor hitem).2⟩

theorem map_id_mergedRow (items : List (RawNode × ℕ)) (rows : List RawNode) :
    (rows.map (call.mergedRow items)).map RawNode.id=rows.map RawNode.id := by
  rw [map_map]
  exact map_congr_left fun row _ => (mergedRow_keeps items row).1

theorem map_rowIdentity_mergedRow (items : List (RawNode × ℕ)) (rows : List RawNode) :
    (rows.map (call.mergedRow items)).map rowIdentity=rows.map rowIdentity := by
  rw [map_map]
  exact map_congr_left fun row _ => (mergedRow_keeps items row).2

theorem unmatched_row (h : (rowIdentity row).2∉items.map fun item => identity item.1) :
    call.mergedRow items row=row ∧ call.changed items row=false := by
  have hnone : call.entryFor items row=none := entryFor_eq_none h
  simp only [MergeCall.mergedRow,MergeCall.changed,hnone,and_self]

/-- The first entry rewrites the row with its identity. -/
theorem mergedRow_of_eq (h : rowIdentity row=(some call.subId, identity item.1)) :
    call.mergedRow (item::rest) row=call.written row item := by
  simp only [MergeCall.mergedRow,entryFor_cons,if_pos h]

theorem mergedRow_of_ne (h : rowIdentity row≠(some call.subId, identity item.1)) :
    call.mergedRow (item::rest) row=call.mergedRow rest row := by
  simp only [MergeCall.mergedRow,entryFor_cons,if_neg h]

theorem mergedRow_cons (h : identity item.1∉rest.map fun other => identity other.1)
    (row : RawNode) :
    call.mergedRow rest (call.mergedRow [item] row)=call.mergedRow (item::rest) row := by
  by_cases hrow : rowIdentity row=(some call.subId, identity item.1)
  · rw [mergedRow_of_eq hrow,mergedRow_of_eq hrow]
    apply (unmatched_row _).1
    rw [rowIdentity_written hrow,hrow]
    exact h
  · rw [mergedRow_of_ne hrow,mergedRow_of_ne hrow]
    rfl

theorem stored_eq_some_iff (h : (rows.map rowIdentity).Nodup) : call.stored rows entry=some row ↔
      row∈rows ∧ rowIdentity row=(some call.subId, identity entry) :=
  find?_key_eq_some_iff h

theorem stored_eq_none_iff : call.stored rows entry=none ↔
      (some call.subId, identity entry)∉rows.map rowIdentity := by
  unfold MergeCall.stored
  simp [mem_map]

/-- A row after one entry is the row itself unless it is the entry's stored node. -/
theorem mergedRow_singleton_of_ne (h : rowIdentity row≠(some call.subId, identity item.1)) :
    call.mergedRow [item] row=row := mergedRow_of_ne h

theorem mergeEntry_lastId (h : call.stored state.rows item.1=some cur) :
    (call.mergeEntry state item).lastId=state.lastId := by
  unfold MergeCall.mergeEntry
  rw [h]
  dsimp only
  split <;> rfl

theorem changed_cons (h : identity item.1∉rest.map fun other => identity other.1) (row : RawNode) :
    call.changed (item::rest) row =
      (call.changed [item] row || call.changed rest (call.mergedRow [item] row)) := by
  by_cases hrow : rowIdentity row=(some call.subId, identity item.1)
  · have hrest : call.changed rest (call.mergedRow [item] row)=false := by
      apply (unmatched_row _).2
      rw [(mergedRow_keeps [item] row).2,hrow]
      exact h
    rw [hrest,Bool.or_false]
    simp only [MergeCall.changed,entryFor_cons,if_pos hrow]
  · rw [mergedRow_singleton_of_ne hrow]
    simp only [MergeCall.changed,entryFor_cons,if_neg hrow]
    rfl

/-- Which rows are added depends on the identities in the table only. -/
theorem newRows_congr {rows' : List RawNode} (lastId : ℕ)
    (h : ∀ item∈items, (some call.subId, identity item.1)∈rows.map rowIdentity ↔
      (some call.subId, identity item.1)∈rows'.map rowIdentity) :
    call.newRows rows lastId items=call.newRows rows' lastId items := by
  induction items generalizing lastId with
  | nil => rfl
  | cons item rest ih =>
    have hrest := fun n => ih n fun other hother => h other (mem_cons_of_mem _ hother)
    have hitem := not_congr (h item mem_cons_self)
    rw [← stored_eq_none_iff,← stored_eq_none_iff] at hitem
    unfold MergeCall.newRows
    cases hstored : call.stored rows item.1 with
    | none => simp only [hitem.mp hstored,hrest]
    | some cur =>
      obtain ⟨other,hother⟩ := Option.ne_none_iff_exists'.mp
        fun hnone => absurd (hitem.mpr hnone) (by simp [hstored])
      simp only [hother,hrest]

/-- An added row stands under its entry's identity and under an id that was not in use. -/
theorem mem_newRows (h : row∈call.newRows rows lastId items) :
    lastId < row.id ∧ ∃ item∈items, (some call.subId, identity item.1)∉rows.map rowIdentity ∧
      row=call.newRow row.id item.1 item.2 := by
  induction items generalizing lastId with
  | nil => cases h
  | cons item rest ih =>
    unfold MergeCall.newRows at h
    cases hstored : call.stored rows item.1 with
    | some cur =>
      rw [hstored] at h
      obtain ⟨hid,other,hother,hnew⟩ := ih h
      exact ⟨hid,other,mem_cons_of_mem _ hother,hnew⟩
    | none =>
      rw [hstored] at h
      rcases mem_cons.mp h with rfl | h
      · exact ⟨Nat.lt_succ_self _,item,mem_cons_self,stored_eq_none_iff.mp hstored,rfl⟩
      · obtain ⟨hid,other,hother,hnew⟩ := ih h
        exact ⟨Nat.lt_of_succ_lt hid,other,mem_cons_of_mem _ hother,hnew⟩

/-- An entry under an identity the table does not have adds a row. -/
theorem exists_mem_newRows (lastId : ℕ) (hitem : item∈items)
    (hnew : (some call.subId, identity item.1)∉rows.map rowIdentity) :
    ∃ row∈call.newRows rows lastId items, rowIdentity row=(some call.subId, identity item.1) := by
  induction items generalizing lastId with
  | nil => cases hitem
  | cons first rest ih =>
    unfold MergeCall.newRows
    cases hstored : call.stored rows first.1 with
    | some cur =>
      have hrest : item∈rest := by
        rcases mem_cons.mp hitem with rfl | hrest
        · rw [stored_eq_none_iff.mpr hnew] at hstored
          cases hstored
        · exact hrest
      exact ih lastId hrest
    | none =>
      rcases mem_cons.mp hitem with rfl | hrest
      · exact ⟨_,mem_cons_self,rfl⟩
      · obtain ⟨row,hrow,hident⟩ := ih (lastId+1) hrest
        exact ⟨row,mem_cons_of_mem _ hrow,hident⟩

/-- What the merge loop leaves, said row by row. -/
structure Merged (call : MergeCall) (items : List (RawNode × ℕ)) (state out : MergeState) :
    Prop where
  legal : Legal out.rows out.lastId
  rows : out.rows = state.rows.map (call.mergedRow items) ++
    call.newRows state.rows state.lastId items
  changed : out.activeChanged = (state.activeChanged || state.rows.any (call.changed items))

section

variable (h : Legal rows lastId)

include h

/-- Rewriting the stored node of an entry is rewriting the row with its identity. -/
theorem replaceRow_refreshedRow (hcur : call.stored rows item.1=some cur)
    (hkept : call.refuses cur item=false) :
    replaceRow RawNode.id rows (call.refreshedRow cur item.1 item.2) =
      rows.map (call.mergedRow [item]) := by
  obtain ⟨hmem,hident⟩ := (stored_eq_some_iff h.identities).mp hcur
  refine map_congr_left fun row hrow => ?_
  by_cases hid : row.id=cur.id
  · obtain rfl := inj_on_of_nodup_map h.ids hrow hmem hid
    rw [if_pos (refreshedRow_id row item.1 item.2).symm]
    rw [mergedRow_of_eq hident,MergeCall.written,hkept]
    rfl
  · have hne : rowIdentity row≠(some call.subId, identity item.1) := fun hrowIdentity =>
      hid (by rw [inj_on_of_nodup_map h.identities hrow hmem (hrowIdentity.trans hident.symm)])
    rw [refreshedRow_id,if_neg hid,mergedRow_singleton_of_ne hne]

theorem map_mergedRow_refused (hcur : call.stored rows item.1=some cur)
    (hrefused : call.refuses cur item=true) : rows.map (call.mergedRow [item])=rows := by
  obtain ⟨hmem,hident⟩ := (stored_eq_some_iff h.identities).mp hcur
  refine (map_congr_left fun row hrow => ?_).trans (map_id rows)
  by_cases hrowIdentity : rowIdentity row=(some call.subId, identity item.1)
  · obtain rfl := inj_on_of_nodup_map h.identities hrow hmem (hrowIdentity.trans hident.symm)
    rw [mergedRow_of_eq hident,MergeCall.written,hrefused]
    rfl
  · exact mergedRow_singleton_of_ne hrowIdentity

theorem Legal.mergedRows (hbuilt : ∀ item∈items, item.1.normalize=item.1) :
    Legal (rows.map (call.mergedRow items)) lastId where
  ids := by
    rw [map_id_mergedRow]
    exact h.ids
  idsUsed := by
    intro row hrow
    obtain ⟨old,hold,rfl⟩ := mem_map.mp hrow
    rw [(mergedRow_keeps items old).1]
    exact h.idsUsed old hold
  identities := by
    rw [map_rowIdentity_mergedRow]
    exact h.identities
  built := by
    intro row hrow
    obtain ⟨old,hold,rfl⟩ := mem_map.mp hrow
    unfold MergeCall.mergedRow
    split
    · exact h.built old hold
    next item hitem =>
      unfold MergeCall.written
      split
      · exact h.built old hold
      · exact built_refreshedRow (hbuilt item (identity_of_entryFor hitem).1) old item.2

theorem Legal.append (hid : row.id=lastId+1)
    (hident : rowIdentity row∉rows.map rowIdentity) (hbuilt : row.normalize=row) :
    Legal (rows++[row]) (lastId+1) where
  ids := by
    rw [map_append,map_singleton]
    refine h.ids.append (nodup_singleton _) (disjoint_singleton.mpr ?_)
    intro hused
    obtain ⟨old,hold,heq⟩ := mem_map.mp hused
    have hle := h.idsUsed old hold
    omega
  idsUsed := by
    intro other hother
    rcases mem_append.mp hother with hold | hnew
    · exact Nat.le_succ_of_le (h.idsUsed other hold)
    · rw [mem_singleton.mp hnew,hid]
  identities := by
    rw [map_append,map_singleton]
    exact h.identities.append (nodup_singleton _) (disjoint_singleton.mpr hident)
  built := by
    intro other hother
    rcases mem_append.mp hother with hold | hnew
    · exact h.built other hold
    · rw [mem_singleton.mp hnew]
      exact hbuilt

theorem any_changed_singleton (item : RawNode × ℕ) : rows.any (call.changed [item]) =
      ((call.stored rows item.1).map (call.changed [item])).getD false := by
  have hmatched {row : RawNode} (hrow : call.changed [item] row=true) :
      rowIdentity row=(some call.subId, identity item.1) := by
    by_contra hne
    simp only [MergeCall.changed,entryFor_cons,if_neg hne] at hrow
    cases hrow
  cases hstored : call.stored rows item.1 with
  | none =>
    rw [Option.map_none,Option.getD_none,any_eq_false]
    intro row hrow hchg
    exact stored_eq_none_iff.mp hstored (mem_map.mpr ⟨row,hrow,hmatched hchg⟩)
  | some cur =>
    obtain ⟨hmem,hident⟩ := (stored_eq_some_iff h.identities).mp hstored
    rw [Option.map_some,Option.getD_some,Bool.eq_iff_iff,any_eq_true]
    constructor
    · rintro ⟨row,hrow,hchg⟩
      have heq := inj_on_of_nodup_map h.identities hrow hmem ((hmatched hchg).trans hident.symm)
      exact heq ▸ hchg
    · exact fun hchg => ⟨cur,hmem,hchg⟩

end

variable (h : Legal state.rows state.lastId)

include h

theorem mergeEntry_rows (item : RawNode × ℕ) :
    (call.mergeEntry state item).rows=state.rows.map (call.mergedRow [item]) ++
      call.newRows state.rows state.lastId [item] := by
  unfold MergeCall.mergeEntry
  cases hstored : call.stored state.rows item.1 with
  | none =>
    have hother : ∀ row∈state.rows, call.mergedRow [item] row=id row := by
      intro row hrow
      apply mergedRow_singleton_of_ne
      intro hident
      exact stored_eq_none_iff.mp hstored (mem_map.mpr ⟨row,hrow,hident⟩)
    rw [map_congr_left hother,map_id]
    simp only [MergeCall.newRows,hstored]
  | some cur =>
    simp only [MergeCall.newRows,hstored,append_nil]
    cases hrefused : call.refuses cur item with
    | true => exact (map_mergedRow_refused h hstored hrefused).symm
    | false => exact replaceRow_refreshedRow h hstored hrefused

/-- One round of the merge keeps the table legal: no write of it is one the table refuses. -/
theorem Legal.mergeEntry (hbuilt : item.1.normalize=item.1) :
    Legal (call.mergeEntry state item).rows (call.mergeEntry state item).lastId := by
  have hrows : (call.mergeEntry state item).rows=_ := mergeEntry_rows h item
  have hmerged : Legal (state.rows.map (call.mergedRow [item])) state.lastId :=
    h.mergedRows fun other hother => mem_singleton.mp hother ▸ hbuilt
  cases hstored : call.stored state.rows item.1 with
  | some cur =>
    rw [mergeEntry_lastId hstored,hrows]
    simpa only [MergeCall.newRows,hstored,append_nil] using hmerged
  | none =>
    unfold MergeCall.mergeEntry
    rw [hstored]
    exact h.append rfl (stored_eq_none_iff.mp hstored) (built_newRow hbuilt _ _)

theorem mergeEntry_changed (item : RawNode × ℕ) : (call.mergeEntry state item).activeChanged =
      (state.activeChanged || state.rows.any (call.changed [item])) := by
  rw [any_changed_singleton h]
  unfold MergeCall.mergeEntry
  cases hstored : call.stored state.rows item.1 with
  | none => simp
  | some cur =>
    have hident := ((stored_eq_some_iff h.identities).mp hstored).2
    cases hrefused : call.refuses cur item <;>
      simp [MergeCall.changed,entryFor_cons,hident,hrefused]

/-- The entries after the first see the identities of the table as the first one did. -/
theorem newRows_after (hnew : identity item.1∉rest.map fun other => identity other.1) :
    call.newRows state.rows state.lastId (item::rest) =
      call.newRows state.rows state.lastId [item] ++
        call.newRows (call.mergeEntry state item).rows (call.mergeEntry state item).lastId rest := by
  have hsame (lastId : ℕ) : call.newRows (call.mergeEntry state item).rows lastId rest =
      call.newRows state.rows lastId rest := by
    apply newRows_congr
    intro other hother
    have hne : identity other.1≠identity item.1 := fun heq =>
      hnew (mem_map.mpr ⟨other,hother,heq⟩)
    rw [mergeEntry_rows h,map_append,mem_append,map_rowIdentity_mergedRow]
    refine or_iff_left fun hadded => ?_
    obtain ⟨row,hrow,hident⟩ := mem_map.mp hadded
    obtain ⟨-,entry,hentry,-,heq⟩ := mem_newRows hrow
    rw [mem_singleton.mp hentry] at heq
    rw [heq] at hident
    exact hne (congrArg Prod.snd hident).symm
  rw [hsame]
  cases hstored : call.stored state.rows item.1 with
  | none => simp only [MergeCall.newRows,MergeCall.mergeEntry,hstored,singleton_append]
  | some cur => simp only [MergeCall.newRows,hstored,nil_append,mergeEntry_lastId hstored]

/-- Every stored row is rewritten by the entry of its identity, if
there is one, and an entry without a stored row adds one. -/
theorem merged_foldl (hbuilt : ∀ item∈items, item.1.normalize=item.1)
    (hitems : (items.map fun item => identity item.1).Nodup) :
    Merged call items state (items.foldl call.mergeEntry state) := by
  induction items generalizing state with
  | nil =>
    refine ⟨h,?_,?_⟩
    · have hid : ∀ row∈state.rows, call.mergedRow [] row=id row := fun _ _ => rfl
      rw [foldl_nil,map_congr_left hid,map_id]
      exact (append_nil _).symm
    · have hnone : state.rows.any (call.changed [])=false := by
        rw [any_eq_false]
        intro row _ hchg
        cases hchg
      rw [foldl_nil,hnone,Bool.or_false]
  | cons item rest ih =>
    obtain ⟨hnew,hrest⟩ := nodup_cons.mp hitems
    have hstep : Legal (call.mergeEntry state item).rows _ :=
      h.mergeEntry (hbuilt item mem_cons_self)
    have hall := ih hstep (fun other hother => hbuilt other (mem_cons_of_mem _ hother)) hrest
    -- the rows the first entry added are not touched by the others
    have hfresh : ∀ row∈call.newRows state.rows state.lastId [item],
        call.mergedRow rest row=row ∧ call.changed rest row=false := by
      intro row hrow
      obtain ⟨-,entry,hentry,-,heq⟩ := mem_newRows hrow
      rw [mem_singleton.mp hentry] at heq
      apply unmatched_row
      rw [heq]
      exact hnew
    refine ⟨hall.legal,?_,?_⟩
    · rw [foldl_cons,hall.rows,newRows_after h hnew,mergeEntry_rows h,map_append,
        map_map,append_assoc]
      congr 1
      · exact map_congr_left fun row _ => mergedRow_cons hnew row
      · rw [map_congr_left fun row hrow => (hfresh row hrow).1,map_id']
    · rw [foldl_cons,hall.changed,mergeEntry_changed h,mergeEntry_rows h,any_append, any_map]
      have hnone : (call.newRows state.rows state.lastId [item]).any (call.changed rest) =
          false := by
        rw [any_eq_false]
        intro row hrow
        rw [(hfresh row hrow).2]
        decide
      have hsplit : state.rows.any (call.changed (item::rest)) =
          (state.rows.any (call.changed [item]) ||
            state.rows.any (call.changed rest ∘ call.mergedRow [item])) := by
        rw [Bool.eq_iff_iff]
        simp only [Bool.or_eq_true,any_eq_true,changed_cons hnew,Function.comp_apply,
          ← exists_or,← and_or_left]
      rw [hnone,Bool.or_false,Bool.or_assoc,hsplit]

end MergeRows

variable {verdict : Option Verdict} {node : RawNode}

section SweepRows

/-! ### What the sweep makes of the rows -/

/-- What a verdict on a node makes of its row. -/
def actOn (verdict : Option Verdict) (row : RawNode) : Option RawNode :=
  match verdict with
  | none => some row
  | some .skip => some row
  | some .markStale => some { row with stale := true }
  | some .vanish => some { row with stale := true }
  | some .delete => none

variable (call : MergeCall) (shrink confirmed : Bool)

/-- A row after the sweep over the given nodes. -/
def MergeCall.sweptRow (existing : List RawNode) (row : RawNode) : Option RawNode :=
  match existing.find? fun node => node.id = row.id with
  | none => some row
  | some node => actOn (call.verdict shrink confirmed node) row

variable {call shrink confirmed}

theorem actOn_id {row after : RawNode} (h : actOn verdict row=some after) : after.id=row.id := by
  unfold actOn at h
  split at h <;> cases h <;> rfl

theorem sweepNode_rows (state : SweepState) (node : RawNode) :
    (call.sweepNode shrink confirmed state node).rows =
      state.rows.filterMap (call.sweptRow shrink confirmed [node]) := by
  have hrow (row : RawNode) : call.sweptRow shrink confirmed [node] row =
      if row.id=node.id then actOn (call.verdict shrink confirmed node) row else some row := by
    unfold MergeCall.sweptRow
    by_cases hid : row.id=node.id
    · simp [hid]
    · simp [hid,Ne.symm hid]
  -- flagging is a map and deleting a filter, both by id
  have hmark : (fun row : RawNode => if row.id=node.id then some { row with stale := true }
      else some row)=some ∘ fun row => if row.id=node.id then { row with stale := true }
      else row := by
    funext row
    simp only [Function.comp_apply]
    split <;> rfl
  have hdelete : (fun row : RawNode => if row.id=node.id then none else some row) =
      Option.guard fun row => decide (row.id≠node.id) := by
    funext row
    by_cases hid : row.id=node.id <;> simp [Option.guard,hid]
  rw [funext hrow]
  unfold MergeCall.sweepNode
  split <;> rename_i hverdict <;> simp only [actOn,hverdict,ite_self]
  · exact filterMap_some.symm
  · exact filterMap_some.symm
  · rw [hmark,filterMap_eq_map]
    rfl
  · rw [hmark,filterMap_eq_map]
    rfl
  · rw [hdelete,filterMap_eq_filter]
    rfl

theorem sweptRow_cons {rest : List RawNode} (h : node.id∉rest.map RawNode.id) (row : RawNode) :
    (call.sweptRow shrink confirmed [node] row).bind (call.sweptRow shrink confirmed rest) =
      call.sweptRow shrink confirmed (node::rest) row := by
  by_cases hid : row.id=node.id
  · have hall : call.sweptRow shrink confirmed (node::rest) row =
        actOn (call.verdict shrink confirmed node) row := by
      simp [MergeCall.sweptRow,hid]
    have hone : call.sweptRow shrink confirmed [node] row =
        actOn (call.verdict shrink confirmed node) row := by
      simp [MergeCall.sweptRow,hid]
    rw [hall,hone]
    cases hact : actOn (call.verdict shrink confirmed node) row with
    | none => rfl
    | some after =>
      have hnone : rest.find? (fun other => other.id=after.id)=none := by
        rw [find?_eq_none]
        intro other hother heq
        refine h (mem_map.mpr ⟨other,hother,?_⟩)
        rw [of_decide_eq_true heq,actOn_id hact,hid]
      simp only [Option.bind_some,MergeCall.sweptRow,hnone]
  · have hne : ¬node.id=row.id := fun heq => hid heq.symm
    simp [MergeCall.sweptRow,hne]

/-- What the sweep leaves, said row by row. -/
theorem foldl_sweepNode {existing : List RawNode} (h : (existing.map RawNode.id).Nodup)
    (state : SweepState) : (existing.foldl (call.sweepNode shrink confirmed) state).rows =
        state.rows.filterMap (call.sweptRow shrink confirmed existing) ∧
      (existing.foldl (call.sweepNode shrink confirmed) state).activeVanished =
        (state.activeVanished ||
          existing.any fun node => call.verdict shrink confirmed node=some .vanish) := by
  induction existing generalizing state with
  | nil =>
    refine ⟨?_,?_⟩
    · exact filterMap_some.symm
    · simp
  | cons node rest ih =>
    obtain ⟨hnew,hrest⟩ := nodup_cons.mp h
    obtain ⟨hrows,hvanished⟩ := ih hrest (call.sweepNode shrink confirmed state node)
    refine ⟨?_,?_⟩
    · rw [foldl_cons,hrows,sweepNode_rows,filterMap_filterMap]
      exact filterMap_congr fun row _ => sweptRow_cons hnew row
    · rw [foldl_cons,hvanished,any_cons,← Bool.or_assoc]
      congr 1
      unfold MergeCall.sweepNode
      split <;> rename_i hverdict <;> simp [hverdict]

end SweepRows

section Run

/-! ### What a whole merge makes of the rows -/

/-- The entries of a call with their positions. -/
def MergeCall.items (call : MergeCall) : List (RawNode × ℕ) := call.entries.zipIdx

theorem map_identity_items (call : MergeCall) :
    (call.items.map fun item => identity item.1)=call.entries.map identity := by
  have hfst := congrArg (map identity) (zipIdx_map_fst 0 call.entries)
  rwa [map_map] at hfst

theorem nodup_entries (call : MergeCall) : (call.entries.map identity).Nodup :=
  nodup_map_key_putRows _

theorem built_items (call : MergeCall) : ∀ item∈call.items, item.1.normalize=item.1 := by
  intro item hitem
  have hentry : item.1∈call.entries := fst_mem_of_mem_zipIdx hitem
  obtain ⟨node,hnode,hclamped⟩ := mem_map.mp (mem_of_mem_putRows hentry)
  obtain ⟨built,-,rfl⟩ := mem_map.mp hnode
  rw [← hclamped]
  exact built_clampNodeFields built.property

variable {lastId : ℕ} {row after old new : RawNode} {store : FeedStore} {rows : List RawNode}

theorem mem_nodesForSub {subId : ℕ} :
    row∈nodesForSub rows subId ↔ row∈rows ∧ row.subscriptionId=some subId := by
  unfold nodesForSub
  rw [(sortByKey_perm _ _).mem_iff,mem_filter,decide_eq_true_eq]

theorem nodup_nodesForSub (h : (rows.map RawNode.id).Nodup) (subId : ℕ) :
    ((nodesForSub rows subId).map RawNode.id).Nodup := by
  unfold nodesForSub
  rw [((sortByKey_perm _ _).map RawNode.id).nodup_iff]
  exact h.sublist (filter_sublist.map RawNode.id)

variable (digest : List Identity → String) (call : MergeCall)
  (settings : String → Option String) (rows : List RawNode)

/-- What the sweep decides about a stored node, given the table before the merge. -/
def MergeCall.decision (row : RawNode) : Option Verdict :=
  call.verdict (call.anomalousShrink (nodesForSub rows call.subId))
    (call.shrinkConfirmed digest settings (nodesForSub rows call.subId)) row

/-- What a merge makes of a stored row; nothing when it is deleted. -/
def MergeCall.fate (row : RawNode) : Option RawNode :=
  if row.subscriptionId = some call.subId then
    match call.entryFor call.items row with
    | some item => some (call.written row item)
    | none => actOn (call.decision digest settings rows row) row
  else some row

variable {digest call settings rows}

theorem entryFor_items_isSome (hsub : row.subscriptionId=some call.subId) :
    (call.entryFor call.items row).isSome=true ↔ identity row∈call.entries.map identity := by
  rw [← map_identity_items]
  unfold MergeCall.entryFor
  rw [find?_isSome]
  simp only [rowIdentity,hsub,Prod.mk.injEq,true_and,decide_eq_true_eq,mem_map]
  constructor
  · rintro ⟨item,hitem,heq⟩
    exact ⟨item,hitem,heq.symm⟩
  · rintro ⟨item,hitem,heq⟩
    exact ⟨item,hitem,heq.symm⟩

variable {shrink confirmed : Bool}

section

variable (h : Legal rows lastId)

include h

/-- A stored row after both loops. -/
theorem sweptRow_mergedRow (hrow : row∈rows) :
    call.sweptRow (call.anomalousShrink (nodesForSub rows call.subId))
        (call.shrinkConfirmed digest settings (nodesForSub rows call.subId))
        (nodesForSub rows call.subId) (call.mergedRow call.items row) =
      call.fate digest settings rows row := by
  unfold MergeCall.sweptRow MergeCall.fate
  rw [(mergedRow_keeps call.items row).1]
  by_cases hsub : row.subscriptionId=some call.subId
  · have hfound : (nodesForSub rows call.subId).find? (fun node => node.id=row.id)=some row :=
      (find?_key_eq_some_iff (nodup_nodesForSub h.ids _)).mpr ⟨mem_nodesForSub.mpr ⟨hrow,hsub⟩,rfl⟩
    rw [hfound,if_pos hsub]
    have hlist := entryFor_items_isSome hsub
    unfold MergeCall.mergedRow
    cases hentry : call.entryFor call.items row with
    | some item =>
      have hmem : identity row∈call.entries.map identity := hlist.mp (by rw [hentry]; rfl)
      simp only [MergeCall.verdict,if_pos hmem,actOn]
    | none => rfl
  · have hnone : (nodesForSub rows call.subId).find? (fun node => node.id=row.id)=none := by
      rw [find?_eq_none]
      intro node hnode hid
      obtain ⟨hmem,hnodeSub⟩ := mem_nodesForSub.mp hnode
      rw [inj_on_of_nodup_map h.ids hmem hrow (of_decide_eq_true hid)] at hnodeSub
      exact hsub hnodeSub
    have hentry : call.entryFor call.items row=none := by
      unfold MergeCall.entryFor
      rw [find?_eq_none]
      intro item _ heq
      exact hsub (congrArg Prod.fst (of_decide_eq_true heq))
    rw [hnone,if_neg hsub]
    simp only [MergeCall.mergedRow,hentry]

theorem merged_merge : Merged call call.items
      { rows := rows, lastId := lastId, added := 0, updated := 0, activeChanged := false
        activeDowngrade := none } (call.merge rows lastId) :=
  merged_foldl h (built_items call) (by rw [map_identity_items]; exact nodup_entries call)

theorem sweptRow_of_new (hid : lastId < row.id) :
    call.sweptRow shrink confirmed (nodesForSub rows call.subId) row=some row := by
  have hnone : (nodesForSub rows call.subId).find? (fun node => node.id=row.id)=none := by
    rw [find?_eq_none]
    intro node hnode heq
    have hused := h.idsUsed node (mem_nodesForSub.mp hnode).1
    have hsame : node.id=row.id := of_decide_eq_true heq
    omega
  simp only [MergeCall.sweptRow,hnone]

/-- The sweep runs over what the merge loop left. -/
theorem run_eq_swept : (call.run digest rows lastId settings).1 =
    (call.merge rows lastId).rows.filterMap
      (call.sweptRow (call.anomalousShrink (nodesForSub rows call.subId))
        (call.shrinkConfirmed digest settings (nodesForSub rows call.subId))
        (nodesForSub rows call.subId)) :=
  (foldl_sweepNode (nodup_nodesForSub h.ids call.subId) _).1

/-- Every stored row meets its fate, and the entries without a stored row
are added. -/
theorem run_rows : (call.run digest rows lastId settings).1 =
      rows.filterMap (call.fate digest settings rows)++call.newRows rows lastId call.items := by
  rw [run_eq_swept h,(merged_merge h).rows,filterMap_append,filterMap_map]
  congr 1
  · exact filterMap_congr fun row hrow => sweptRow_mergedRow h hrow
  · rw [filterMap_congr fun row hrow => sweptRow_of_new h (mem_newRows hrow).1,filterMap_some]

theorem run_activeChanged :
    (call.run digest rows lastId settings).2.2.activeChanged=rows.any (call.changed call.items) :=
  (merged_merge h).changed

end

theorem isActive_of_verdict_vanish
    (h : call.verdict shrink confirmed node=some .vanish) : call.isActive node=true := by
  cases hact : call.isActive node with
  | true => rfl
  | false =>
    simp only [MergeCall.verdict,hact,Bool.false_eq_true,if_false] at h
    split_ifs at h <;> cases h

/-- The replacement a merge offers is a fresh node of the subscription, and another one than the
active node, which it found missing from the feed. -/
theorem run_activeReplacement (h : Legal rows lastId) {id : ℕ}
    (hid : (call.run digest rows lastId settings).2.2.activeReplacement=some id) :
    (∃ new∈(call.run digest rows lastId settings).1, new.id=id ∧ new.stale=false) ∧
      ∃ node∈rows, call.isActive node=true ∧
        call.decision digest settings rows node=some .vanish ∧
        node.subscriptionId=some call.subId := by
  have hvanished : (call.sweep digest settings (nodesForSub rows call.subId)
      (call.merge rows lastId).rows).activeVanished=_ :=
    (foldl_sweepNode (nodup_nodesForSub h.ids call.subId) _).2
  change activeReplacement _ (call.run digest rows lastId settings).1 call.subId=some id at hid
  unfold activeReplacement at hid
  rw [hvanished,Bool.false_or] at hid
  split at hid
  next hany =>
    split at hid
    next only honly =>
      have hmem : only∈(nodesForSub (call.run digest rows lastId settings).1
          call.subId).filter fun row => !row.stale := by
        rw [honly]
        exact mem_singleton_self only
      obtain ⟨hnode,hfresh⟩ := mem_filter.mp hmem
      obtain ⟨node,hexisting,hverdict⟩ := any_eq_true.mp hany
      obtain ⟨hrow,hsub⟩ := mem_nodesForSub.mp hexisting
      have hdec : call.decision digest settings rows node=some .vanish := of_decide_eq_true hverdict
      refine ⟨⟨only,(mem_nodesForSub.mp hnode).1,Option.some.inj hid,by simpa using hfresh⟩,
        node,hrow,?_,hdec,hsub⟩
      exact isActive_of_verdict_vanish hdec
    · cases hid
  · cases hid

theorem actOn_some (h : actOn verdict row=some after) :
    after = { row with stale := after.stale } := by
  unfold actOn at h
  split at h <;> cases h <;> rfl

theorem fate_of_entryFor {item : RawNode × ℕ} (h : call.entryFor call.items row=some item) :
    call.fate digest settings rows row=some (call.written row item) := by
  have hsub : row.subscriptionId=some call.subId := congrArg Prod.fst (identity_of_entryFor h).2
  unfold MergeCall.fate
  rw [if_pos hsub,h]

theorem fate_keeps (h : call.fate digest settings rows row=some after) :
    after.id=row.id ∧ rowIdentity after=rowIdentity row := by
  unfold MergeCall.fate at h
  split at h
  · split at h
    next item hitem =>
      rw [← Option.some.inj h]
      exact ⟨written_id row item,rowIdentity_written (identity_of_entryFor hitem).2⟩
    · rw [actOn_some h]
      exact ⟨rfl,rfl⟩
  · rw [Option.some.inj h]
    exact ⟨rfl,rfl⟩

theorem Legal.filterMap (h : Legal rows lastId) {f : RawNode → Option RawNode}
    (hf : ∀ row after, f row=some after → after = { row with stale := after.stale }) :
    Legal (rows.filterMap f) lastId where
  ids := h.ids.sublist (map_filterMap_sublist (fun row after hrow => by rw [hf row after hrow]) rows)
  idsUsed := by
    intro after hafter
    obtain ⟨row,hrow,hsome⟩ := mem_filterMap.mp hafter
    rw [hf row after hsome]
    exact h.idsUsed row hrow
  identities := h.identities.sublist
    (map_filterMap_sublist (fun row after hrow => by rw [hf row after hrow]; rfl) rows)
  built := by
    intro after hafter
    obtain ⟨row,hrow,hsome⟩ := mem_filterMap.mp hafter
    rw [hf row after hsome]
    exact built_stale (h.built row hrow) after.stale

theorem Legal.run (h : Legal rows lastId) :
    Legal (call.run digest rows lastId settings).1 (call.run digest rows lastId settings).2.1 := by
  rw [run_eq_swept h]
  refine (merged_merge h).legal.filterMap fun row after hrow => ?_
  unfold MergeCall.sweptRow at hrow
  split at hrow
  · rw [Option.some.inj hrow]
  · exact actOn_some hrow

variable (digest) in
/-- `reconcile`: the merge as one transaction. -/
def reconcile (call : MergeCall) (store : FeedStore) : FeedStore × Report :=
  let out := call.run digest store.rows store.lastId store.settings
  ({ rows := out.1
     lastId := out.2.1
     settings := fun key => if key = shrinkKey call.subId then
       some (call.fingerprint digest (nodesForSub store.rows call.subId)) else store.settings key
     legal := store.legal.run },
   out.2.2)

theorem reconcile_rows (store : FeedStore) : (reconcile digest call store).1.rows =
      store.rows.filterMap (call.fate digest store.settings store.rows) ++
        call.newRows store.rows store.lastId call.items :=
  run_rows store.legal

/-- A row after a merge that has the id of a stored row is what became of it. -/
theorem fate_of_mem_reconcile (hold : old∈store.rows)
    (hnew : new∈(reconcile digest call store).1.rows) (hid : new.id=old.id) :
    call.fate digest store.settings store.rows old=some new := by
  rw [reconcile_rows,mem_append] at hnew
  rcases hnew with hkept | hadded
  · obtain ⟨row,hrow,hfate⟩ := mem_filterMap.mp hkept
    have hsame : row.id=old.id := by rw [← (fate_keeps hfate).1,hid]
    rwa [← inj_on_of_nodup_map store.legal.ids hrow hold hsame]
  · have hfresh := (mem_newRows hadded).1
    have hused := store.legal.idsUsed old hold
    omega

/-- What becomes of a stored row is in the table after the merge. -/
theorem mem_reconcile_of_fate (hold : old∈store.rows)
    (hfate : call.fate digest store.settings store.rows old=some new) :
    new∈(reconcile digest call store).1.rows := by
  rw [reconcile_rows,mem_append]
  exact .inl (mem_filterMap.mpr ⟨old,hold,hfate⟩)

/-- A stored row of a listed identity stays, under its id. -/
theorem exists_mem_reconcile_of_listed (hrow : row∈store.rows)
    (hsub : row.subscriptionId=some call.subId)
    (hlist : identity row∈call.entries.map identity) :
    ∃ new∈(reconcile digest call store).1.rows, new.id=row.id ∧
      rowIdentity new=rowIdentity row := by
  obtain ⟨item,hitem⟩ := Option.isSome_iff_exists.mp ((entryFor_items_isSome hsub).mpr hlist)
  have hfate : call.fate digest store.settings store.rows row=some (call.written row item) :=
    fate_of_entryFor hitem
  exact ⟨_,mem_reconcile_of_fate hrow hfate,fate_keeps hfate⟩

theorem exists_row_of_listed {key : Identity} (h : key∈call.entries.map identity) :
    ∃ row∈(reconcile digest call store).1.rows, rowIdentity row=(some call.subId, key) := by
  by_cases hstored : (some call.subId, key)∈store.rows.map rowIdentity
  · obtain ⟨row,hrow,hkey⟩ := mem_map.mp hstored
    have hident : identity row=key := congrArg Prod.snd hkey
    obtain ⟨new,hnew,-,hsame⟩ : ∃ new∈(reconcile digest call store).1.rows,
        new.id=row.id ∧ rowIdentity new=rowIdentity row :=
      exists_mem_reconcile_of_listed hrow (congrArg Prod.fst hkey) (hident.symm ▸ h)
    exact ⟨new,hnew,hsame.trans hkey⟩
  · rw [← map_identity_items] at h
    obtain ⟨item,hitem,rfl⟩ := mem_map.mp h
    obtain ⟨row,hrow,hkey⟩ := exists_mem_newRows store.lastId hitem hstored
    refine ⟨row,?_,hkey⟩
    rw [reconcile_rows]
    exact mem_append_right _ hrow

end Run

end PiGwPanel.FeedMerge
