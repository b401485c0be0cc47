import PiGwPanel.AnsweredProgram
import PiGwPanel.FeedRows

/-!
# A refresh and the security ladder

`subs/service.py`: a refresh fetches a feed, merges it in one transaction and
then moves the connection: onto the one fresh node when the active one vanished,
or onto the active node's new config. A feed chooses everything about these
nodes, so neither the merge nor the move may leave the active node on a weaker
transport security. The ladder is followed here through every point of every
refresh, whatever the feeds hold and however the applies end.
-/

namespace PiGwPanel.FeedRefresh

open Models NodeSecurity KeyedRows FeedMerge Option
open AnsweredProgram

/-- What the environment answers a step of a refresh. -/
structure Answer where
  /-- The step did not raise. -/
  said : Bool
  text : String
  /-- The nodes parsed from the fetched feed. -/
  feed : List {node : RawNode // node.normalize = node}
  /-- The profile the subscription gives to new nodes. -/
  defaultProfileId : Option ℕ
  /-- `apply_node` reports success. -/
  applied : Bool

/-- A refresh over the node table and the settings. -/
abbrev FeedProg (α : Type) := Prog Answer FeedStore String α

section Store

/-- The node id in `active_node_id`, if the setting holds one. -/
def activeId (store : FeedStore) : Option ℤ :=
  match store.settings "active_node_id" with
  | none => none
  | some text => if text = "" then none else PyText.pyInt text

/-- `get_node`. -/
def getNode (store : FeedStore) (id : ℤ) : Option RawNode :=
  store.rows.find? fun row => (row.id : ℤ) = id

/-- The row of the node the store calls active. -/
def activeRow (store : FeedStore) : Option RawNode := (activeId store).bind (getNode store)

/-- The setting a completed apply writes. -/
def withActive (id : ℕ) (store : FeedStore) : FeedStore :=
  { store with
    settings := fun key => if key = "active_node_id" then some (toString id)
      else store.settings key }

/-- `delete_node`. -/
def withoutNode (id : ℤ) (store : FeedStore) : FeedStore :=
  { store with
    rows := store.rows.filter fun row => (row.id : ℤ) ≠ id
    legal := by
      rw [← List.filterMap_eq_filter]
      exact store.legal.filterMap fun row after h => by
        rw [(Option.guard_eq_some_iff.mp h).1] }

instance (rows : List RawNode) (lastId : ℕ) : Decidable (Legal rows lastId) :=
  decidable_of_iff' _ (legal_iff rows lastId)

/-- `update_node`; nothing when the table refuses the row. -/
def withNode (row : RawNode) (store : FeedStore) : Option FeedStore :=
  if h : Legal (replaceRow RawNode.id store.rows row) store.lastId then
    some { store with rows := replaceRow RawNode.id store.rows row, legal := h }
  else none

end Store

section Refresh

variable (digest : List Identity → String)

/-- `MAX_NODES`. -/
def maxNodes : ℕ := 500

/-- Fetching and parsing. -/
def fetchFeed : FeedProg (List {node : RawNode // node.normalize = node}) := do
  let answer ← Prog.ask
  if !answer.said then Prog.raise answer.text
  else if answer.feed.isEmpty then Prog.raise "zero valid nodes in subscription response"
  else pure (answer.feed.take maxNodes)

section

variable (subId : ℕ) (active : Option ℤ) (report : Report) (oldActive : Option RawNode)

/-- The merge in its transaction, with the active node read there. -/
def mergeFeed (parsed : List {node : RawNode // node.normalize = node}) :
    FeedProg (Option ℤ × Option RawNode × Report) := do
  let answer ← Prog.ask
  if !answer.said then Prog.raise answer.text
  else do
    let store ← Prog.read
    let call : MergeCall := ⟨subId, parsed, activeId store, answer.defaultProfileId⟩
    Prog.update fun s => (reconcile digest call s).1
    pure (activeId store, activeRow store, (reconcile digest call store).2)

/-- What a refresh sees of `apply_node`: it raises, fails, or makes the node the active one. -/
def applyNode (node : RawNode) : FeedProg (Except String Unit) := do
  let answer ← Prog.ask
  if !answer.said then Prog.raise answer.text
  else if !answer.applied then pure (.error answer.text)
  else do
    Prog.update (withActive node.id)
    pure (.ok ())

/-- A deletion, which may raise. -/
def dropNode (id : ℤ) : FeedProg Unit := do
  let answer ← Prog.ask
  if !answer.said then Prog.raise answer.text else Prog.update (withoutNode id)

/-- A row is put back, which may raise. -/
def putNode (row : RawNode) : FeedProg Unit := do
  let answer ← Prog.ask
  if !answer.said then Prog.raise answer.text
  else do
    let store ← Prog.read
    match withNode row store with
    | none => Prog.raise "UNIQUE constraint failed: index 'uq_nodes_identity'"
    | some after => Prog.update fun _ => after

/-- `_auto_switch_allowed`. -/
def autoSwitchAllowed (store : FeedStore) (active : Option ℤ) (replacement : ℕ) : Bool :=
  if orDefault ((store.settings "subs_auto_switch").getD "") "1" ≠ "1" then false
  else
    match active.bind (getNode store), getNode store replacement with
    | some old, some new => securityKept old new
    | _, new => new.isSome

/-- The node to move the connection to. -/
def switchTarget (store : FeedStore) (active : Option ℤ) (report : Report) : Option RawNode :=
  report.activeReplacement.bind fun id =>
    if autoSwitchAllowed store active id then getNode store id else none

/-- The row of the replaced node goes once the connection is moved. -/
def dropReplaced (result : Except String Unit) : FeedProg Unit :=
  match result, active with
  | .ok (), some id => dropNode id
  | _, _ => pure ()

/-- The active node is applied again when its config changed. -/
def reapplyActive (store : FeedStore) (active : Option ℤ) (report : Report)
    (oldActive : Option RawNode) : FeedProg (Option (Except String Unit)) :=
  if report.activeChanged then
    match active.bind (getNode store) with
    | none => pure none
    | some node =>
      match oldActive.filter fun old => !securityKept old node with
      | some old => pure (some (.error
          ("refusing a feed-driven security downgrade of the active node: " ++ old.security ++
            " -> " ++ node.security)))
      | none => some <$> applyNode node
  else pure none

/-- `_restart_active`. -/
def restartActive : FeedProg (Option (Except String Unit)) := do
  let store ← Prog.read
  if activeId store ≠ active then pure none
  else
    match switchTarget store active report with
    | some node => do
      let result ← applyNode node
      dropReplaced active result
      pure (some result)
    | none => reapplyActive store active report oldActive

/-- The row the active node had before the refresh is put back. -/
def restoreActive : FeedProg Unit :=
  match oldActive.filter fun old => old.subscriptionId = some subId with
  | some old => putNode old
  | none => pure ()

/-- An apply that failed fails the refresh. -/
def settleApply (applied : Option (Except String Unit)) : FeedProg Unit :=
  match applied with
  | some (.error e) => do
    restoreActive subId oldActive
    Prog.raise e
  | _ => pure ()

/-- The guarded part of `refresh`. -/
def refreshBody : FeedProg Report := do
  let parsed ← fetchFeed
  let (active, oldActive, report) ← mergeFeed digest subId parsed
  match report.activeDowngrade with
  | some (stored, offered) =>
    Prog.raise ("refusing the feed's security downgrade of the active node (" ++ stored ++
      " -> " ++ offered ++ "); the stored node was left unchanged")
  | none => do
    let applied ← restartActive active report oldActive
    settleApply subId oldActive applied
    pure report

/-- `refresh`: exceptions are returned, not raised. -/
def refresh : FeedProg (Except String Report) := Prog.attempt (refreshBody digest subId)

end

end Refresh

section Ladder

/-! ### The rank of the active node -/

/-- The active node of the second store is there and protects at least as well as that of the
first, if the first has one. -/
def NotLowered (s t : FeedStore) : Prop :=
  ∀ row, activeRow s = some row →
    ∃ new, activeRow t = some new ∧ securityRank row.security ≤ securityRank new.security

theorem NotLowered.refl (s : FeedStore) : NotLowered s s := by
  intro row hrow
  exact ⟨row,hrow,le_rfl⟩

theorem NotLowered.trans {s t u : FeedStore} (hst : NotLowered s t) (htu : NotLowered t u) :
    NotLowered s u := by
  intro row hrow
  obtain ⟨mid,hmid,hlow⟩ := hst row hrow
  obtain ⟨new,hnew,hhigh⟩ := htu mid hmid
  exact ⟨new,hnew,hlow.trans hhigh⟩

variable {row : RawNode} {store : FeedStore} {call : MergeCall}

theorem getNode_eq_some_iff {id : ℤ} :
    getNode store id=some row ↔ row∈store.rows ∧ (row.id : ℤ)=id := by
  have hids : (store.rows.map fun row => (row.id : ℤ)).Nodup := by
    have hcast := store.legal.ids.map (f := fun n : ℕ => (n : ℤ)) fun a b h => Int.ofNat.inj h
    rwa [List.map_map] at hcast
  exact find?_key_eq_some_iff hids

theorem activeRow_eq_some_iff :
    activeRow store=some row ↔ row∈store.rows ∧ activeId store=some (row.id : ℤ) := by
  unfold activeRow
  rw [bind_eq_some_iff]
  constructor
  · rintro ⟨id,hid,hrow⟩
    obtain ⟨hmem,rfl⟩ := getNode_eq_some_iff.mp hrow
    exact ⟨hmem,hid⟩
  · rintro ⟨hmem,hid⟩
    exact ⟨_,hid,getNode_eq_some_iff.mpr ⟨hmem,rfl⟩⟩

@[simp] theorem activeId_withActive (id : ℕ) (store : FeedStore) :
    activeId (withActive id store)=some (id : ℤ) := by
  have htext : toString id ≠ "" := by
    intro hempty
    have hread := PyText.pyInt_natText id
    have hnone : PyText.pyInt "" = none := by decide
    rw [hempty,hnone] at hread
    cases hread
  have hsetting : (withActive id store).settings "active_node_id" = some (toString id) := by
    simp only [withActive,if_true]
  unfold activeId
  exact (if_neg htext).trans (PyText.pyInt_natText id)

theorem shrinkKey_ne_active (subId : ℕ) : "active_node_id" ≠ shrinkKey subId := by
  intro h
  have hkey : (shrinkKey subId).toList =
      's' :: ("ubscription_shrink:".toList++(toString subId).toList) := by
    unfold shrinkKey
    rw [String.toList_append]
    rfl
  have hact : "active_node_id".toList = 'a' :: "ctive_node_id".toList := by decide
  rw [← h,hact] at hkey
  exact absurd (List.cons.inj hkey).1 (by decide)

variable {digest : List Identity → String}

theorem activeId_reconcile (call : MergeCall) (store : FeedStore) :
    activeId (reconcile digest call store).1=activeId store := by
  have hsetting : (reconcile digest call store).1.settings "active_node_id" =
      store.settings "active_node_id" := by
    simp only [reconcile,shrinkKey_ne_active,if_false]
  unfold activeId
  rw [hsetting]

/-- The merge keeps the active row and never lowers its security. -/
theorem fate_active (hact : call.isActive row=true) :
    ∃ new, call.fate digest store.settings store.rows row=some new ∧
      securityRank row.security ≤ securityRank new.security := by
  unfold MergeCall.fate
  split
  · cases hentry : call.entryFor call.items row with
    | some item =>
      refine ⟨_,rfl,?_⟩
      unfold MergeCall.written MergeCall.refuses
      rw [hact,Bool.true_and]
      cases hkept : securityKept row (call.refreshedRow row item.1 item.2) with
      | true => exact of_decide_eq_true hkept
      | false => exact le_rfl
    | none =>
      -- the sweep flags the active node where it would delete another one
      have hspared : call.decision digest store.settings store.rows row≠some .delete := by
        simp only [MergeCall.decision,MergeCall.verdict,hact,if_true]
        split_ifs <;> simp
      cases hdec : call.decision digest store.settings store.rows row with
      | none => exact ⟨row,rfl,le_rfl⟩
      | some verdict =>
        cases verdict with
        | skip => exact ⟨row,rfl,le_rfl⟩
        | markStale => exact ⟨_,rfl,le_rfl⟩
        | vanish => exact ⟨_,rfl,le_rfl⟩
        | delete => exact absurd hdec hspared
  · exact ⟨row,rfl,le_rfl⟩

section

variable (hcall : call.active=activeId store)

include hcall

theorem isActive_of_activeId (hid : activeId store=some (row.id : ℤ)) : call.isActive row=true := by
  unfold MergeCall.isActive
  rw [hcall,hid,decide_eq_true_eq]

/-- A merge does not lower the security of the connected node. -/
theorem notLowered_reconcile : NotLowered store (reconcile digest call store).1 := by
  intro row hrow
  obtain ⟨hmem,hid⟩ := activeRow_eq_some_iff.mp hrow
  obtain ⟨new,hfate,hrank⟩ : ∃ new, call.fate digest store.settings store.rows row=some new ∧
      securityRank row.security ≤ securityRank new.security :=
    fate_active (isActive_of_activeId hcall hid)
  refine ⟨new,activeRow_eq_some_iff.mpr ⟨mem_reconcile_of_fate hmem hfate,?_⟩,hrank⟩
  rw [activeId_reconcile,hid,(fate_keeps hfate).1]

/-- A replacement is offered for an active node that is still there, and is another one. -/
theorem replacement_ne_active {id : ℕ}
    (hoffered : (reconcile digest call store).2.activeReplacement=some id) :
    ∃ row, activeRow (reconcile digest call store).1=some row ∧ row.id≠id := by
  obtain ⟨⟨new,hnew,hnewId,hfresh⟩,node,hnode,hact,hdec,hsub⟩ :=
    run_activeReplacement store.legal hoffered
  have hlist : call.entryFor call.items node=none := by
    rw [← not_isSome_iff_eq_none]
    intro hsome
    have hmem := (entryFor_items_isSome hsub).mp hsome
    simp [MergeCall.decision,MergeCall.verdict,hmem] at hdec
  have hfate : call.fate digest store.settings store.rows node =
      some { node with stale := true } := by
    unfold MergeCall.fate
    rw [if_pos hsub,hlist,hdec]
    rfl
  have hid : activeId store=some (node.id : ℤ) := hcall ▸ of_decide_eq_true hact
  refine ⟨{ node with stale := true },activeRow_eq_some_iff.mpr
    ⟨mem_reconcile_of_fate hnode hfate,?_⟩,?_⟩
  · rw [activeId_reconcile,hid]
  · intro hsame
    have hother := fate_of_mem_reconcile hnode hnew (hnewId.trans hsame.symm)
    rw [hfate] at hother
    rw [← some.inj hother] at hfresh
    cases hfresh

end

/-- The connection moves to a node of the table that protects no less. -/
theorem notLowered_withActive {node : RawNode} (hnode : node∈store.rows)
    (hkept : ∀ row, activeRow store=some row →
      securityRank row.security ≤ securityRank node.security) :
    activeRow (withActive node.id store)=some node ∧
      NotLowered store (withActive node.id store) := by
  have hact : activeRow (withActive node.id store)=some node :=
    activeRow_eq_some_iff.mpr ⟨hnode,activeId_withActive node.id store⟩
  exact ⟨hact,fun row hrow => ⟨node,hact,hkept row hrow⟩⟩

/-- Deleting another row than the active node's does not lower it. -/
theorem notLowered_withoutNode {id : ℤ} (hact : activeRow store=some row)
    (hother : (row.id : ℤ)≠id) : NotLowered store (withoutNode id store) := by
  intro other hrow
  obtain rfl := some.inj (hact.symm.trans hrow)
  obtain ⟨hmem,hid⟩ := activeRow_eq_some_iff.mp hact
  refine ⟨row,activeRow_eq_some_iff.mpr ⟨?_,hid⟩,le_rfl⟩
  exact List.mem_filter.mpr ⟨hmem,by simpa using hother⟩

theorem activeRow_withNode {after : FeedStore} (hafter : withNode row store=some after)
    (hid : activeId store=some (row.id : ℤ)) (hthere : (activeRow store).isSome=true) :
    activeRow after=some row := by
  obtain ⟨old,hold⟩ := isSome_iff_exists.mp hthere
  obtain ⟨hmem,holdId⟩ := activeRow_eq_some_iff.mp hold
  have hsame : old.id=row.id := by
    rw [hid,some.injEq] at holdId
    omega
  unfold withNode at hafter
  split at hafter
  · cases hafter
    refine activeRow_eq_some_iff.mpr ⟨?_,hid⟩
    exact List.mem_map.mpr ⟨old,hmem,if_pos hsame⟩
  · cases hafter

end Ladder

section Programs

/-! ### The ladder at every point of a refresh -/

variable {digest : List Identity → String} {start s : FeedStore}

theorem applyNode_meets (node : RawNode) :
    Prog.Meets (fun _ => True) (applyNode node) s (fun t => t=s) (fun t => t=s)
      fun result t => (result = .ok () ∧ t=withActive node.id s) ∨
        ∃ e, result = .error e ∧ t=s := by
  refine .ask_bind rfl fun answer _ => ?_
  cases answer.said with
  | false => exact .raise rfl
  | true =>
    cases answer.applied with
    | false => exact .pure (.inr ⟨_,rfl,rfl⟩)
    | true => exact .update_bind (.pure (.inl ⟨rfl,rfl⟩))

/-- The row of a replaced node is deleted when another node is active. -/
theorem dropReplaced_safe {active : Option ℤ} {result : Except String Unit}
    (hlow : NotLowered start s) (hother : result = .ok () → ∀ id, active=some id →
      ∃ row, activeRow s=some row ∧ (row.id : ℤ)≠id) :
    Prog.SafeTo (NotLowered start) (dropReplaced active result) s fun _ t =>
      ∀ e, result = .error e → t=s := by
  unfold dropReplaced
  split
  next id =>
    refine .ask_bind hlow fun answer => ?_
    cases answer.said with
    | false => exact .raise hlow
    | true =>
      obtain ⟨row,hrow,hne⟩ := hother rfl id rfl
      refine .update (hlow.trans (notLowered_withoutNode hrow hne)) ?_
      intro e he
      cases he
  · exact .pure hlow fun _ _ => rfl

variable {report : Report} {oldActive : Option RawNode}

theorem switchTarget_kept {node row : RawNode}
    (htgt : switchTarget s (activeId s) report=some node) (hrow : activeRow s=some row) :
    report.activeReplacement=some node.id ∧ node∈s.rows ∧
      securityRank row.security ≤ securityRank node.security := by
  obtain ⟨id,hid,htgt⟩ := bind_eq_some_iff.mp htgt
  split at htgt
  next hallowed =>
    obtain ⟨hmem,hcast⟩ := getNode_eq_some_iff.mp htgt
    have hsame : node.id=id := by omega
    refine ⟨hsame ▸ hid,hmem,?_⟩
    have hold : (activeId s).bind (getNode s)=some row := hrow
    unfold autoSwitchAllowed at hallowed
    rw [hold,htgt] at hallowed
    split at hallowed
    · cases hallowed
    · exact of_decide_eq_true hallowed
  · cases htgt

section

variable (hlow : NotLowered start s)

include hlow

theorem reapplyActive_safe :
    Prog.SafeTo (NotLowered start) (reapplyActive s (activeId s) report oldActive) s
      fun applied t => ∀ e, applied=some (.error e) → t=s := by
  unfold reapplyActive
  split
  · cases hnode : (activeId s).bind (getNode s) with
    | none => exact .pure hlow fun _ _ => rfl
    | some node =>
      dsimp only
      split
      · exact .pure hlow fun _ _ => rfl
      · have hact : activeRow s=some node := hnode
        obtain ⟨hmem,-⟩ := activeRow_eq_some_iff.mp hact
        have hmoved : NotLowered s (withActive node.id s) :=
          (notLowered_withActive hmem fun row hrow => by
            rw [some.inj (hrow.symm.trans hact)]).2
        refine Prog.Meets.bind ((applyNode_meets node).weaken (fun t ht => ht ▸ hlow)
          fun t ht => ht ▸ hlow) ?_
        intro result t hresult
        rcases hresult with ⟨rfl,rfl⟩ | ⟨e,rfl,rfl⟩
        · refine Prog.SafeTo.pure (hlow.trans hmoved) fun e he => ?_
          cases some.inj he
        · exact Prog.SafeTo.pure hlow fun _ _ => rfl
  · exact .pure hlow fun _ _ => rfl

/-- Moving the connection after a merge does not lower the active node, and a failed apply
leaves the store as it was. -/
theorem restartActive_safe (hrepl : ∀ id, report.activeReplacement=some id →
      ∃ row, activeRow s=some row ∧ row.id≠id) :
    Prog.SafeTo (NotLowered start) (restartActive (activeId s) report oldActive) s
      fun applied t => ∀ e, applied=some (.error e) → t=s := by
  refine .read_bind ?_
  rw [if_neg (not_not.mpr rfl)]
  cases htgt : switchTarget s (activeId s) report with
  | none => exact reapplyActive_safe hlow
  | some node =>
    have hoffered : ∃ id, report.activeReplacement=some id := by
      obtain ⟨id,hid,-⟩ := bind_eq_some_iff.mp htgt
      exact ⟨id,hid⟩
    obtain ⟨id,hid⟩ := hoffered
    obtain ⟨row,hrow,hne⟩ := hrepl id hid
    obtain ⟨hnodeId,hmem,hkept⟩ := switchTarget_kept htgt hrow
    have hidEq : id=node.id := some.inj (hid.symm.trans hnodeId)
    obtain ⟨hnow,hmoved⟩ := notLowered_withActive hmem fun other hother => by
      rw [some.inj (hother.symm.trans hrow)]
      exact hkept
    refine Prog.Meets.bind ((applyNode_meets node).weaken (fun t ht => ht ▸ hlow)
      fun t ht => ht ▸ hlow) ?_
    intro result t hresult
    have hdrop : Prog.SafeTo (NotLowered start) (dropReplaced (activeId s) result) t fun _ u =>
        ∀ e, result = .error e → u=s := by
      rcases hresult with ⟨rfl,rfl⟩ | ⟨e,rfl,rfl⟩
      · refine (dropReplaced_safe (hlow.trans hmoved) fun _ active hact => ?_).mono
          fun _ _ _ _ e he => by cases he
        refine ⟨node,hnow,?_⟩
        have hrowId := (activeRow_eq_some_iff.mp hrow).2
        rw [hrowId,some.injEq] at hact
        omega
      · exact dropReplaced_safe hlow fun hok => by cases hok
    refine hdrop.bind fun _ u hu hsame => ?_
    exact .pure hu fun e he => hsame e (some.inj he)

/-- Putting the old row back after a failed apply lowers nothing. -/
theorem restoreActive_safe {subId : ℕ} (hid : activeId s=activeId start) :
    Prog.SafeTo (NotLowered start) (restoreActive subId (activeRow start)) s fun _ _ => True := by
  unfold restoreActive
  split
  next old hfiltered =>
    have hold : activeRow start=some old := (filter_eq_some_iff.mp hfiltered).1
    obtain ⟨now,hnow,-⟩ := hlow old hold
    refine .ask_bind hlow fun answer => ?_
    cases answer.said with
    | false => exact .raise hlow
    | true =>
      refine .read_bind ?_
      cases hafter : withNode old s with
      | none => exact .raise hlow
      | some after =>
        have hact : activeRow after=some old := by
          refine activeRow_withNode hafter ?_ (by rw [hnow]; rfl)
          rw [hid,(activeRow_eq_some_iff.mp hold).2]
        refine .update ?_ trivial
        intro row hrow
        exact ⟨old,hact,by rw [some.inj (hrow.symm.trans hold)]⟩
  · exact .pure hlow trivial

end

/-- Wherever a refresh stops, the active node is there and
protects no less than before. -/
theorem refresh_safe (subId : ℕ) :
    Prog.SafeTo (NotLowered start) (refresh digest subId) start fun _ _ => True := by
  have hstart := NotLowered.refl start
  suffices hbody : Prog.SafeTo (NotLowered start) (refreshBody digest subId) start
      fun _ _ => True from
    hbody.attempt (fun _ _ _ _ => trivial) fun _ _ _ => trivial
  have hfetch : Prog.SafeTo (NotLowered start) fetchFeed start fun _ t => t=start := by
    refine .ask_bind hstart fun answer => ?_
    split
    · exact .raise hstart
    · split
      · exact .raise hstart
      · exact .pure hstart rfl
  refine hfetch.bind ?_
  rintro parsed t - rfl
  have hmerge : Prog.SafeTo (NotLowered t) (mergeFeed digest subId parsed) t fun read u =>
      ∃ call : MergeCall, call.active=activeId t ∧ u=(reconcile digest call t).1 ∧
        read=(activeId t, activeRow t, (reconcile digest call t).2) := by
    refine .ask_bind hstart fun answer => ?_
    split
    · exact .raise hstart
    · refine .read_bind (.update_bind (.pure ?_ ?_))
      · exact notLowered_reconcile rfl
      · exact ⟨⟨subId,parsed,activeId t,answer.defaultProfileId⟩,rfl,rfl,rfl⟩
  refine hmerge.bind ?_
  rintro read u hlow ⟨call,hcall,rfl,rfl⟩
  dsimp only
  split
  · exact .raise hlow
  · have hkept : activeId (reconcile digest call t).1=activeId t := activeId_reconcile call t
    refine (restartActive_safe hlow fun id hid => replacement_ne_active hcall hid).bind ?_
    intro applied v hv hfailed
    have hsettle : Prog.SafeTo (NotLowered t) (settleApply subId (activeRow t) applied) v
        fun _ _ => True := by
      unfold settleApply
      split
      next e =>
        rw [hfailed e rfl]
        exact (restoreActive_safe hlow hkept).bind fun _ _ hw _ => .raise hw
      · exact .pure hv trivial
    exact hsettle.bind fun _ _ hw _ => .pure hw trivial

section Kept

/-! ### What holds at every point of a refresh -/

variable {I : FeedStore → Prop} {Good : RawNode → Prop} {A : Answer → Prop} {α β : Type}

/-- The statements after the merge keep the property, where the row that is put back is a good
one. -/
structure Undisturbed (I : FeedStore → Prop) (Good : RawNode → Prop) : Prop where
  withActive : ∀ {s} id, I s → I (withActive id s)
  withoutNode : ∀ {s} id, I s → I (withoutNode id s)
  withNode : ∀ {s t row}, Good row → I s → withNode row s = some t → I t

/-- The program keeps the property wherever it stops. -/
def Keeps (A : Answer → Prop) (I : FeedStore → Prop) (m : FeedProg α) : Prop :=
  ∀ s, I s → Prog.Meets A m s I I fun _ t => I t

theorem Keeps.bind {m : FeedProg α} {next : α → FeedProg β} (hm : Keeps A I m)
    (hnext : ∀ value, Keeps A I (next value)) : Keeps A I (m >>= next) :=
  fun s hs => (hm s hs).bind fun value t ht => hnext value t ht

theorem Keeps.pure (value : α) : Keeps A I (Pure.pure value) := fun _ hs => Prog.Meets.pure hs

theorem Keeps.raise (error : String) : Keeps A I (Prog.raise error : FeedProg α) :=
  fun _ hs => .raise hs

theorem Keeps.ask {next : Answer → FeedProg α} (hnext : ∀ answer, Keeps A I (next answer)) :
    Keeps A I (Prog.ask >>= next) :=
  fun s hs => .ask_bind hs fun answer _ => hnext answer s hs

theorem Keeps.read {next : FeedStore → FeedProg α} (hnext : ∀ store, Keeps A I (next store)) :
    Keeps A I (Prog.read >>= next) :=
  fun s hs => .read_bind (hnext s s hs)

theorem Keeps.update {f : FeedStore → FeedStore} (hf : ∀ s, I s → I (f s)) :
    Keeps A I (Prog.update f) :=
  fun s hs => .update (hf s hs)

variable (h : Undisturbed I Good)

include h

theorem Undisturbed.applyNode (node : RawNode) : Keeps A I (applyNode node) := by
  refine .ask fun answer => ?_
  split
  · exact .raise _
  · split
    · exact .pure _
    · exact (Keeps.update fun s hs => h.withActive node.id hs).bind fun _ => Keeps.pure _

theorem Undisturbed.dropReplaced (active : Option ℤ) (result : Except String Unit) :
    Keeps A I (dropReplaced active result) := by
  unfold FeedRefresh.dropReplaced
  split
  · refine .ask fun answer => ?_
    split
    · exact .raise _
    · exact .update fun s hs => h.withoutNode _ hs
  · exact .pure _

theorem Undisturbed.reapplyActive (store : FeedStore) (active : Option ℤ) (report : Report)
    (oldActive : Option RawNode) : Keeps A I (reapplyActive store active report oldActive) := by
  unfold FeedRefresh.reapplyActive
  split
  · split
    · exact .pure _
    · split
      · exact .pure _
      · exact (h.applyNode _).bind fun _ => Keeps.pure _
  · exact .pure _

theorem Undisturbed.restartActive (active : Option ℤ) (report : Report)
    (oldActive : Option RawNode) : Keeps A I (restartActive active report oldActive) := by
  refine .read fun store => ?_
  split
  · exact .pure _
  · split
    · refine (h.applyNode _).bind fun result => ?_
      exact (h.dropReplaced active result).bind fun _ => Keeps.pure _
    · exact h.reapplyActive store active report oldActive

theorem Undisturbed.settleApply (subId : ℕ) {oldActive : Option RawNode}
    (hold : ∀ row∈oldActive, Good row) (applied : Option (Except String Unit)) :
    Keeps A I (settleApply subId oldActive applied) := by
  have hrestore : Keeps A I (restoreActive subId oldActive) := by
    unfold restoreActive
    split
    next old hfiltered =>
      have hrow := hold old (filter_eq_some_iff.mp hfiltered).1
      refine .ask fun answer => ?_
      split
      · exact .raise _
      · intro s hs
        refine .read_bind ?_
        split
        · exact .raise hs
        next after hafter =>
          exact .update (h.withNode hrow hs hafter)
    · exact .pure _
  unfold FeedRefresh.settleApply
  split
  · exact hrestore.bind fun _ => Keeps.raise _
  · exact .pure _

/-- What a merge of any answered feed establishes holds wherever the refresh stops after it. -/
theorem Undisturbed.refresh {s : FeedStore} (hs : I s) (hgood : ∀ row∈s.rows, Good row)
    {subId : ℕ} (hmerge : ∀ fetched answer, A fetched → A answer →
      I (reconcile digest ⟨subId,fetched.feed.take maxNodes,activeId s,answer.defaultProfileId⟩
        s).1) :
    Prog.Meets A (refresh digest subId) s I I fun _ t => I t := by
  refine .attempt ?_ (fun _ _ h => h) fun _ _ h => h
  refine .bind
    (P := fun parsed t => (∃ fetched, A fetched ∧ parsed=fetched.feed.take maxNodes) ∧ t=s) ?_ ?_
  · refine .ask_bind hs fun answer hanswer => ?_
    split
    · exact .raise hs
    · split
      · exact .raise hs
      · exact .pure ⟨⟨answer,hanswer,rfl⟩,rfl⟩
  rintro parsed t ⟨⟨fetched,hfetched,rfl⟩,rfl⟩
  refine .bind (P := fun read u => I u ∧ read.2.1=activeRow t) ?_ ?_
  · refine .ask_bind hs fun answer hanswer => ?_
    split
    · exact .raise hs
    · refine .read_bind (.update_bind (.pure ⟨?_,rfl⟩))
      exact hmerge fetched answer hfetched hanswer
  rintro ⟨active,oldActive,report⟩ u ⟨hu,hold⟩
  have holdGood : ∀ row∈oldActive, Good row := by
    rw [show oldActive=activeRow t from hold]
    exact fun row hrow => hgood row (activeRow_eq_some_iff.mp hrow).1
  dsimp only
  split
  · exact .raise hu
  · refine Keeps.bind (h.restartActive active report oldActive) (fun applied => ?_) u hu
    exact (h.settleApply subId holdGood applied).bind fun _ => Keeps.pure _

end Kept

end Programs

section Runs

variable (digest : List Identity → String)

/-- One refresh of a run: the subscription and the answers it meets. A refresh whose answers run
out has stopped at that point. -/
structure Round where
  subId : ℕ
  answers : List Answer

/-- The store after a refresh, or where it stopped. -/
def afterRound (store : FeedStore) (round : Round) : FeedStore :=
  (refresh digest round.subId round.answers store).state

/-- Over every sequence of refreshes, with every point of a refresh
looked at, the active node keeps a row and its rank never goes down. -/
theorem ladder_over_refreshes (start : FeedStore) (earlier later : List Round) :
    NotLowered (run (afterRound digest) start earlier)
      (run (afterRound digest) start (earlier ++ later)) := by
  rw [run_append]
  generalize run (afterRound digest) start earlier=store
  have hstep : ∀ s round, NotLowered store s → NotLowered store (afterRound digest s round) := by
    intro s round hlow
    have hround : NotLowered s (afterRound digest s round) :=
      (refresh_safe round.subId).state round.answers
    exact hlow.trans hround
  exact run_keeps hstep (NotLowered.refl store)

end Runs

end PiGwPanel.FeedRefresh
