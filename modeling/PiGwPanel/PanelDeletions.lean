import PiGwPanel.BackupRuns

/-!
# Deleting subscriptions and profiles

A subscription is deleted with its nodes left behind as manual ones, listed nodes
are detached one row at a time, and a profile is deleted with the nodes that used
it falling back to the default. The subscription of a node is part of the index
that keeps servers apart, so a node can only be detached where no manual node is
the same server; and a profile is also referred to by subscriptions, whose
reference nothing clears. Both conditions turn out to be exact.
-/

namespace PiGwPanel.PanelDeletions

open Models PyText NodeSecurity ConfigStore FeedMerge BackupPreflight RestoredNetwork NodeRoutes
  BackupRuns AnsweredProgram List
open BackupDocument hiding maxNodes

section Statements

/-- A row taken off its subscription. -/
def detached (row : RawNode) : RawNode := { row with subscriptionId := none }

/-- The rows, the leaving ones taken off their subscription. -/
def detachRows (leaving : RawNode → Bool) (rows : List RawNode) : List RawNode :=
  rows.map fun row => if leaving row then detached row else row

/-- `UPDATE nodes SET subscription_id = NULL` of the leaving rows. -/
def detachWhere (table : NodeTable) (leaving : RawNode → Bool) : Except SqlError NodeTable :=
  if h : Legal (detachRows leaving table.rows) table.lastId then
    .ok { table with rows := detachRows leaving table.rows, legal := h }
  else .error .integrity

/-- How a writer of the store ends: what it raised, and the tables it leaves. -/
structure Attempt where
  raised : Option SqlError
  panel : PanelStore

/-- A transaction: what raises leaves the tables as they were. -/
def transaction (panel : PanelStore) (body : PanelStore → Except SqlError PanelStore) : Attempt :=
  match body panel with
  | .ok after => ⟨none, after⟩
  | .error why => ⟨some why, panel⟩

theorem legalIds_filter {α : Type} {id : α → ℕ} {rows : List α} (keep : α → Bool)
    (h : LegalIds (rows.map id)) : LegalIds ((rows.filter keep).map id) := by
  have hsublist := filter_sublist (p := keep) (l := rows) |>.map id
  exact ⟨h.1.sublist hsublist,fun other hother => h.2 other (hsublist.subset hother)⟩

/-- The statements of `delete_subscription`. -/
def dropSubscription (subId : ℕ) (panel : PanelStore) : Except SqlError PanelStore :=
  match detachWhere panel.table fun row => row.subscriptionId = some subId with
  | .error why => .error why
  | .ok table =>
    -- The foreign key of the nodes is checked as the subscription goes.
    if table.rows.any fun row => row.subscriptionId = some subId then .error .integrity
    else .ok { panel with
      table := { table with settings := fun key =>
        if key = "subscription_shrink:" ++ toString subId then none else table.settings key }
      subscriptions := panel.subscriptions.filter fun sub => sub.id ≠ subId
      subscriptions_legal := legalIds_filter _ panel.subscriptions_legal }

/-- `delete_subscription`. -/
def deleteSubscription (panel : PanelStore) (subId : ℕ) : Attempt :=
  transaction panel (dropSubscription subId)

/-- `DELETE /subs/…`. -/
def deleteSub (panel : PanelStore) (subId : ℕ) : Except Refusal PanelStore :=
  if subId ∉ panel.subscriptions.map Subscription.id then .error ⟨404, "subscription not found"⟩
  else
    match deleteSubscription panel subId with
    | ⟨none, after⟩ => .ok after
    | ⟨some _, _⟩ => .error serverError

/-- A number a statement can be given. -/
def bindable (id : ℤ) : Bool := -(rowIdLimit : ℤ) ≤ id && id < rowIdLimit

/-- One round of the loop of `detach_nodes`. -/
def detachNode (table : NodeTable) (id : ℤ) : Except SqlError NodeTable :=
  if bindable id then detachWhere table fun row => (row.id : ℤ) = id else .error .binding

/-- `detach_nodes`, also the whole of `POST /nodes/detach`. The connection commits every statement
on its own. -/
def detachNodes (panel : PanelStore) : List ℤ → Attempt
  | [] => ⟨none, panel⟩
  | id :: rest =>
    match detachNode panel.table id with
    | .error why => ⟨some why, panel⟩
    | .ok table => detachNodes { panel with table := table } rest

end Statements

section Detaching

variable {rows : List RawNode} {lastId : ℕ} {leaving : RawNode → Bool}

/-- No leaving node is the same server as a manual node, or as another leaving one. -/
def Separable (rows : List RawNode) (leaving : RawNode → Bool) : Prop :=
  ∀ row ∈ rows, ∀ other ∈ rows, leaving row = true → row.subscriptionId ≠ none →
    (other.subscriptionId = none ∨ leaving other = true) → identity row = identity other →
    row = other

instance (rows : List RawNode) (leaving : RawNode → Bool) : Decidable (Separable rows leaving) :=
  inferInstanceAs (Decidable (∀ row ∈ rows, ∀ other ∈ rows, _))

theorem Separable.mono (h : Separable rows leaving) {fewer : RawNode → Bool}
    (hfewer : ∀ row∈rows, fewer row=true → leaving row=true) : Separable rows fewer := by
  intro row hrow other hother hleaves hsub hmanual hsame
  exact h row hrow other hother (hfewer row hrow hleaves) hsub
    (hmanual.imp_right (hfewer other hother)) hsame

theorem id_detachRows (leaving : RawNode → Bool) (rows : List RawNode) :
    (detachRows leaving rows).map RawNode.id=rows.map RawNode.id := by
  rw [detachRows,map_map]
  refine map_congr_left fun row _ => ?_
  change (if leaving row then detached row else row).id=row.id
  split
  · rfl
  · rfl

/-- What a row is unique by once the leaving ones are detached. -/
def identityAfter (leaving : RawNode → Bool) (row : RawNode) : Option ℕ × Identity :=
  (if leaving row then none else row.subscriptionId, identity row)

theorem rowIdentity_detachRows (leaving : RawNode → Bool) (rows : List RawNode) :
    (detachRows leaving rows).map rowIdentity=rows.map (identityAfter leaving) := by
  rw [detachRows,map_map]
  refine map_congr_left fun row _ => ?_
  change rowIdentity (if leaving row then detached row else row)=identityAfter leaving row
  unfold identityAfter
  split
  · rfl
  · rfl

theorem built_detached {row : RawNode} (h : row.normalize=row) :
    (detached row).normalize=detached row :=
  built_placed h row.id none row.stale row.position row.tuningProfileId row.note

/-- A node that is not leaving, or is a manual one already, keeps what it is unique by. -/
theorem identityAfter_of_stays {row : RawNode}
    (h : ¬(leaving row=true ∧ row.subscriptionId≠none)) :
    identityAfter leaving row=rowIdentity row := by
  unfold identityAfter
  split
  next hleaves =>
    have hnone : row.subscriptionId=none := by
      by_contra hsub
      exact h ⟨hleaves,hsub⟩
    rw [rowIdentity,hnone]
  · rfl

theorem legal_detachRows_iff (h : Legal rows lastId) :
    Legal (detachRows leaving rows) lastId ↔ Separable rows leaving := by
  have hdist : rows.Nodup := h.ids.of_map
  have hnodup : ((detachRows leaving rows).map rowIdentity).Nodup ↔ ∀ row∈rows, ∀ other∈rows,
        identityAfter leaving row=identityAfter leaving other → row=other := by
    rw [rowIdentity_detachRows]
    exact nodup_map_iff_inj_on hdist
  constructor
  · intro hlegal row hrow other hother hleaves hsub hmanual hsame
    refine hnodup.mp hlegal.identities row hrow other hother ?_
    unfold identityAfter
    rw [if_pos hleaves,hsame]
    rcases hmanual with hnone | hleaves'
    · rw [hnone,ite_self]
    · rw [if_pos hleaves']
  · intro hseparable
    refine ⟨?_,?_,hnodup.mpr ?_,?_⟩
    · rw [id_detachRows]
      exact h.ids
    · intro row hrow
      have hid : row.id∈(detachRows leaving rows).map RawNode.id := mem_map_of_mem hrow
      rw [id_detachRows] at hid
      obtain ⟨old,hold,hsame⟩ := mem_map.mp hid
      exact hsame ▸ h.idsUsed old hold
    · have hmoves : ∀ row∈rows, ∀ other∈rows, leaving row=true ∧ row.subscriptionId≠none →
          identityAfter leaving row=identityAfter leaving other → row=other := by
        intro row hrow other hother hmoved heq
        obtain ⟨hsub,hsame⟩ := Prod.ext_iff.mp heq
        have hmanual : other.subscriptionId=none ∨ leaving other=true := by
          by_cases hleaves : leaving other=true
          · exact .inr hleaves
          · simp only [identityAfter,hmoved.1,hleaves,if_true] at hsub
            exact .inl hsub.symm
        exact hseparable row hrow other hother hmoved.1 hmoved.2 hmanual hsame
      intro row hrow other hother heq
      by_cases hmoved : leaving row=true ∧ row.subscriptionId≠none
      · exact hmoves row hrow other hother hmoved heq
      · by_cases hmoved' : leaving other=true ∧ other.subscriptionId≠none
        · exact (hmoves other hother row hrow hmoved' heq.symm).symm
        · rw [identityAfter_of_stays hmoved,identityAfter_of_stays hmoved'] at heq
          exact inj_on_of_nodup_map h.identities hrow hother heq
    · intro row hrow
      obtain ⟨old,hold,rfl⟩ := mem_map.mp hrow
      split
      · exact built_detached (h.built old hold)
      · exact h.built old hold

theorem detachRows_detachRows (first second : RawNode → Bool)
    (hsnd : ∀ row, second (detached row)=second row) (rows : List RawNode) :
    detachRows second (detachRows first rows) =
      detachRows (fun row => first row || second row) rows := by
  unfold detachRows
  rw [map_map]
  refine map_congr_left fun row _ => ?_
  change (if second (if first row then detached row else row) then
    detached (if first row then detached row else row) else if first row then detached row else row) =
      if (first row || second row)=true then detached row else row
  cases hfst : first row with
  | true =>
    simp only [if_true,hsnd,Bool.true_or]
    split
    · rfl
    · rfl
  | false => simp

end Detaching

variable {rows : List RawNode} {lastId : ℕ}

section Outcomes

variable {panel : PanelStore} {leaving : RawNode → Bool}

/-- No server is lost: the call succeeds with every row still there, the leaving ones detached, and
a failure would leave the tables as they were. -/
structure KeepsServers (before : PanelStore) (leaving : RawNode → Bool) (call : Attempt) : Prop where
  succeeds : call.raised = none
  kept : ∀ row ∈ before.table.rows,
    (if leaving row then detached row else row) ∈ call.panel.table.rows
  unchanged : call.raised ≠ none → call.panel = before

theorem keepsServers_of_rows {call : Attempt} (hraised : call.raised=none)
    (hrows : call.panel.table.rows=detachRows leaving panel.table.rows) :
    KeepsServers panel leaving call := by
  refine ⟨hraised,fun row hrow => ?_,fun hfailed => absurd hraised hfailed⟩
  rw [hrows]
  exact mem_map_of_mem (f := fun row => if leaving row then detached row else row) hrow

theorem detachWhere_of_separable {table : NodeTable} (h : Separable table.rows leaving) :
    ∃ after : NodeTable, detachWhere table leaving = .ok after ∧
      after.rows=detachRows leaving table.rows :=
  ⟨_,dif_pos ((legal_detachRows_iff table.legal).mpr h),rfl⟩

theorem detachWhere_of_not_separable {table : NodeTable} (h : ¬Separable table.rows leaving) :
    detachWhere table leaving = .error .integrity :=
  dif_neg (mt (legal_detachRows_iff table.legal).mp h)

theorem not_any_detachRows (subId : ℕ) (rows : List RawNode) :
    ((detachRows (fun row => row.subscriptionId=some subId) rows).any
      fun row => row.subscriptionId=some subId)=false := by
  rw [any_eq_false]
  intro row hrow
  obtain ⟨old,-,rfl⟩ := mem_map.mp hrow
  by_cases hsub : old.subscriptionId=some subId
  · simp [hsub,detached]
  · simp [hsub]

theorem dropSubscription_of_separable {subId : ℕ}
    (h : Separable panel.table.rows fun row => row.subscriptionId=some subId) :
    ∃ after : PanelStore, dropSubscription subId panel = .ok after ∧ after.table.rows =
        detachRows (fun row => row.subscriptionId=some subId) panel.table.rows := by
  obtain ⟨table,htable,hrows⟩ := detachWhere_of_separable h
  have hnone := not_any_detachRows subId panel.table.rows
  rw [← hrows] at hnone
  unfold dropSubscription
  rw [htable]
  dsimp only
  rw [hnone]
  exact ⟨_,rfl,hrows⟩

theorem dropSubscription_of_not_separable {subId : ℕ}
    (h : ¬Separable panel.table.rows fun row => row.subscriptionId=some subId) :
    dropSubscription subId panel = .error .integrity := by
  unfold dropSubscription
  rw [detachWhere_of_not_separable h]

/-- A subscription is deleted without a loss exactly where none of its nodes is the same server as
a manual one. -/
theorem deleteSubscription_keeps_iff (panel : PanelStore) (subId : ℕ) :
    KeepsServers panel (fun row => row.subscriptionId=some subId) (deleteSubscription panel subId) ↔
      Separable panel.table.rows fun row => row.subscriptionId=some subId := by
  unfold deleteSubscription transaction
  by_cases h : Separable panel.table.rows fun row => row.subscriptionId=some subId
  · refine iff_of_true ?_ h
    obtain ⟨after,hafter,hrows⟩ := dropSubscription_of_separable h
    rw [hafter]
    exact keepsServers_of_rows rfl hrows
  · refine iff_of_false (fun hkeeps => ?_) h
    rw [dropSubscription_of_not_separable h] at hkeeps
    cases hkeeps.succeeds

/-- The nodes of a list of ids. -/
def listed (ids : List ℤ) (row : RawNode) : Bool := decide ((row.id : ℤ) ∈ ids)

theorem detachRows_cons (id : ℤ) (rest : List ℤ) (rows : List RawNode) :
    detachRows (listed rest) (detachRows (fun row => (row.id : ℤ)=id) rows) =
      detachRows (listed (id::rest)) rows := by
  rw [detachRows_detachRows _ _ fun row => rfl]
  congr 1
  funext row
  simp [listed]

/-- The nodes of a list can be detached when the first can, and then the others. -/
theorem separable_cons_iff (h : Legal rows lastId) (id : ℤ) (rest : List ℤ) :
    Separable rows (listed (id::rest)) ↔ Separable rows (fun row => (row.id : ℤ)=id) ∧
      Separable (detachRows (fun row => (row.id : ℤ)=id) rows) (listed rest) := by
  have htwice := detachRows_cons id rest rows
  constructor
  · intro hall
    have hfst : Separable rows (fun row => (row.id : ℤ)=id) := hall.mono fun row _ hid => by
        have hid' : (row.id : ℤ)=id := of_decide_eq_true hid
        simp [listed,hid']
    refine ⟨hfst,(legal_detachRows_iff ((legal_detachRows_iff h).mpr hfst)).mp ?_⟩
    rw [htwice]
    exact (legal_detachRows_iff h).mpr hall
  · rintro ⟨hfst,hrest⟩
    have hlegal := (legal_detachRows_iff ((legal_detachRows_iff h).mpr hfst)).mpr hrest
    rw [htwice] at hlegal
    exact (legal_detachRows_iff h).mp hlegal

/-- What the loop of `detach_nodes` comes to. -/
theorem detachNodes_spec (panel : PanelStore) (ids : List ℤ) : (detachNodes panel ids).raised=none ∧
        (detachNodes panel ids).panel.table.rows=detachRows (listed ids) panel.table.rows ∧
        (∀ id∈ids, bindable id=true) ∧ Separable panel.table.rows (listed ids) ∨
      (detachNodes panel ids).raised≠none ∧
        ¬((∀ id∈ids, bindable id=true) ∧ Separable panel.table.rows (listed ids)) := by
  induction ids generalizing panel with
  | nil =>
    have hrows : detachRows (listed []) panel.table.rows=panel.table.rows := by
      simp [detachRows,listed]
    have hempty : Separable panel.table.rows (listed []) := by
      intro row _ other _ hleaves
      simp [listed] at hleaves
    exact .inl ⟨rfl,hrows.symm,by simp,hempty⟩
  | cons id rest ih =>
    rw [separable_cons_iff panel.table.legal,forall_mem_cons]
    unfold detachNodes detachNode
    by_cases hbind : bindable id=true
    · rw [if_pos hbind]
      by_cases hfst : Separable panel.table.rows fun row => (row.id : ℤ)=id
      · obtain ⟨table,htable,hrows⟩ := detachWhere_of_separable hfst
        have hrest := ih { panel with table := table }
        rw [hrows,detachRows_cons] at hrest
        rw [htable]
        rcases hrest with ⟨hraised,hafter,hbinds,hseparable⟩ | ⟨hraised,hnot⟩
        · exact .inl ⟨hraised,hafter,⟨hbind,hbinds⟩,hfst,hseparable⟩
        · exact .inr ⟨hraised,fun hall => hnot ⟨hall.1.2,hall.2.2⟩⟩
      · rw [detachWhere_of_not_separable hfst]
        exact .inr ⟨by simp,fun hall => hfst hall.2.1⟩
    · rw [if_neg hbind]
      exact .inr ⟨by simp,fun hall => hbind hall.1.1⟩

/-- A list of nodes is detached without a loss exactly where no two of them, and none of them and a
manual node, are the same server. -/
theorem detachNodes_keeps_iff (panel : PanelStore) (ids : List ℤ) :
    KeepsServers panel (listed ids) (detachNodes panel ids) ↔
      (∀ id∈ids, bindable id=true) ∧ Separable panel.table.rows (listed ids) := by
  rcases detachNodes_spec panel ids with ⟨hraised,hrows,hcond⟩ | ⟨hraised,hcond⟩
  · exact iff_of_true (keepsServers_of_rows hraised hrows) hcond
  · exact iff_of_false (fun hkeeps => hraised hkeeps.succeeds) hcond

/-- For every state of the tables: deleting a subscription and detaching a list of nodes lose no
server exactly where the nodes that become manual ones are all different servers, and none of them
is a manual node already. -/
theorem deletions_keep_servers_iff (panel : PanelStore) (subId : ℕ) (ids : List ℤ) :
    (KeepsServers panel (fun row => row.subscriptionId = some subId)
          (deleteSubscription panel subId) ↔
        Separable panel.table.rows fun row => row.subscriptionId = some subId) ∧
      (KeepsServers panel (listed ids) (detachNodes panel ids) ↔
        (∀ id ∈ ids, bindable id = true) ∧ Separable panel.table.rows (listed ids)) :=
  ⟨deleteSubscription_keeps_iff panel subId,detachNodes_keeps_iff panel ids⟩

/-- A document with two subscriptions. -/
def twoFeeds : Document :=
  { smallDocument [] [] with
    subscriptions := [⟨1, "one", "https://one.example", .null, 3600, true, none⟩,
      ⟨2, "two", "https://two.example", .null, 3600, true, none⟩] }

/-- Two feeds list the same server. -/
def listedTwice : List BackupRuns.Event :=
  [.restore defaultSettings 0 twoFeeds,
    .refresh 1 feedText (List.replicate 40 ⟨true, "", [], none, true⟩) none,
    .refresh 2 feedText (List.replicate 40 ⟨true, "", [], none, true⟩) none]

/-- The server of the feeds, created by hand. -/
def sameServer : NodeIn :=
  { bodyWith "xhttp" "" with address := "b.example", uuid := "v" }

/-- The tables after some events. -/
def reached (events : List BackupRuns.Event) : PanelStore :=
  run (step (feedLibrary "xhttp") (fun _ => "") portCheck) emptyPanel events

/-- Two feeds list a server the operator also created: the first of them cannot be deleted. Without
the created node, the two nodes cannot be detached together, and the first stays detached. -/
theorem shared_server_not_detachable :
    let byHand := reached (listedTwice ++ [.create sameServer])
    (1 ∈ byHand.subscriptions.map Subscription.id ∧
        (deleteSubscription byHand 1).raised = some .integrity) ∧
      (reached listedTwice).table.rows.map (fun row => (row.id, row.subscriptionId)) =
        [(1, some 1), (2, some 2)] ∧
      (detachNodes (reached listedTwice) [1, 2]).raised = some .integrity ∧
      (detachNodes (reached listedTwice) [1, 2]).panel.table.rows.map
        (fun row => (row.id, row.subscriptionId)) = [(1, none), (2, some 2)] := by
  decide +kernel

end Outcomes

section Profiles

/-- An id kept as text under a key: `int` of it, unless it is missing or empty. What cannot be read
or looked up raises. -/
def storedId (panel : PanelStore) (key : String) : Option (Option ℤ) :=
  match panel.table.settings key with
  | none => some none
  | some text =>
    if text = "" then some none
    else
      match pyInt text with
      | some id => if bindable id then some (some id) else none
      | none => none

/-- `get_profile`. -/
def getProfile (panel : PanelStore) (profileId : ℤ) : Option TuningProfile :=
  panel.profiles.find? fun profile => (profile.id : ℤ) = profileId

/-- `get_default_profile`; nothing where it raises. -/
def getDefaultProfile (panel : PanelStore) : Option (Option TuningProfile) :=
  (storedId panel "default_profile_id").map fun id => id.bind (getProfile panel)

/-- `resolve_profile`. -/
def resolveProfile (panel : PanelStore) (row : RawNode) : Option (Option TuningProfile) :=
  match row.tuningProfileId.bind fun id => getProfile panel id with
  | some profile => some (some profile)
  | none => getDefaultProfile panel

/-- `_active_resolved_pid`. -/
def activeResolvedPid (panel : PanelStore) : Option (Option ℕ) :=
  match storedId panel "active_node_id" with
  | none => none
  | some none => some none
  | some (some id) =>
    match panel.table.rows.find? fun row => (row.id : ℤ) = id with
    | none => some none
    | some row => (resolveProfile panel row).map fun profile => profile.map TuningProfile.id

/-- The rows, those with the profile without one. -/
def clearProfile (profileId : ℕ) (rows : List RawNode) : List RawNode :=
  rows.map fun row =>
    { row with tuningProfileId :=
        if row.tuningProfileId = some profileId then none else row.tuningProfileId }

theorem legal_clearProfile (h : Legal rows lastId)
    (profileId : ℕ) : Legal (clearProfile profileId rows) lastId := by
  refine ⟨?_,fun row hrow => ?_,?_,fun row hrow => ?_⟩
  · rw [clearProfile,map_map]
    exact h.ids
  · obtain ⟨old,hold,rfl⟩ := mem_map.mp hrow
    exact h.idsUsed old hold
  · rw [clearProfile,map_map]
    exact h.identities
  · obtain ⟨old,hold,rfl⟩ := mem_map.mp hrow
    exact built_placed (h.built old hold) old.id old.subscriptionId old.stale old.position _ old.note

/-- The statements of `delete_profile` of the store. -/
def dropProfile (profileId : ℕ) (panel : PanelStore) : Except SqlError PanelStore :=
  let rows := clearProfile profileId panel.table.rows
  -- The foreign keys of the nodes and of the subscriptions are checked as the profile goes.
  if (rows.any fun row => row.tuningProfileId = some profileId) ∨
      (panel.subscriptions.any fun sub => sub.defaultProfileId = some profileId) then
    .error .integrity
  else .ok { panel with
    table := { panel.table with rows := rows, legal := legal_clearProfile panel.table.legal _ }
    profiles := panel.profiles.filter fun profile => profile.id ≠ profileId
    profiles_legal := legalIds_filter _ panel.profiles_legal }

/-- `DELETE /profiles/…`, where the configuration is applied again with the given error, if any.
What raises rolls the transaction back. -/
def deleteProfile (reapply : Option String) (panel : PanelStore) (profileId : ℕ) :
    Except Refusal PanelStore :=
  match getDefaultProfile panel with
  | none => .error serverError
  | some profile =>
    if profile.map TuningProfile.id = some profileId then
      .error ⟨409, "cannot delete the default profile"⟩
    else
      match activeResolvedPid panel, dropProfile profileId panel with
      | none, _ => .error serverError
      | _, .error _ => .error serverError
      | some live, .ok after =>
        match if live = some profileId then reapply else none with
        | some why => .error ⟨502, why⟩
        | none => .ok after

/-- Nothing refers to the profile: no node, no subscription and not the stored default. -/
structure Unreferenced (panel : PanelStore) (profileId : ℕ) : Prop where
  nodes : ∀ row ∈ panel.table.rows, row.tuningProfileId ≠ some profileId
  subscriptions : ∀ sub ∈ panel.subscriptions, sub.defaultProfileId ≠ some profileId
  setting : storedId panel "default_profile_id" ≠ some (some (profileId : ℤ))

/-- The profile can be deleted: the stored ids can be read, no subscription gives the profile to
its new nodes, and where the active node uses it the configuration can be applied again. -/
structure Deletable (panel : PanelStore) (profileId : ℕ) (reapply : Option String) : Prop where
  default_read : storedId panel "default_profile_id" ≠ none
  active_read : storedId panel "active_node_id" ≠ none
  unused : ∀ sub ∈ panel.subscriptions, sub.defaultProfileId ≠ some profileId
  applied : activeResolvedPid panel = some (some profileId) → reapply = none

variable {panel : PanelStore} {reapply : Option String} {profile : TuningProfile}

theorem not_any_clearProfile (profileId : ℕ) (rows : List RawNode) :
    ((clearProfile profileId rows).any fun row => row.tuningProfileId=some profileId)=false := by
  rw [any_eq_false]
  intro row hrow
  obtain ⟨old,-,rfl⟩ := mem_map.mp hrow
  by_cases hprof : old.tuningProfileId=some profileId
  · simp [hprof]
  · simp [hprof]

section

variable (h : profile ∈ panel.profiles)

include h

theorem getProfile_self : getProfile panel profile.id=some profile := by
  cases hfound : getProfile panel profile.id with
  | none =>
    have hmiss := find?_eq_none.mp hfound profile h
    simp at hmiss
  | some other =>
    have hid : (other.id : ℤ)=profile.id := by
      simpa using find?_some hfound
    have hother := mem_of_find?_eq_some hfound
    rw [inj_on_of_nodup_map panel.profiles_legal.1 hother h (Int.natCast_inj.mp hid)]

/-- The stored default does not name a profile that is not the default. -/
theorem storedId_ne_of_not_default (hother : getDefaultProfile panel≠some (some profile)) :
    storedId panel "default_profile_id" ≠ some (some (profile.id : ℤ)) := by
  intro hstored
  refine hother ?_
  rw [getDefaultProfile,hstored,Option.map_some,Option.bind_some,getProfile_self h]

theorem default_id_ne
    (hother : getDefaultProfile panel≠some (some profile)) {found : Option TuningProfile}
    (hfound : getDefaultProfile panel=some found) :
    found.map TuningProfile.id≠some profile.id := by
  intro hsame
  obtain ⟨other,rfl,hid⟩ := Option.map_eq_some_iff.mp hsame
  rw [getDefaultProfile] at hfound
  obtain ⟨id,-,hbind⟩ := Option.map_eq_some_iff.mp hfound
  obtain ⟨number,-,hget⟩ := Option.bind_eq_some_iff.mp hbind
  have hmem := mem_of_find?_eq_some hget
  have hsame := inj_on_of_nodup_map panel.profiles_legal.1 hmem h hid
  rw [← getDefaultProfile,hsame] at hfound
  exact hother hfound

end

theorem activeResolvedPid_eq_none_iff (h : storedId panel "default_profile_id" ≠ none) :
    activeResolvedPid panel=none ↔ storedId panel "active_node_id" = none := by
  have hdef : getDefaultProfile panel≠none := by
    rw [getDefaultProfile,Ne,Option.map_eq_none_iff]
    exact h
  unfold activeResolvedPid
  split
  next hact =>
    simp [hact]
  next hact =>
    simp [hact]
  next id hact =>
    rw [hact]
    split
    · simp
    next row _ =>
      unfold resolveProfile
      split
      · simp
      · simp [hdef]

/-- A profile without a subscription that refers to it goes, and the references of the nodes with
it. -/
theorem dropProfile_of_unused {profileId : ℕ}
    (h : ∀ sub∈panel.subscriptions, sub.defaultProfileId≠some profileId)
    (hsetting : storedId panel "default_profile_id" ≠ some (some (profileId : ℤ))) :
    ∃ after, dropProfile profileId panel = .ok after ∧ Unreferenced after profileId := by
  have hsubs : (panel.subscriptions.any fun sub => sub.defaultProfileId=some profileId)=false := by
    rw [any_eq_false]
    intro sub hsub
    simpa using h sub hsub
  have hnodes := not_any_clearProfile profileId panel.table.rows
  unfold dropProfile
  simp only [hnodes,hsubs,Bool.false_eq_true,or_self,if_false]
  refine ⟨_,rfl,fun row hrow => ?_,h,hsetting⟩
  have hrow' := any_eq_false.mp hnodes row hrow
  simpa using hrow'

theorem dropProfile_of_used {profileId : ℕ}
    (h : ¬∀ sub∈panel.subscriptions, sub.defaultProfileId≠some profileId) :
    dropProfile profileId panel = .error .integrity := by
  push Not at h
  obtain ⟨sub,hsub,hused⟩ := h
  refine if_pos (.inr ?_)
  exact any_eq_true.mpr ⟨sub,hsub,by simp [hused]⟩

/-- For every state of the tables, every profile that is not the default one and every outcome of
applying the configuration again: the route deletes the profile with nothing left that refers to it
exactly where it is deletable. -/
theorem deleteProfile_clean_iff (panel : PanelStore) (reapply : Option String)
    (profile : TuningProfile) (hprof : profile ∈ panel.profiles)
    (hother : getDefaultProfile panel ≠ some (some profile)) :
    (∃ after, deleteProfile reapply panel profile.id = .ok after ∧
        Unreferenced after profile.id) ↔ Deletable panel profile.id reapply := by
  constructor
  · rintro ⟨after,hafter,-⟩
    unfold deleteProfile at hafter
    split at hafter
    · cases hafter
    next found hfound =>
      have hdef : storedId panel "default_profile_id" ≠ none := by
        intro hnone
        rw [getDefaultProfile,hnone] at hfound
        cases hfound
      rw [if_neg (default_id_ne hprof hother hfound)] at hafter
      split at hafter
      · cases hafter
      · cases hafter
      next live dropped hlive hdropped =>
        refine ⟨hdef,?_,?_,?_⟩
        · rw [Ne,← activeResolvedPid_eq_none_iff hdef,hlive]
          simp
        · by_contra hused
          rw [dropProfile_of_used hused] at hdropped
          cases hdropped
        · intro hact
          rw [hlive,Option.some.injEq] at hact
          rw [if_pos hact] at hafter
          cases reapply with
          | none => rfl
          | some why => cases hafter
  · intro h
    obtain ⟨after,hafter,hclean⟩ :=
      dropProfile_of_unused h.unused (storedId_ne_of_not_default hprof hother)
    refine ⟨after,?_,hclean⟩
    obtain ⟨found,hfound⟩ : ∃ found, getDefaultProfile panel=some found := by
      refine Option.ne_none_iff_exists'.mp ?_
      rw [getDefaultProfile,Ne,Option.map_eq_none_iff]
      exact h.default_read
    obtain ⟨live,hlive⟩ : ∃ live, activeResolvedPid panel=some live :=
      Option.ne_none_iff_exists'.mp (mt (activeResolvedPid_eq_none_iff h.default_read).mp h.active_read)
    have hquiet : (if live=some profile.id then reapply else none)=none := by
      split
      next hused =>
        exact h.applied (hused ▸ hlive)
      · rfl
    unfold deleteProfile
    rw [hfound]
    dsimp only
    rw [if_neg (default_id_ne hprof hother hfound),hlive,hafter]
    dsimp only
    rw [hquiet]

/-- A second profile. -/
def spareProfile : TuningProfile := { legacyDefaultProfile with id := 2, name := "spare" }

/-- A document with two profiles, one of them given to the new nodes of a subscription if asked. -/
def twoProfiles (given : Option ℕ) : Document :=
  { smallDocument [] [] with
    subscriptions := [⟨1, "feed", "https://feed.example", .null, 3600, true, given⟩]
    profiles := [legacyDefaultProfile, spareProfile]
    settings := [("default_profile_id", .number 1)] }

theorem deleteProfile_clean_iff_spare :
    let panel := reached [.restore defaultSettings 0 (twoProfiles none)]
    spareProfile ∈ panel.profiles ∧ getDefaultProfile panel ≠ some (some spareProfile) ∧
      ∃ after, deleteProfile none panel 2 = .ok after ∧ Unreferenced after 2 := by
  have hprof : spareProfile ∈
      (reached [.restore defaultSettings 0 (twoProfiles none)]).profiles := by decide +kernel
  have hother : getDefaultProfile (reached [.restore defaultSettings 0 (twoProfiles none)]) ≠
      some (some spareProfile) := by decide +kernel
  refine ⟨hprof,hother,(deleteProfile_clean_iff _ none spareProfile hprof hother).mpr ?_⟩
  exact ⟨by decide +kernel,by decide +kernel,by decide +kernel,by decide +kernel⟩

/-- A profile a subscription gives to its new nodes cannot be deleted, default or not. -/
theorem given_profile_not_deletable :
    let panel := reached [.restore defaultSettings 0 (twoProfiles (some 2))]
    spareProfile ∈ panel.profiles ∧ getDefaultProfile panel = some (some legacyDefaultProfile) ∧
      activeResolvedPid panel = some none ∧ (deleteProfile none panel 2).isOk = false := by
  decide +kernel

end Profiles

end PiGwPanel.PanelDeletions
