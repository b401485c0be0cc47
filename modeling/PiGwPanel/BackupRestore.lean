import PiGwPanel.BackupDocument

/-!
# Exporting a store and restoring it

Export, validation and restore list the columns of every table separately. The
round trip follows each of them: what an exported document puts back into any
store, which settings the receiving box overrules, and where the columns of the
restore fall short of those of the export.
-/

namespace PiGwPanel.BackupRestore

open Models PyText ConfigStore BackupDocument SegmentRuleset StableFirstMatch List

/-- The columns of a subscription an export writes. -/
def subscriptionDict (sub : Subscription) : BackupSubscription where
  id := sub.id
  name := sub.name
  url := sub.url
  injection := sub.injection
  intervalSec := sub.intervalSec
  enabled := sub.enabled
  defaultProfileId := sub.defaultProfileId

/-- The columns of a routing rule an export writes. -/
def ruleDict (rule : RoutingRule) : BackupRule where
  type := rule.type
  value := rule.value
  action := rule.action
  enabled := rule.enabled
  label := rule.label
  dataset := rule.dataset

/-- The columns of a reservation an export writes. -/
def reservationDict (res : Reservation) : BackupReservation where
  mac := res.mac
  ip := res.ip
  name := res.name

/-- `export_state`. -/
def exportState (store : Store) : Document where
  schemaVersion := backupSchema
  createdAt := none
  nodes := store.listNodes
  subscriptions := store.listSubscriptions.map subscriptionDict
  profiles := store.listProfiles
  rules := store.getRouting.map ruleDict
  defaultAction := some (store.settingOr "routing_default_action" "proxy")
  reservations := store.listReservations.map reservationDict
  settings := settingsKeys.filterMap fun key =>
    (store.getSetting key).map fun value => (key, .text value)

/-- The row the restore inserts for a subscription: what the document leaves out takes the
column's default. -/
def subscriptionRow (sub : BackupSubscription) : Subscription where
  id := sub.id
  name := sub.name
  url := sub.url
  injection := sub.injection
  intervalSec := sub.intervalSec
  enabled := sub.enabled
  defaultProfileId := sub.defaultProfileId

/-- The row the restore inserts for a rule. Its column list has no `dataset`, so the column's
default is stored. -/
def ruleRow (rule : BackupRule) (index : ℕ) : RoutingRule where
  id := none
  position := index
  type := rule.type
  value := rule.value
  action := rule.action
  enabled := rule.enabled
  label := rule.label

/-- The row the restore inserts for a reservation. -/
def reservationRow (now : ℕ) (res : BackupReservation) : Reservation where
  mac := plainMac res.mac
  ip := stripText res.ip
  name := res.name
  createdAt := now
  mac_plain := toLower_stripText_idem res.mac
  ip_plain := stripText_idem res.ip

/-- The settings a document asks for, without those a restore never takes from it. -/
def documentSettings (doc : Document) (key : String) : Option String :=
  if key ∈ settingsNeverBackedUp ∨ key = "routing_default_action" then none
  else (doc.setting key).map SettingValue.stored

/-- The key material the receiving store holds. -/
structure LocalKeys where
  (privateKey publicKey : String)

/-- The two halves as the restore reads them before it clears the settings. -/
def localKeys (store : Store) : LocalKeys where
  privateKey := stripText ((store.getSetting "rw_private_key").getD "")
  publicKey := stripText ((store.getSetting "rw_public_key").getD "")

section

variable (keys : LocalKeys) (settings : String → Option String)

/-- The document's public key is the one this box already holds. -/
def LocalKeys.verified : Bool :=
  (settings "rw_public_key").getD "" = keys.publicKey

/-- The public key after the restore. -/
def restoredPublicKey : Option String :=
  if !keys.verified settings && !(keys.privateKey = "" && keys.publicKey = "") then
    if keys.publicKey ≠ "" then some keys.publicKey else none
  else settings "rw_public_key"

/-- Why remote access does not come back enabled; empty when it does or was not asked for. -/
def rwDisabled : String :=
  if settings "rw_enabled" = some "1" then
    if keys.privateKey = "" then "no local Reality private key"
    else if keys.publicKey = "" then
      "no local Reality public key to check the restored one against"
    else if !keys.verified settings then
      "the restored public key does not match the local private key"
    else ""
  else ""

/-- The settings the restore writes. -/
def restoredSettings (key : String) : Option String :=
  if key = "rw_public_key" then restoredPublicKey keys settings
  else if key = "rw_enabled" ∧ rwDisabled keys settings ≠ "" then some "0"
  else settings key

end

/-- The settings table after the restore: the allow-listed keys are replaced as a whole, every
other key stays. -/
def settingsAfter (store : Store) (action : String) (restored : String → Option String)
    (key : String) : Option String :=
  if key = "routing_default_action" then some action
  else if (restored key).isSome ∨ key ∈ settingsKeys then restored key
  else store.settings key

/-- What the restore reports. -/
structure ImportSummary where
  (nodes subscriptions profiles routingRules : ℕ)
  rwDisabled : String
  deriving DecidableEq, Repr

/-- A row its table refuses, for a key that repeats or an id it cannot hold. -/
def constraintFailed (table : String) : String := "UNIQUE constraint failed: " ++ table

/-- A row that refers to one its table does not hold. -/
def foreignKeyFailed : String := "FOREIGN KEY constraint failed"

/-- The foreign key of the table `subscriptions`. -/
def SubscriptionsRefer (profiles : List TuningProfile) (subscriptions : List Subscription) :
    Prop :=
  ∀ sub ∈ subscriptions, ∀ id ∈ sub.defaultProfileId, id ∈ profiles.map TuningProfile.id

instance (profiles : List TuningProfile) (subscriptions : List Subscription) :
    Decidable (SubscriptionsRefer profiles subscriptions) :=
  inferInstanceAs (Decidable (∀ sub ∈ subscriptions, _))

/-- The foreign keys of the table `nodes`. -/
def NodesRefer (profiles : List TuningProfile) (subscriptions : List Subscription)
    (nodes : List Node) : Prop :=
  ∀ node ∈ nodes, (∀ id ∈ node.subscriptionId, id ∈ subscriptions.map Subscription.id) ∧
    ∀ id ∈ node.tuningProfileId, id ∈ profiles.map TuningProfile.id

instance (profiles : List TuningProfile) (subscriptions : List Subscription)
    (nodes : List Node) : Decidable (NodesRefer profiles subscriptions nodes) :=
  inferInstanceAs (Decidable (∀ node ∈ nodes, _ ∧ _))

/-- The writes of `import_state`, one transaction: an insert the schema refuses leaves the store
as it was. -/
def writeDocument (now : ℕ) (store : Store) (doc : Document) :
    Except String (Store × ImportSummary) :=
  let nodes := doc.nodes.map Node.normalize
  let subscriptions := doc.subscriptions.map subscriptionRow
  let rules := doc.rules.zipIdx.map fun (rule, index) => ruleRow rule index
  let reservations := doc.reservations.map (reservationRow now)
  let keys := localKeys store
  let settings := documentSettings doc
  if hprofs : LegalIds (doc.profiles.map TuningProfile.id) then
    if hsubs : LegalIds (subscriptions.map Subscription.id) then
      if SubscriptionsRefer doc.profiles subscriptions then
        if hnodes : LegalNodes nodes then
          if NodesRefer doc.profiles subscriptions nodes then
            if hrules : (rules.map RoutingRule.position).Nodup then
              if hres : LegalReservations reservations then
                .ok ({ nodes := nodes
                       subscriptions := subscriptions
                       profiles := doc.profiles
                       rules := rules
                       reservations := reservations
                       settings := settingsAfter store (doc.defaultAction.getD "proxy")
                         (restoredSettings keys settings)
                       nodes_legal := hnodes
                       subscriptions_legal := hsubs
                       profiles_legal := hprofs
                       rules_legal := hrules
                       reservations_legal := hres },
                     { nodes := nodes.length
                       subscriptions := subscriptions.length
                       profiles := doc.profiles.length
                       routingRules := rules.length
                       rwDisabled := rwDisabled keys settings })
              else .error (constraintFailed "dhcp_reservations")
            else .error (constraintFailed "routing_rules")
          else .error foreignKeyFailed
        else .error (constraintFailed "nodes")
      else .error foreignKeyFailed
    else .error (constraintFailed "subscriptions")
  else .error (constraintFailed "tuning_profiles")

/-- `import_state`: validate fully, then write. -/
def importState (checks : SettingChecks) (text : IpText) (now : ℕ) (store : Store)
    (doc : Document) : Except String (Store × ImportSummary) := do
  let validated ← validateDocument checks text doc
  writeDocument now store validated

/-- The allow-listed keys an exported document holds are those of the store. -/
theorem exportState_setting (store : Store) (key : String) : (exportState store).setting key =
      if key∈settingsKeys then (store.getSetting key).map SettingValue.text else none := by
  have hlook (keys : List String) :
      (keys.filterMap fun k => (store.getSetting k).map fun v => (k, SettingValue.text v)).lookup
          key =
        if key∈keys then (store.getSetting key).map SettingValue.text else none := by
    induction keys with
    | nil => rfl
    | cons k rest ih =>
      by_cases hk : key=k
      · subst hk
        cases hval : store.getSetting key with
        | none => simp [hval,ih]
        | some value => simp [hval]
      · have hbeq : (key == k)=false := by simpa using hk
        cases hval : store.getSetting k with
        | none => simp [hval,ih,hk]
        | some value => simp [hval,lookup_cons,hbeq,ih,hk]
  exact hlook settingsKeys

variable {store target : Store} {action key : String} {doc : Document}

/-- The default action of an export agrees with its settings, whatever it is. -/
theorem reconcileDefaultAction_exportState
    (h : reconcileDefaultAction (exportState store)=some action) :
    some action=(exportState store).defaultAction := by
  unfold reconcileDefaultAction at h
  rw [exportState_setting,if_pos (by decide)] at h
  cases hraw : store.getSetting "routing_default_action" with
  | none =>
    simp only [hraw,Option.map_none,exportState,Option.getD_some,Option.some.injEq] at h
    simp only [exportState,h]
  | some raw =>
    simp only [hraw,Option.map_some,exportState] at h
    split at h
    · exact h.symm
    · exact absurd h (by simp)

/-- A document that passed validation, with the facts the restore relies on. -/
theorem validateDocument_exportState {checks : SettingChecks} {text : IpText}
    (h : validateDocument checks text (exportState store) = .ok doc) :
    doc=exportState store ∧ referencesIssue (exportState store)=none := by
  have hlegacy : normalizeLegacyEmptyProfiles (exportState store)=exportState store := by
    simp [normalizeLegacyEmptyProfiles,exportState,backupSchema]
  simp only [validateDocument,hlegacy] at h
  split at h
  · exact absurd h (by simp)
  · split at h
    · exact absurd h (by simp)
    next hrefs =>
      split at h
      · exact absurd h (by simp)
      next action haction =>
        split at h
        · exact absurd h (by simp)
        · have haction' := reconcileDefaultAction_exportState haction
          refine ⟨?_,hrefs⟩
          rw [haction'] at h
          exact (Except.ok.inj h).symm

theorem nodup_of_referencesIssue (h : referencesIssue doc=none) :
    (doc.nodes.map nodeIdentity).Nodup := by
  simp only [referencesIssue,Option.orElse_eq_none] at h
  obtain ⟨-,-,-,-,hnodes,-⟩ := h
  rw [findSome?_eq_none_iff] at hnodes
  rw [List.Nodup,pairwise_map,pairwise_iff_getElem]
  intro i j hi hj hij heq
  have hmem : (doc.nodes[j], j)∈doc.nodes.zipIdx := by
    rw [mk_mem_zipIdx_iff_getElem?,getElem?_eq_getElem hj]
  have hone := hnodes _ hmem
  simp only [nodeReferencesIssue,Option.orElse_eq_none] at hone
  have hpre : nodeIdentity doc.nodes[j]∈(doc.nodes.take j).map nodeIdentity := by
    rw [← heq]
    apply mem_map_of_mem
    rw [mem_take_iff_getElem]
    exact ⟨i,by omega,rfl⟩
  rw [if_pos hpre] at hone
  exact absurd hone.2.2 (by simp)

theorem mem_of_referenceIssue {owner target : String} {ids : List ℕ} {reference : Option ℕ}
    (h : referenceIssue owner target ids reference=none) : ∀ id∈reference, id∈ids := by
  intro id hid
  rw [Option.mem_def.mp hid] at h
  by_contra hmiss
  simp [referenceIssue,hmiss] at h

theorem normalize_references (node : Node) : node.normalize.subscriptionId=node.subscriptionId ∧
      node.normalize.tuningProfileId=node.tuningProfileId := by
  unfold Node.normalize
  split <;> exact ⟨rfl,rfl⟩

theorem map_id_subscriptionRow (subscriptions : List BackupSubscription) :
    (subscriptions.map subscriptionRow).map Subscription.id =
      subscriptions.map BackupSubscription.id :=
  map_map

theorem refer_of_referencesIssue (h : referencesIssue doc=none) :
    SubscriptionsRefer doc.profiles (doc.subscriptions.map subscriptionRow) ∧
      NodesRefer doc.profiles (doc.subscriptions.map subscriptionRow)
        (doc.nodes.map Node.normalize) := by
  simp only [referencesIssue,Option.orElse_eq_none] at h
  obtain ⟨-,-,-,hsubs,hnodes,-⟩ := h
  rw [findSome?_eq_none_iff] at hsubs hnodes
  constructor
  · intro row hrow
    obtain ⟨sub,hsub,rfl⟩ := mem_map.mp hrow
    exact mem_of_referenceIssue (hsubs sub hsub)
  · intro row hrow
    obtain ⟨node,hnode,rfl⟩ := mem_map.mp hrow
    obtain ⟨index,hindex⟩ := getElem?_of_mem hnode
    have hone := hnodes (node, index) (mk_mem_zipIdx_iff_getElem?.mpr hindex)
    simp only [nodeReferencesIssue,Option.orElse_eq_none] at hone
    rw [(normalize_references node).1,(normalize_references node).2,map_id_subscriptionRow]
    exact ⟨mem_of_referenceIssue hone.1,mem_of_referenceIssue hone.2.1⟩

theorem LegalIds.sorted {α κ : Type} [LinearOrder κ] {key : α → κ} {id : α → ℕ} {rows : List α}
    (h : LegalIds (rows.map id)) : LegalIds ((sortByKey key rows).map id) := by
  have hperm := (sortByKey_perm key rows).map id
  exact ⟨hperm.nodup_iff.mpr h.1,fun i hi => h.2 i (hperm.mem_iff.mp hi)⟩

theorem nodeOrder_normalize (node : Node) : nodeOrder node.normalize=nodeOrder node := by
  unfold Node.normalize
  split <;> rfl

theorem listNodes_map_normalize (store : Store) :
    store.listNodes.map Node.normalize=store.listNodes := by
  unfold Store.listNodes
  rw [map_map]
  exact map_congr_left fun node _ => node.normalize_idem

theorem sortByKey_listNodes (store : Store) :
    sortByKey nodeOrder store.listNodes=store.listNodes := by
  apply sortByKey_of_pairwise
  unfold Store.listNodes
  rw [pairwise_map]
  simp only [nodeOrder_normalize]
  exact sortByKey_pairwise nodeOrder store.nodes

theorem legalNodes_listNodes (h : referencesIssue (exportState store)=none) :
    LegalNodes store.listNodes := by
  refine ⟨?_,nodup_of_referencesIssue h⟩
  have hids : store.listNodes.map Node.id=(sortByKey nodeOrder store.nodes).map Node.id := by
    unfold Store.listNodes
    rw [map_map]
    exact map_congr_left fun node _ => Node.normalize_id node
  rw [hids]
  exact LegalIds.sorted store.nodes_legal.1

theorem reservationDict_reservationRow (now : ℕ) (res : Reservation) :
    reservationDict (reservationRow now (reservationDict res))=reservationDict res := by
  simp only [reservationDict,reservationRow,res.mac_plain,res.ip_plain]

theorem map_position_ruleRow (rules : List BackupRule) :
    (rules.zipIdx.map fun (rule, index) => ruleRow rule index).map RoutingRule.position =
      (List.range rules.length).map Nat.cast := by
  rw [map_map,range_eq_range',← zipIdx_map_snd 0 rules,map_map]
  rfl

/-- Restored rules are read back in the order they were inserted. -/
theorem sortByKey_ruleRow (rules : List BackupRule) :
    sortByKey RoutingRule.position (rules.zipIdx.map fun (rule, index) => ruleRow rule index) =
      rules.zipIdx.map fun (rule, index) => ruleRow rule index := by
  apply sortByKey_of_pairwise
  rw [← pairwise_map (f := RoutingRule.position) (R := fun a b => a≤b),
    map_position_ruleRow,pairwise_map]
  exact pairwise_lt_range.imp fun h => Int.ofNat_le.mpr h.le

/-- Everything a rule says apart from the dataset it reads. -/
def withoutDataset (rule : BackupRule) : BackupRule := { rule with dataset := "" }

theorem map_ruleDict_ruleRow (rules : List BackupRule) :
    (rules.zipIdx.map fun (rule, index) => ruleRow rule index).map ruleDict =
      rules.map withoutDataset := by
  have hfst := congrArg (map withoutDataset) (zipIdx_map_fst 0 rules)
  rw [← hfst,map_map,map_map]
  rfl

/-- What a store holds after an export of `store` was restored into `target`. -/
structure Restores (store target after : Store) : Prop where
  nodes : after.listNodes = store.listNodes
  subscriptions : after.listSubscriptions.map subscriptionDict =
    store.listSubscriptions.map subscriptionDict
  profiles : after.listProfiles = store.listProfiles
  defaultProfile : after.getDefaultProfile = store.getDefaultProfile
  rules : after.getRouting.map (withoutDataset ∘ ruleDict) =
    store.getRouting.map (withoutDataset ∘ ruleDict)
  reservations : after.listReservations.map reservationDict =
    store.listReservations.map reservationDict
  /-- Every allow-listed setting but three comes back as it was. -/
  settings : ∀ key ∈ settingsKeys, key ≠ "routing_default_action" → key ≠ "rw_public_key" →
    key ≠ "rw_enabled" → after.getSetting key = store.getSetting key
  /-- The default action is written out, also where the exported store left it unset. -/
  defaultAction : after.getSetting "routing_default_action" =
    some (store.settingOr "routing_default_action" "proxy")
  /-- The public key comes back when it is the receiving box's own or the box has no key
  material; otherwise the box keeps what it has. -/
  publicKey : after.getSetting "rw_public_key" =
    if (store.getSetting "rw_public_key").getD "" = (localKeys target).publicKey ∨
        ((localKeys target).privateKey = "" ∧ (localKeys target).publicKey = "") then
      store.getSetting "rw_public_key"
    else if (localKeys target).publicKey = "" then none
    else some (localKeys target).publicKey
  /-- Remote access comes back enabled only on a box that holds the matching pair. -/
  enabled : after.getSetting "rw_enabled" =
    if store.getSetting "rw_enabled" = some "1" ∧
        ((localKeys target).privateKey = "" ∨ (localKeys target).publicKey = "" ∨
          (store.getSetting "rw_public_key").getD "" ≠ (localKeys target).publicKey) then
      some "0"
    else store.getSetting "rw_enabled"

/-- What a document asks for under an allow-listed key is what the store held. -/
theorem documentSettings_exportState (store : Store) (hkey : key∈settingsKeys)
    (haction : key ≠ "routing_default_action") :
    documentSettings (exportState store) key=store.getSetting key := by
  have hbacked : key∉settingsNeverBackedUp := by
    intro hnever
    have hdisjoint : settingsNeverBackedUp.all fun k => k∉settingsKeys := by decide
    have hout := all_eq_true.mp hdisjoint key hnever
    exact absurd hkey (by simpa using hout)
  unfold documentSettings
  rw [if_neg (by simp [hbacked,haction]),exportState_setting,if_pos hkey]
  cases store.getSetting key with
  | none => rfl
  | some value => rfl

/-- The settings table after an export was restored, at an allow-listed key. -/
theorem settingsAfter_of_mem {restored : String → Option String} (hkey : key∈settingsKeys)
    (haction : key ≠ "routing_default_action") :
    settingsAfter target action restored key=restored key := by
  unfold settingsAfter
  rw [if_neg haction,if_pos (.inr hkey)]

/-- The rows a restore of an export inserts, table by table. -/
structure Inserted (store target : Store) (now : ℕ) (after : Store) : Prop where
  nodes : after.nodes = store.listNodes
  subscriptions : after.subscriptions =
    (store.listSubscriptions.map subscriptionDict).map subscriptionRow
  profiles : after.profiles = store.listProfiles
  rules : after.rules =
    (store.getRouting.map ruleDict).zipIdx.map fun (rule, index) => ruleRow rule index
  reservations : after.reservations =
    (store.listReservations.map reservationDict).map (reservationRow now)
  settings : after.settings =
    settingsAfter target (store.settingOr "routing_default_action" "proxy")
      (restoredSettings (localKeys target) (documentSettings (exportState store)))

theorem writeDocument_exportState (now : ℕ) (target : Store)
    (hrefs : referencesIssue (exportState store)=none) :
    ∃ after summary, writeDocument now target (exportState store) = .ok (after, summary) ∧
      Inserted store target now after := by
  have hprofs : LegalIds (store.listProfiles.map TuningProfile.id) :=
    LegalIds.sorted store.profiles_legal
  have hsubs : LegalIds (((store.listSubscriptions.map subscriptionDict).map subscriptionRow).map
        Subscription.id) := by
    rw [map_map,map_map]
    exact LegalIds.sorted store.subscriptions_legal
  have hnodes : LegalNodes (store.listNodes.map Node.normalize) := by
    rw [listNodes_map_normalize]
    exact legalNodes_listNodes hrefs
  have hrules : (((store.getRouting.map ruleDict).zipIdx.map
      fun (rule, index) => ruleRow rule index).map RoutingRule.position).Nodup := by
    rw [map_position_ruleRow]
    exact nodup_range.map Nat.cast_injective
  have hres : LegalReservations
      ((store.listReservations.map reservationDict).map (reservationRow now)) := by
    have hperm := sortByKey_perm Reservation.ip store.reservations
    have hmac : (((store.listReservations.map reservationDict).map (reservationRow now)).map
        Reservation.mac)=store.listReservations.map Reservation.mac := by
      rw [map_map,map_map]
      exact map_congr_left fun res _ => res.mac_plain
    have hip : (((store.listReservations.map reservationDict).map (reservationRow now)).map
        Reservation.ip)=store.listReservations.map Reservation.ip := by
      rw [map_map,map_map]
      exact map_congr_left fun res _ => res.ip_plain
    refine ⟨?_,?_⟩
    · rw [hmac]
      exact (hperm.map _).nodup_iff.mpr store.reservations_legal.1
    · rw [hip]
      exact (hperm.map _).nodup_iff.mpr store.reservations_legal.2
  obtain ⟨hsubRefs,hnodeRefs⟩ := refer_of_referencesIssue hrefs
  refine ⟨_,_,(dif_pos hprofs).trans <| (dif_pos hsubs).trans <| (if_pos hsubRefs).trans <|
    (dif_pos hnodes).trans <| (if_pos hnodeRefs).trans <| (dif_pos hrules).trans (dif_pos hres), ?_⟩
  exact ⟨listNodes_map_normalize store,rfl,rfl,rfl,rfl,rfl⟩

/-- The default profile is looked up by id, so the order of the table does not matter. -/
theorem find?_listProfiles (store : Store) (id : ℤ) :
    store.listProfiles.find? (fun profile => (profile.id : ℤ)=id)=store.getProfile id := by
  apply find?_sortByKey_of_unique
  intro a ha b hb hida hidb
  have heq : (a.id : ℤ)=b.id := (of_decide_eq_true hida).trans (of_decide_eq_true hidb).symm
  exact inj_on_of_nodup_map store.profiles_legal.1 ha hb (Int.ofNat_inj.mp heq)

theorem restoredSettings_of_ne {keys : LocalKeys} {settings : String → Option String}
    (hpublic : key ≠ "rw_public_key") (hon : key ≠ "rw_enabled") :
    restoredSettings keys settings key=settings key := by
  unfold restoredSettings
  rw [if_neg hpublic,if_neg (fun h => hon h.1)]

/-- The restored public key, by what the receiving box holds. -/
theorem restoredPublicKey_eq (keys : LocalKeys) (settings : String → Option String) :
    restoredPublicKey keys settings =
      if (settings "rw_public_key").getD "" = keys.publicKey ∨
          (keys.privateKey = "" ∧ keys.publicKey = "") then
        settings "rw_public_key"
      else if keys.publicKey = "" then none
      else some keys.publicKey := by
  unfold restoredPublicKey LocalKeys.verified
  by_cases hpair : (settings "rw_public_key").getD "" = keys.publicKey
  · simp [hpair]
  · by_cases hnone : keys.privateKey = "" ∧ keys.publicKey = ""
    · simp [hnone]
    · by_cases hpub : keys.publicKey = ""
      · simp_all
      · simp [hpair,hpub]

/-- When the restore refuses to bring remote access back enabled. -/
theorem rwDisabled_ne_empty (keys : LocalKeys) (settings : String → Option String) :
    rwDisabled keys settings ≠ "" ↔ settings "rw_enabled" = some "1" ∧
      (keys.privateKey = "" ∨ keys.publicKey = "" ∨
        (settings "rw_public_key").getD "" ≠ keys.publicKey) := by
  unfold rwDisabled LocalKeys.verified
  split_ifs with h1 h2 h3 h4 <;> simp_all

theorem Inserted.restores {after : Store} {now : ℕ} (h : Inserted store target now after) :
    Restores store target after := by
  have hsetting {key : String} (hkey : key∈settingsKeys)
      (haction : key ≠ "routing_default_action") : after.getSetting key =
        restoredSettings (localKeys target) (documentSettings (exportState store)) key := by
    rw [Store.getSetting,h.settings,settingsAfter_of_mem hkey haction]
  have hplain {key : String} (hkey : key∈settingsKeys) (haction : key ≠ "routing_default_action")
      (hpublic : key ≠ "rw_public_key") (henabled : key ≠ "rw_enabled") :
      after.getSetting key=store.getSetting key := by
    rw [hsetting hkey haction,restoredSettings_of_ne hpublic henabled,
      documentSettings_exportState store hkey haction]
  have hpub : documentSettings (exportState store) "rw_public_key" =
      store.getSetting "rw_public_key" :=
    documentSettings_exportState store (by decide) (by decide)
  have hon : documentSettings (exportState store) "rw_enabled" = store.getSetting "rw_enabled" :=
    documentSettings_exportState store (by decide) (by decide)
  refine
    { nodes := ?_, subscriptions := ?_, profiles := ?_, defaultProfile := ?_, rules := ?_,
      reservations := ?_, settings := fun key => hplain, defaultAction := ?_, publicKey := ?_,
      enabled := ?_ }
  · rw [Store.listNodes,h.nodes,sortByKey_listNodes,listNodes_map_normalize]
  · have hsorted : sortByKey Subscription.id after.subscriptions=after.subscriptions := by
      apply sortByKey_of_pairwise
      rw [h.subscriptions,pairwise_map,pairwise_map]
      exact sortByKey_pairwise Subscription.id store.subscriptions
    rw [Store.listSubscriptions,hsorted,h.subscriptions,map_map,map_map]
    rfl
  · rw [Store.listProfiles,h.profiles]
    exact sortByKey_of_pairwise _ (sortByKey_pairwise TuningProfile.id store.profiles)
  · unfold Store.getDefaultProfile
    rw [hplain (by decide) (by decide) (by decide) (by decide)]
    have hprof : after.getProfile=store.getProfile := by
      funext id
      rw [Store.getProfile,h.profiles,find?_listProfiles]
    rw [hprof]
  · rw [Store.getRouting,h.rules,sortByKey_ruleRow,← map_map,map_ruleDict_ruleRow, map_map,map_map]
    rfl
  · have hsorted : sortByKey Reservation.ip after.reservations=after.reservations := by
      apply sortByKey_of_pairwise
      rw [h.reservations,pairwise_map,pairwise_map]
      apply (sortByKey_pairwise Reservation.ip store.reservations).imp
      intro a b hab
      change stripText a.ip ≤ stripText b.ip
      rw [a.ip_plain,b.ip_plain]
      exact hab
    rw [Store.listReservations,hsorted,h.reservations,map_map,map_map]
    exact map_congr_left fun res _ => reservationDict_reservationRow now res
  · rw [Store.getSetting,h.settings]
    rfl
  · rw [hsetting (by decide) (by decide),restoredSettings,if_pos rfl,restoredPublicKey_eq,hpub]
  · rw [hsetting (by decide) (by decide),restoredSettings,if_neg (by decide)]
    simp only [rwDisabled_ne_empty,hon,hpub,true_and]

/-- An export that validates is restored into every store, and what comes
back is what was exported: all of it but the settings the receiving box decides. -/
theorem importState_exportState_restores (checks : SettingChecks) (text : IpText) (now : ℕ)
    (store target : Store) {doc : Document}
    (hvalid : validateDocument checks text (exportState store) = .ok doc) :
    ∃ after summary, importState checks text now target (exportState store) =
      .ok (after, summary) ∧ Restores store target after := by
  obtain ⟨hdoc,hrefs⟩ := validateDocument_exportState hvalid
  obtain ⟨after,summary,hwrite,hins⟩ := writeDocument_exportState now target hrefs
  have himp : importState checks text now target (exportState store) = .ok (after, summary) := by
    unfold importState
    rw [hvalid,hdoc]
    exact hwrite
  exact ⟨after,summary,himp,hins.restores⟩

/-- Checks of a panel that accepts any network and road-warrior settings. -/
def acceptingChecks : SettingChecks := ⟨fun _ => none, fun _ => none⟩

/-- A text reader that knows no address. -/
def blindText : IpText := ⟨fun _ => none, fun _ => none⟩

/-- A box that serves remote access and routes by the second dataset. -/
def sampleStore : Store where
  nodes := []
  subscriptions := []
  profiles := [legacyDefaultProfile]
  rules := [{ id := some 1, position := 0, type := .geosite, value := "ru-blocked",
              action := .proxy, dataset := "ru" }]
  reservations := []
  settings := fun key =>
    if key = "rw_enabled" then some "1"
    else if key = "rw_public_key" then some "AAAAAAAAAAAAAAAAAAAAAAAAAAAAAAAAAAAAAAAAAAA"
    else if key = "rw_private_key" then some "BBBBBBBBBBBBBBBBBBBBBBBBBBBBBBBBBBBBBBBBBBB"
    else none
  nodes_legal := by decide
  subscriptions_legal := by decide
  profiles_legal := by decide
  rules_legal := by decide
  reservations_legal := by decide

/-- A box without key material. -/
def freshStore : Store where
  nodes := []
  subscriptions := []
  profiles := []
  rules := []
  reservations := []
  settings := fun _ => none
  nodes_legal := by decide
  subscriptions_legal := by decide
  profiles_legal := by decide
  rules_legal := by decide
  reservations_legal := by decide

theorem sampleStore_valid :
    ∃ doc, validateDocument acceptingChecks blindText (exportState sampleStore) = .ok doc := by
  have hok : (validateDocument acceptingChecks blindText (exportState sampleStore)).isOk=true := by
    decide +kernel
  cases hvalid : validateDocument acceptingChecks blindText (exportState sampleStore) with
  | error why => simp [hvalid,Except.isOk,Except.toBool] at hok
  | ok doc => exact ⟨doc,rfl⟩

theorem importState_exportState_restores_sample :
    ∃ after summary, importState acceptingChecks blindText 0 freshStore
      (exportState sampleStore) = .ok (after, summary) ∧ Restores sampleStore freshStore after := by
  obtain ⟨doc,hvalid⟩ := sampleStore_valid
  exact importState_exportState_restores acceptingChecks blindText 0 sampleStore freshStore hvalid

/-- Restored onto a box without keys, remote access comes back switched off, and the rule comes
back reading the stock dataset. -/
theorem restore_disables_and_drops_dataset :
    ((importState acceptingChecks blindText 0 freshStore (exportState sampleStore)).map
      fun result => (result.1.getSetting "rw_enabled", result.1.getRouting.map
        RoutingRule.dataset)) = .ok (some "0", [""]) ∧
    sampleStore.getSetting "rw_enabled" = some "1" ∧
    sampleStore.getRouting.map RoutingRule.dataset = ["ru"] := by
  decide +kernel

end PiGwPanel.BackupRestore
