import PiGwPanel.BackupAcceptance
import PiGwPanel.RestoredNetwork

/-!
# What a restore leaves can be exported again

A restore stores texts: the numbers and flags of a document come back as text in
the next export, trimmed or lower-cased where the tables ask for it. Every check
of a document is followed through that change. One of them does not survive it:
the remote-access check passes over a zero, and over `false`, and the text that
is stored for them is not blank. The last part is about the remote-access key pair,
whose private half no document carries.
-/

namespace PiGwPanel.RestoredExports

open Models PyText ConfigStore BackupDocument BackupRestore BackupPreflight SegmentRuleset
  NetworkSettings RestoredNetwork StableFirstMatch CheckedResult IpAddress List
open BackupAcceptance hiding NodesResolve

/-- The remote-access settings a document is checked for, in the order of the checks. -/
def roadWarriorKeys : List String :=
  ["rw_port", "rw_dest", "rw_server_names", "rw_short_ids", "rw_public_key", "rw_endpoint",
   "rw_routed_nets", "rw_hosts"]

/-- `_validate_rw_settings`: a value that is blank is passed over, any other goes to the check of
its key. -/
def roadWarriorIssue (check : String → String → Option String) (given : Given) : Option String :=
  roadWarriorKeys.findSome? fun key =>
    let text := givenText given key
    if text = "" then none else check key text

/-- A value that is checked as the text it is stored as. -/
def PlainValue : SettingValue → Prop
  | .text _ => True
  | .number value => value ≠ 0
  | .flag _ => False

instance (value : SettingValue) : Decidable (PlainValue value) := by
  cases value <;> dsimp only [PlainValue] <;> infer_instance

/-- A document that writes its remote-access settings as an export does, or as numbers other than
zero. -/
def PlainRoadWarrior (doc : Document) : Prop :=
  ∀ key ∈ roadWarriorKeys, ∀ value ∈ doc.setting key, PlainValue value

instance (doc : Document) : Decidable (PlainRoadWarrior doc) :=
  inferInstanceAs (Decidable (∀ key ∈ roadWarriorKeys, ∀ value ∈ doc.setting key, _))

section Values

/-! ### The text of a value passes where the value did -/

variable {given after : Given} {key : String}

/-- The second settings hold the stored text of what the first hold under a key. -/
def StoredAt (given after : Given) (key : String) : Prop :=
  after key = (given key).map fun value => .text value.stored

theorem int_stored (value : SettingValue) : (SettingValue.text value.stored).int=value.int := by
  cases value with
  | text value => rfl
  | number value => exact pyInt_intText value
  | flag value => cases value <;> decide

theorem choice_stored {allowed : List String} (hflag : "True" ∉ allowed ∧ "False" ∉ allowed)
    (hkey : StoredAt given after key) (h : ∀ value∈given key, value.str∈allowed) :
    ∀ value∈after key, value.str∈allowed := by
  rw [hkey]
  intro value hval
  obtain ⟨old,hold,rfl⟩ := Option.map_eq_some_iff.mp hval
  have hmem := h old hold
  cases old with
  | text old => exact hmem
  | number old => exact hmem
  | flag old =>
    cases old with
    | true => exact absurd hmem hflag.1
    | false => exact absurd hmem hflag.2

theorem netValue_stored {field : NetSetting} (hkey : StoredAt given after field.key)
    (h : ∃ found, netValue given field = .ok found) : ∃ found, netValue after field = .ok found := by
  unfold netValue at h ⊢
  rw [hkey]
  cases hval : given field.key with
  | none => exact ⟨none,rfl⟩
  | some value =>
    rw [hval] at h
    cases value with
    | text value => exact h
    | number value => exact h
    | flag value =>
      -- only an interface may be called `True`, and then `1` will do as well
      have hrefused : ∀ field≠.segmentIface, ∀ value : Bool,
          (normalized field (if value then "True" else "False")).isOk=false := by
        intro field
        cases field <;> decide +kernel
      have hstrip : stripText (SettingValue.flag value).str =
          if value then "True" else "False" := by
        cases value <;> decide
      have hfilled : stripText (SettingValue.flag value).str ≠ "" := by
        cases value <;> decide
      by_cases hiface : field = .segmentIface
      · subst hiface
        cases value <;> exact exists_of_isOk (by decide +kernel)
      · obtain ⟨found,hfound⟩ := h
        dsimp only at hfound
        rw [if_neg fun hblank => hfilled hblank.1,hstrip] at hfound
        obtain ⟨out,hout,-⟩ := exists_of_map_ok hfound
        have hbad := hrefused field hiface value
        rw [hout] at hbad
        cases hbad

theorem ulaValue_stored (hkey : StoredAt given after "ula_prefix6")
    (h : ∃ found, ulaValue given = .ok found) : ∃ found, ulaValue after = .ok found := by
  cases hval : given "ula_prefix6" with
  | none =>
    refine ⟨none,?_⟩
    unfold ulaValue
    rw [hkey,hval]
    rfl
  | some value =>
    have hsame : ulaValue given=ulaValue fun _ => some value := by
      unfold ulaValue
      rw [hval]
    have hafter : ulaValue after=ulaValue fun _ => some (.text value.stored) := by
      unfold ulaValue
      rw [hkey,hval]
      rfl
    rw [hsame] at h
    rw [hafter]
    cases value with
    | text value => exact h
    | number value => exact h
    | flag value =>
      have hrefused : ∀ value : Bool, (ulaValue fun _ => some (.flag value)).isOk=false := by
        decide +kernel
      obtain ⟨found,hfound⟩ := h
      have hbad := hrefused value
      rw [hfound] at hbad
      cases hbad

section

variable (hkey : StoredAt given after key)

include hkey

theorem intBoundIssue_stored {low : ℤ} {high : Option ℤ}
    (h : (given key).bind (intBoundIssue key low high)=none) :
    (after key).bind (intBoundIssue key low high)=none := by
  rw [hkey]
  cases hval : given key with
  | none => rfl
  | some value =>
    rw [hval] at h
    change intBoundIssue key low high (.text value.stored)=none
    cases value with
    | text value => exact h
    | number value =>
      unfold intBoundIssue at h ⊢
      rw [int_stored]
      exact h
    | flag value => cases h

theorem ipv4Int_stored :
    ipv4Int (givenText after key).toList=ipv4Int (givenText given key).toList := by
  unfold givenText
  rw [hkey]
  cases given key with
  | none => rfl
  | some value =>
    cases value with
    | text value => rfl
    | number value =>
      change ipv4Int (stripText (toString value)).toList =
        ipv4Int (if value=0 then "" else stripText (toString value)).toList
      split
      next hzero =>
        rw [hzero]
        decide +kernel
      · rfl
    | flag value => cases value <;> decide +kernel

/-- A remote-access value that is no flag and not zero is checked as its text. -/
theorem givenText_stored (hplain : ∀ value∈given key, PlainValue value) :
    givenText after key=givenText given key := by
  unfold givenText
  rw [hkey]
  cases hval : given key with
  | none => rfl
  | some value =>
    have hone := hplain value hval
    cases value with
    | text value => rfl
    | number value => exact (if_neg hone).symm
    | flag value => exact hone.elim

end

theorem validateNetSettings_ok_iff : (∃ out, validateNetSettings given = .ok out) ↔
      (∀ field, ∃ found, netValue given field = .ok found) ∧ ∃ found, ulaValue given = .ok found := by
  have hall : (∀ field, ∃ found, netValue given field = .ok found) ↔
      ∃ values, collect (netValue given) checkOrder = .ok values := by
    rw [collect_ok_iff]
    refine ⟨fun h field _ => h field,fun h field => h field ?_⟩
    cases field <;> decide
  rw [hall]
  constructor
  · rintro ⟨out,h⟩
    obtain ⟨values,hvals,h⟩ := exists_of_bind_ok h
    obtain ⟨ula,hula,-⟩ := exists_of_bind_ok h
    exact ⟨⟨values,hvals⟩,ula,hula⟩
  · rintro ⟨⟨values,hvals⟩,ula,hula⟩
    refine ⟨(values, ula),?_⟩
    unfold validateNetSettings
    rw [hvals,hula]
    rfl

theorem networkIssue_stored {live : Option Settings}
    (hfields : ∀ field : NetSetting, StoredAt given after field.key)
    (hula : StoredAt given after "ula_prefix6") (h : networkIssue live given=none) :
    networkIssue none after=none := by
  have hrange : dhcpRangeIssue after=dhcpRangeIssue given := by
    have hip : ipv4Int (givenText after "segment_ip").toList=_ :=
      ipv4Int_stored (hfields .segmentIp)
    have hstart : ipv4Int (givenText after "dhcp_start").toList=_ :=
      ipv4Int_stored (hfields .dhcpStart)
    have hstop : ipv4Int (givenText after "dhcp_end").toList=_ := ipv4Int_stored (hfields .dhcpEnd)
    unfold dhcpRangeIssue
    rw [hip,hstart,hstop]
  unfold networkIssue at h ⊢
  split at h
  · cases h
  next out hout =>
    simp only [Option.orElse_eq_none] at h
    obtain ⟨hnet,hulaOk⟩ := validateNetSettings_ok_iff.mp ⟨out,hout⟩
    obtain ⟨again,hagain⟩ := validateNetSettings_ok_iff.mpr
      ⟨fun field => netValue_stored (hfields field) (hnet field),ulaValue_stored hula hulaOk⟩
    rw [hagain]
    rw [hrange,h.1]
    rfl

end Values

section Rows

/-! ### The rows of a restored document -/

theorem ruleIssue_restored {rule : BackupRule} (h : ruleIssue rule=none) (index : ℕ) :
    ruleIssue (ruleDict (ruleRow rule index))=none := by
  have hdataset : choiceIssue "dataset" ["", "ru"] "" = none := by decide
  unfold ruleIssue at h ⊢
  rw [firstIssue_eq_none_iff] at h ⊢
  simp only [forall_mem_cons,not_mem_nil,false_imp_iff,implies_true,and_true] at h ⊢
  exact ⟨h.1,h.2.1,h.2.2.1,hdataset⟩

theorem reservationValueIssue_eq_none_iff {text : IpText} {mac ip name : String} :
    reservationValueIssue text mac ip name=none ↔
      legalMac mac=true ∧ (name = "" ∨ legalHostname name=true) ∧
        ∃ addr, text.address (stripText ip)=some (.v4 addr) := by
  unfold reservationValueIssue
  by_cases hmac : legalMac mac=true
  · by_cases hname : name = "" ∨ legalHostname name=true
    · have hpass : (name ≠ "" && !legalHostname name)=false := by
        rcases hname with rfl | hlegal
        · rfl
        · simp [hlegal]
      simp only [hmac,hpass,hname,Bool.not_true,Bool.false_eq_true,if_false,true_and]
      cases text.address (stripText ip) with
      | none => simp
      | some addr => cases addr <;> simp
    · rw [not_or] at hname
      simp [hmac,hname.1,hname.2]
  · simp [hmac]

variable {res : BackupReservation}

theorem reservationShapeIssue_eq_none_iff {text : IpText} : reservationShapeIssue text res=none ↔
      (1 ≤ res.mac.length ∧ res.mac.length≤64) ∧ (1 ≤ res.ip.length ∧ res.ip.length≤64) ∧
        res.name.length≤32 ∧ reservationValueIssue text res.mac res.ip res.name=none := by
  unfold reservationShapeIssue
  rw [firstIssue_eq_none_iff]
  simp only [forall_mem_cons,not_mem_nil,false_imp_iff,implies_true,and_true,
    textIssue_eq_none_iff,Option.map_eq_none_iff,Nat.zero_le,true_and]

theorem length_plainMac_le (mac : String) : (plainMac mac).length ≤ mac.length := by
  have hlower : (stripText mac).toLower.length=(stripText mac).length := by
    delta String.toLower
    rw [← String.length_toList,String.toList_map,length_map,String.length_toList]
  exact hlower.trans_le (length_stripText_le mac)

/-- A reservation comes back trimmed and lower-cased, and as legal as it was. -/
theorem reservationIssue_restored (h : reservationShapeIssue standardText res=none) (now : ℕ) :
    reservationShapeIssue standardText (reservationDict (reservationRow now res))=none := by
  obtain ⟨hmac,hip,hname,hval⟩ := reservationShapeIssue_eq_none_iff.mp h
  obtain ⟨hlegal,hhost,addr,haddr⟩ := reservationValueIssue_eq_none_iff.mp hval
  have hplain : legalMac (plainMac res.mac)=true := by
    have hidem : (stripText (plainMac res.mac)).toLower=(stripText res.mac).toLower :=
      toLower_stripText_idem res.mac
    unfold legalMac at hlegal ⊢
    rwa [hidem]
  have hmacFilled : plainMac res.mac ≠ "" := by
    intro hempty
    rw [hempty] at hplain
    exact absurd hplain (by decide +kernel)
  have hipFilled : stripText res.ip ≠ "" := by
    intro hempty
    have hblank : standardText.address "" = none := by decide
    rw [hempty,hblank] at haddr
    cases haddr
  have hfilled {text : String} (hne : text ≠ "") : 1≤text.length := by
    rw [Nat.one_le_iff_ne_zero]
    exact fun hzero => hne (String.length_eq_zero_iff.mp hzero)
  refine reservationShapeIssue_eq_none_iff.mpr
    ⟨⟨hfilled hmacFilled,(length_plainMac_le res.mac).trans hmac.2⟩,
      ⟨hfilled hipFilled,(length_stripText_le res.ip).trans hip.2⟩,hname,?_⟩
  refine reservationValueIssue_eq_none_iff.mpr ⟨hplain,hhost,addr,?_⟩
  change standardText.address (stripText (stripText res.ip))=_
  rwa [stripText_idem]

end Rows

section Exports

/-! ### Stores whose export is accepted -/

/-- A store whose export no check refuses, table by table. -/
structure Exports (checks : SettingChecks) (text : IpText) (store : Store) : Prop where
  nodesCount : store.nodes.length ≤ maxNodes
  nodes : ∀ node ∈ store.nodes, NodeFits node.normalize
  identities : (store.nodes.map builtIdentity).Nodup
  nodesRefer : NodesRefer store.profiles store.subscriptions store.nodes
  subscriptionsCount : store.subscriptions.length ≤ maxSubscriptions
  subscriptions : ∀ sub ∈ store.subscriptions, subscriptionIssue (subscriptionDict sub) = none
  subscriptionsRefer : SubscriptionsRefer store.profiles store.subscriptions
  profilesCount : 1 ≤ store.profiles.length ∧ store.profiles.length ≤ maxProfiles
  profiles : ∀ profile ∈ store.profiles, profileIssue profile = none
  rulesCount : store.rules.length ≤ maxRules
  rules : ∀ rule ∈ store.rules, ruleIssue (ruleDict rule) = none
  reservationsCount : store.reservations.length ≤ maxReservations
  reservations : ∀ res ∈ store.reservations, reservationShapeIssue text (reservationDict res) = none
  lengths : ∀ key ∈ settingsKeys, ∀ value ∈ store.getSetting key, value.length ≤ 2048
  values : validateSettingValues (exportState store).setting = none
  defaultProfile : defaultProfileIssue (exportState store) = none
  network : checks.network (exportState store).setting = none
  roadWarrior : checks.roadWarrior (exportState store).setting = none

variable {checks : SettingChecks} {text : IpText} {store : Store} {α β κ : Type} {rows : List α}

/-- What holds of every row as it is read holds of every row of the table. -/
theorem forall_mem_read_iff [LinearOrder κ] {key : α → κ} {read : α → β} {P : β → Prop} :
    (∀ value∈(sortByKey key rows).map read, P value) ↔ ∀ row∈rows, P (read row) := by
  rw [forall_mem_map]
  exact forall_congr' fun row => imp_congr (sortByKey_perm key rows).mem_iff Iff.rfl

theorem length_read [LinearOrder κ] {key : α → κ} {read : α → β} :
    ((sortByKey key rows).map read).length=rows.length := by
  rw [length_map,(sortByKey_perm key rows).length_eq]

theorem mem_subscriptionIds {id : ℕ} :
    id∈(exportState store).subscriptions.map BackupSubscription.id ↔
      id∈store.subscriptions.map Subscription.id := by
  change id∈(store.listSubscriptions.map subscriptionDict).map BackupSubscription.id ↔ _
  rw [map_map]
  exact ((sortByKey_perm Subscription.id store.subscriptions).map Subscription.id).mem_iff

theorem mem_profileIds {id : ℕ} : id∈(exportState store).profiles.map TuningProfile.id ↔
      id∈store.profiles.map TuningProfile.id :=
  ((sortByKey_perm TuningProfile.id store.profiles).map TuningProfile.id).mem_iff

theorem nodesResolve_exportState_iff : BackupAcceptance.NodesResolve (exportState store) ↔
      NodesRefer store.profiles store.subscriptions store.nodes ∧
        (store.nodes.map builtIdentity).Nodup := by
  have hidents : ((exportState store).nodes.map nodeIdentity).Nodup ↔
      (store.nodes.map builtIdentity).Nodup := by
    change (((sortByKey nodeOrder store.nodes).map Node.normalize).map nodeIdentity).Nodup ↔ _
    rw [map_nodeIdentity_normalize]
    exact ((sortByKey_perm nodeOrder store.nodes).map builtIdentity).nodup_iff
  have hrefer : ((∀ node∈(exportState store).nodes, ∀ id∈node.subscriptionId,
        id∈(exportState store).subscriptions.map BackupSubscription.id) ∧
      ∀ node∈(exportState store).nodes, ∀ id∈node.tuningProfileId,
        id∈(exportState store).profiles.map TuningProfile.id) ↔
      NodesRefer store.profiles store.subscriptions store.nodes := by
    simp only [mem_subscriptionIds,mem_profileIds]
    change ((∀ node∈(sortByKey nodeOrder store.nodes).map Node.normalize, _) ∧
      ∀ node∈(sortByKey nodeOrder store.nodes).map Node.normalize, _) ↔ _
    rw [forall_mem_read_iff,forall_mem_read_iff]
    simp only [(normalize_references _).1,(normalize_references _).2]
    exact ⟨fun h node hnode => ⟨h.1 node hnode,h.2 node hnode⟩,
      fun h => ⟨fun node hnode => (h node hnode).1,fun node hnode => (h node hnode).2⟩⟩
  rw [← hidents,← hrefer]
  exact ⟨fun h => ⟨⟨h.subscription,h.profile⟩,h.identities⟩, fun h => ⟨h.1.1,h.1.2,h.2⟩⟩

theorem unsupportedKeys_exportState (store : Store) : unsupportedKeys (exportState store)=[] := by
  have hnone : ((exportState store).settings.map Prod.fst).filter (fun key =>
      key∉settingsKeys && key∉settingsNeverBackedUp)=[] := by
    rw [filter_eq_nil_iff]
    intro key hkey
    obtain ⟨entry,hentry,rfl⟩ := mem_map.mp hkey
    obtain ⟨written,hwritten,hsome⟩ := mem_filterMap.mp hentry
    obtain ⟨value,-,rfl⟩ := Option.map_eq_some_iff.mp hsome
    simp [hwritten]
  unfold unsupportedKeys
  rw [hnone]
  rfl

theorem lengths_exportState_iff :
    (∀ entry∈(exportState store).settings, entry.2.str.length≤2048) ↔
      ∀ key∈settingsKeys, ∀ value∈store.getSetting key, value.length≤2048 := by
  constructor
  · intro h key hkey value hval
    exact h (key, .text value) (mem_filterMap.mpr ⟨key,hkey,by rw [hval]; rfl⟩)
  · intro h entry hentry
    obtain ⟨key,hkey,hsome⟩ := mem_filterMap.mp hentry
    obtain ⟨value,hval,rfl⟩ := Option.map_eq_some_iff.mp hsome
    exact h key hkey value hval

theorem validateSettingValues_eq_none_iff {given : Given} : validateSettingValues given=none ↔
    (∀ entry∈settingsIntBounds,
      (given entry.1).bind (intBoundIssue entry.1 entry.2.1 entry.2.2)=none) ∧
    ∀ entry∈settingsChoices, ∀ value∈given entry.1, value.str∈entry.2 := by
  unfold validateSettingValues
  rw [Option.orElse_eq_none,findSome?_eq_none_iff,findSome?_eq_none_iff]
  simp only [Option.bind_eq_none_iff,ite_eq_left_iff,reduceCtorEq,imp_false,not_not]
  rfl

theorem action_of_values (h : validateSettingValues (exportState store).setting=none) :
    store.settingOr "routing_default_action" "proxy" ∈ actionNames ∧
      (reconcileDefaultAction (exportState store)).isSome=true := by
  have hchoice := (validateSettingValues_eq_none_iff.mp h).2 ("routing_default_action", actionNames)
    mem_cons_self
  unfold reconcileDefaultAction
  rw [exportState_setting,if_pos (by decide)] at hchoice ⊢
  have haction : (exportState store).defaultAction =
      some (store.settingOr "routing_default_action" "proxy") := rfl
  rw [haction]
  unfold Store.settingOr
  cases hraw : store.getSetting "routing_default_action" with
  | none => exact ⟨by decide,rfl⟩
  | some raw =>
    rw [hraw] at hchoice
    have hknown : raw∈actionNames := hchoice (.text raw) rfl
    have hfilled : raw ≠ "" := by
      rintro rfl
      exact absurd hknown (by decide)
    have hdef : orDefault ((some raw).getD "") "proxy" = raw := if_neg hfilled
    rw [hdef]
    refine ⟨hknown,?_⟩
    change (if raw=raw then some raw else none).isSome=true
    rw [if_pos rfl]
    rfl

/-- An export is accepted exactly when every table of the store passes. -/
theorem validateDocument_exportState_iff :
    (∃ doc, validateDocument checks text (exportState store) = .ok doc) ↔
      Exports checks text store := by
  have hlegacy : normalizeLegacyEmptyProfiles (exportState store)=exportState store := by
    simp [normalizeLegacyEmptyProfiles,exportState,backupSchema]
  have hnodes : (∀ node∈(exportState store).nodes, nodeIssue node=none) ↔
      ∀ node∈store.nodes, NodeFits node.normalize := by
    simp only [nodeIssue_eq_none_iff]
    exact forall_mem_read_iff
  have hsubs : (∀ sub∈(exportState store).subscriptions, ∀ id∈sub.defaultProfileId,
      id∈(exportState store).profiles.map TuningProfile.id) ↔
      SubscriptionsRefer store.profiles store.subscriptions := by
    simp only [mem_profileIds]
    exact forall_mem_read_iff
  have hperm : (exportState store).profiles.Perm store.profiles :=
    sortByKey_perm TuningProfile.id store.profiles
  rw [validateDocument_returns_iff,hlegacy]
  constructor
  · intro h
    obtain ⟨hrefer,hidents⟩ := nodesResolve_exportState_iff.mp h.nodesResolve
    exact {
      nodesCount := length_read.symm.trans_le h.nodesCount
      nodes := hnodes.mp h.nodes
      identities := hidents
      nodesRefer := hrefer
      subscriptionsCount := length_read.symm.trans_le h.subscriptionsCount
      subscriptions := forall_mem_read_iff.mp h.subscriptions
      subscriptionsRefer := hsubs.mp h.subscriptionsRefer
      profilesCount := hperm.length_eq ▸ h.profilesCount
      profiles := fun profile hprof => h.profiles profile (hperm.mem_iff.mpr hprof)
      rulesCount := length_read.symm.trans_le h.rulesCount
      rules := forall_mem_read_iff.mp h.rules
      reservationsCount := length_read.symm.trans_le h.reservationsCount
      reservations := forall_mem_read_iff.mp h.reservations
      lengths := lengths_exportState_iff.mp h.lengths
      values := h.values
      defaultProfile := h.defaultProfile
      network := h.network
      roadWarrior := h.roadWarrior }
  · intro h
    obtain ⟨haction,hagreed⟩ := action_of_values h.values
    exact {
      schema := (by decide : backupSchema∈[1,2,3])
      created := by rintro moment ⟨⟩
      nodesCount := length_read.trans_le h.nodesCount
      nodes := hnodes.mpr h.nodes
      subscriptionsCount := length_read.trans_le h.subscriptionsCount
      subscriptions := forall_mem_read_iff.mpr h.subscriptions
      profilesCount := hperm.length_eq.symm ▸ h.profilesCount
      profiles := fun profile hprof => h.profiles profile (hperm.mem_iff.mp hprof)
      rulesCount := length_read.trans_le h.rulesCount
      rules := forall_mem_read_iff.mpr h.rules
      action := fun action haction' => Option.some.inj haction' ▸ haction
      reservationsCount := length_read.trans_le h.reservationsCount
      reservations := forall_mem_read_iff.mpr h.reservations
      settingsCount := by
        have hcount := length_filterMap_le (fun key => (store.getSetting key).map fun value =>
          (key, SettingValue.text value)) settingsKeys
        exact hcount.trans (by decide)
      profileIds := (LegalIds.sorted store.profiles_legal).1
      subscriptionIds := by
        change ((store.listSubscriptions.map subscriptionDict).map BackupSubscription.id).Nodup
        rw [map_map]
        exact (LegalIds.sorted store.subscriptions_legal).1
      nodeIds := by
        change (((sortByKey nodeOrder store.nodes).map Node.normalize).map Node.id).Nodup
        rw [map_id_normalize]
        exact (LegalIds.sorted store.nodes_legal.1).1
      subscriptionsRefer := hsubs.mpr h.subscriptionsRefer
      nodesResolve := nodesResolve_exportState_iff.mpr ⟨h.nodesRefer,h.identities⟩
      keys := unsupportedKeys_exportState store
      lengths := lengths_exportState_iff.mpr h.lengths
      values := h.values
      agreed := hagreed
      defaultProfile := h.defaultProfile
      network := h.network
      roadWarrior := h.roadWarrior }

end Exports

section Restores

/-! ### The export of a restored store -/

/-- The checks `validate_document` runs on the settings: with the panel's own settings for a
document that is proposed, without them for an export. -/
abbrev documentChecks (live : Option Settings) (check : String → String → Option String) :
    SettingChecks := panelChecks live (roadWarriorIssue check)

variable {live : Option Settings} {check : String → String → Option String} {checks : SettingChecks}
  {text : IpText} {now : ℕ} {store after : Store} {doc validated : Document}
  {summary : ImportSummary}

theorem roadWarriorIssue_eq_none_iff {given : Given} :
    roadWarriorIssue check given=none ↔ ∀ key∈roadWarriorKeys,
      givenText given key ≠ "" → check key (givenText given key)=none := by
  unfold roadWarriorIssue
  rw [findSome?_eq_none_iff]
  refine forall₂_congr fun key _ => ?_
  by_cases hblank : givenText given key = "" <;> simp [hblank]

/-- A validated document is the one given, with its profiles filled in and its default action
settled to one the panel knows. -/
theorem validated_eq (h : validateDocument checks text doc = .ok validated) :
    ∃ action∈actionNames,
      validated = { normalizeLegacyEmptyProfiles doc with defaultAction := some action } := by
  have hsound := validateDocument_returns_iff.mp ⟨validated,h⟩
  have hchoice := (validateSettingValues_eq_none_iff.mp hsound.values).2
    ("routing_default_action", actionNames) mem_cons_self
  unfold validateDocument at h
  dsimp only at h hchoice
  split at h
  · cases h
  · split at h
    · cases h
    · split at h
      · cases h
      next action haction =>
        split at h
        · cases h
        · refine ⟨action,?_,(Except.ok.inj h).symm⟩
          unfold reconcileDefaultAction at haction
          split at haction
          · rw [← Option.some.inj haction]
            cases hgiven : (normalizeLegacyEmptyProfiles doc).defaultAction with
            | none => decide
            | some given => exact hsound.action given hgiven
          next raw hraw _ =>
            rw [← Option.some.inj haction]
            exact hchoice raw hraw
          next raw given hraw hgiven =>
            split at haction
            · rw [← Option.some.inj haction]
              exact hsound.action given hgiven
            · cases haction

/-- The rows a restore inserts, and what its tables checked. -/
structure Wrote (now : ℕ) (doc : Document) (after : Store) : Prop where
  nodes : after.nodes = doc.nodes.map Node.normalize
  subscriptions : after.subscriptions = doc.subscriptions.map subscriptionRow
  profiles : after.profiles = doc.profiles
  rules : after.rules = doc.rules.zipIdx.map fun (rule, index) => ruleRow rule index
  reservations : after.reservations = doc.reservations.map (reservationRow now)
  nodesRefer : NodesRefer after.profiles after.subscriptions after.nodes
  subscriptionsRefer : SubscriptionsRefer after.profiles after.subscriptions

theorem wrote_of_writeDocument (h : writeDocument now store doc = .ok (after, summary)) :
    Wrote now doc after := by
  unfold writeDocument at h
  dsimp only at h
  split_ifs at h with h1 h2 h3 h4 h5 h6 h7
  obtain ⟨rfl,-⟩ := Prod.mk.inj (Except.ok.inj h)
  exact ⟨rfl,rfl,rfl,rfl,rfl,h5,h3⟩

variable {key : String} {value : SettingValue}

theorem mem_of_setting (h : doc.setting key=some value) : (key, value)∈doc.settings := by
  obtain ⟨before,behind,hents,-⟩ := lookup_eq_some_iff.mp h
  rw [hents]
  exact mem_append_right _ mem_cons_self

theorem length_stored_le (h : value.str.length≤2048) : value.stored.length≤2048 := by
  cases value with
  | text value => exact h
  | number value => exact h
  | flag value => cases value <;> decide

/-- The settings of the restored store, key by key. -/
structure Settled (store : Store) (doc : Document) (action : String) (after : Store) : Prop where
  plain : ∀ key ∈ settingsKeys, key ∉ specialKeys →
    after.getSetting key = (doc.setting key).map SettingValue.stored
  action : after.getSetting "routing_default_action" = some action
  enabled : after.getSetting "rw_enabled" = some "0" ∨
    after.getSetting "rw_enabled" = (doc.setting "rw_enabled").map SettingValue.stored
  /-- The public key is the document's, or the one the box had. -/
  publicKey : after.getSetting "rw_public_key" = none ∨
    after.getSetting "rw_public_key" = some (localKeys store).publicKey ∧
      (localKeys store).publicKey ≠ "" ∨
    after.getSetting "rw_public_key" = (doc.setting "rw_public_key").map SettingValue.stored

section After

variable {action : String} {settings : String → Option String}
variable (h : after.settings=settingsAfter store action (restoredSettings (localKeys store) settings))

include h

theorem publicKey_after :
    after.getSetting "rw_public_key" = restoredPublicKey (localKeys store) settings := by
  unfold Store.getSetting
  rw [h,settingsAfter_of_mem (by decide) (by decide)]
  exact if_pos rfl

theorem enabled_after : after.getSetting "rw_enabled" =
    if rwDisabled (localKeys store) settings ≠ "" then some "0" else settings "rw_enabled" := by
  unfold Store.getSetting
  rw [h,settingsAfter_of_mem (by decide) (by decide)]
  unfold restoredSettings
  simp

end After

theorem settled_of_importState {action : String} (hvalid : validateDocument checks text doc = .ok validated)
    (himp : importState checks text now store doc = .ok (after, summary))
    (haction : validated.defaultAction=some action) : Settled store validated action after := by
  have hsets : after.settings=settingsAfter store (validated.defaultAction.getD "proxy")
      (restoredSettings (localKeys store) (documentSettings validated)) := by
    rw [importState_eq_writeDocument hvalid] at himp
    exact (writeDocument_stored himp).1
  have hpublic : documentSettings validated "rw_public_key" =
      (validated.setting "rw_public_key").map SettingValue.stored := if_neg (by decide)
  have hon : documentSettings validated "rw_enabled" =
      (validated.setting "rw_enabled").map SettingValue.stored := if_neg (by decide)
  refine ⟨fun key hkey hplain => getSetting_of_importState hvalid himp hkey hplain,?_,?_,?_⟩
  · unfold Store.getSetting settingsAfter at *
    rw [hsets,haction]
    rfl
  · rw [enabled_after hsets]
    split
    · exact .inl rfl
    · exact .inr hon
  · rw [publicKey_after hsets,restoredPublicKey_eq]
    split_ifs with h1 h2
    · exact .inr (.inr hpublic)
    · exact .inl rfl
    · exact .inr (.inl ⟨rfl,h2⟩)

variable {action : String}

section

variable (h : Settled store doc action after)

include h

theorem Settled.storedAt (hkey : key∈settingsKeys) (hplain : key∉specialKeys) :
    StoredAt doc.setting (exportState after).setting key := by
  unfold StoredAt
  rw [exportState_setting,if_pos hkey,h.plain key hkey hplain,Option.map_map]
  rfl

theorem Settled.lengths (haction : action∈actionNames)
    (hdoc : ∀ entry∈doc.settings, entry.2.str.length≤2048)
    (hstore : ∀ key∈settingsKeys, ∀ value∈store.getSetting key, value.length≤2048) :
    ∀ key∈settingsKeys, ∀ value∈after.getSetting key, value.length≤2048 := by
  have hgiven {key value : String}
      (hval : (doc.setting key).map SettingValue.stored=some value) : value.length≤2048 := by
    obtain ⟨old,hold,rfl⟩ := Option.map_eq_some_iff.mp hval
    exact length_stored_le (hdoc (key, old) (mem_of_setting hold))
  intro key hkey value hval
  by_cases hplain : key∈specialKeys
  · simp only [specialKeys,mem_cons,not_mem_nil,or_false] at hplain
    rcases hplain with rfl | rfl | rfl | rfl | rfl
    · rw [h.action] at hval
      have hall : ∀ name∈actionNames, name.length≤2048 := by decide
      rw [← Option.some.inj hval]
      exact hall action haction
    · rcases h.publicKey with hnone | ⟨hlocal,hfilled⟩ | hdocument
      · rw [hnone] at hval
        cases hval
      · rw [hlocal] at hval
        rw [← Option.some.inj hval]
        cases hold : store.getSetting "rw_public_key" with
        | none =>
          exfalso
          apply hfilled
          simp only [localKeys,hold]
          decide
        | some old =>
          have hshort := hstore "rw_public_key" hkey old hold
          have hstrip := length_stripText_le old
          simp only [localKeys,hold,Option.getD_some]
          omega
      · rw [hdocument] at hval
        exact hgiven hval
    · rcases h.enabled with hoff | hdocument
      · rw [hoff] at hval
        rw [← Option.some.inj hval]
        decide
      · rw [hdocument] at hval
        exact hgiven hval
    · exact absurd hkey (by decide)
    · exact absurd hkey (by decide)
  · rw [h.plain key hkey hplain] at hval
    exact hgiven hval

theorem Settled.values (haction : action∈actionNames)
    (hdoc : validateSettingValues doc.setting=none) :
    validateSettingValues (exportState after).setting=none := by
  obtain ⟨hbounds,hchoices⟩ := validateSettingValues_eq_none_iff.mp hdoc
  refine validateSettingValues_eq_none_iff.mpr ⟨fun entry hentry => ?_,fun entry hentry => ?_⟩
  · have hplain : ∀ entry∈settingsIntBounds,
        entry.1∈settingsKeys ∧ entry.1∉specialKeys := by decide
    obtain ⟨hkey,hother⟩ := hplain entry hentry
    exact intBoundIssue_stored (h.storedAt hkey hother) (hbounds entry hentry)
  · have hold := hchoices entry hentry
    simp only [settingsChoices,mem_cons,not_mem_nil,or_false] at hentry
    rcases hentry with rfl | rfl
    · intro value hval
      rw [exportState_setting,if_pos (by decide),h.action] at hval
      cases hval
      exact haction
    · exact choice_stored (by decide) (h.storedAt (by decide) (by decide)) hold

theorem Settled.defaultProfile
    (hprofs : after.profiles=doc.profiles) (hdoc : defaultProfileIssue doc=none) :
    defaultProfileIssue (exportState after)=none := by
  have hstored : StoredAt doc.setting (exportState after).setting "default_profile_id" :=
    h.storedAt (by decide) (by decide)
  have hids : ∀ id : ℤ, id∈doc.profiles.map (fun profile => (profile.id : ℤ)) →
      id∈(exportState after).profiles.map fun profile => (profile.id : ℤ) := by
    intro id hid
    rw [← hprofs] at hid
    exact ((sortByKey_perm TuningProfile.id after.profiles).map
      fun profile => (profile.id : ℤ)).mem_iff.mpr hid
  unfold defaultProfileIssue
  rw [hstored]
  cases hval : doc.setting "default_profile_id" with
  | none => rfl
  | some value =>
    by_cases hblank : value.stored = ""
    · rw [Option.map_some,hblank]
      rfl
    · have hknown : ∃ id, value.int=some id ∧
          id∈doc.profiles.map fun profile => (profile.id : ℤ) := by
        unfold defaultProfileIssue at hdoc
        rw [hval] at hdoc
        split at hdoc
        next heq =>
          cases heq
        next heq =>
          cases heq
          exact absurd rfl hblank
        next found _ _ heq =>
          cases heq
          split at hdoc
          · cases hdoc
          next id hid =>
            split at hdoc
            next hmem =>
              exact ⟨id,hid,hmem⟩
            · cases hdoc
      obtain ⟨id,hid,hmem⟩ := hknown
      split
      · rfl
      · rfl
      next heq =>
        cases heq
        rw [int_stored,hid]
        exact if_pos (hids id hmem)

theorem Settled.roadWarrior (hplain : PlainRoadWarrior doc)
    (hdoc : roadWarriorIssue check doc.setting=none)
    (hstore : roadWarriorIssue check (exportState store).setting=none) :
    roadWarriorIssue check (exportState after).setting=none := by
  rw [roadWarriorIssue_eq_none_iff] at hdoc hstore ⊢
  have hwritten {key : String} (hkey : key∈roadWarriorKeys)
      (hstored : StoredAt doc.setting (exportState after).setting key) :
      givenText (exportState after).setting key ≠ "" →
        check key (givenText (exportState after).setting key)=none := by
    rw [givenText_stored hstored (hplain key hkey)]
    exact hdoc key hkey
  intro key hkey
  by_cases hpublic : key = "rw_public_key"
  · subst hpublic
    have hexported (box : Store) : (exportState box).setting "rw_public_key" =
        (box.getSetting "rw_public_key").map SettingValue.text := by
      rw [exportState_setting,if_pos (by decide)]
    rcases h.publicKey with hnone | ⟨hlocal,hfilled⟩ | hdocument
    · intro hgiven
      exfalso
      apply hgiven
      unfold givenText
      rw [hexported,hnone]
      rfl
    · -- the key the box had passed in the export of before
      have hkept : givenText (exportState after).setting "rw_public_key" =
          givenText (exportState store).setting "rw_public_key" := by
        unfold givenText
        rw [hexported,hexported,hlocal]
        unfold localKeys
        have hblank : stripText (stripText "") = "" := by decide
        cases store.getSetting "rw_public_key" with
        | none => exact hblank
        | some old => exact stripText_idem old
      rw [hkept]
      exact hstore _ hkey
    · refine hwritten hkey ?_
      unfold StoredAt
      rw [hexported,hdocument,Option.map_map]
      rfl
  · have hothers : ∀ key∈roadWarriorKeys, key ≠ "rw_public_key" →
        key∈settingsKeys ∧ key∉specialKeys := by decide
    obtain ⟨hexported,hspecial⟩ := hothers key hkey hpublic
    exact hwritten hkey (h.storedAt hexported hspecial)

end

theorem setting_normalizeLegacyEmptyProfiles (hkey : key ≠ "default_profile_id") :
    (normalizeLegacyEmptyProfiles doc).setting key=doc.setting key := by
  unfold normalizeLegacyEmptyProfiles
  split
  · unfold Document.setting
    split
    · rfl
    · rw [lookup_append]
      have hother : (key == "default_profile_id")=false := by simpa using hkey
      simp [lookup_cons,hother]
  · rfl

/-- The document only has to write its
remote-access settings as text, or as numbers other than zero. -/
theorem exports_of_importState (hstore : Exports (documentChecks none check) standardText store)
    (himp : importState (documentChecks live check) standardText now store doc =
      .ok (after, summary)) (hplain : PlainRoadWarrior doc) :
    Exports (documentChecks none check) standardText after := by
  obtain ⟨validated,hvalid,hwrite⟩ := exists_of_bind_ok himp
  have hsound := validateDocument_returns_iff.mp ⟨validated,hvalid⟩
  obtain ⟨action,haction,hvalidated⟩ := validated_eq hvalid
  have hwrote := wrote_of_writeDocument hwrite
  have hsettled : Settled store validated action after :=
    settled_of_importState hvalid himp (by rw [hvalidated])
  have hplainValidated : PlainRoadWarrior validated := by
    intro key hkey value hval
    have hother : ∀ key∈roadWarriorKeys, key ≠ "default_profile_id" := by decide
    have hsame : validated.setting key=doc.setting key := by
      rw [hvalidated]
      exact setting_normalizeLegacyEmptyProfiles (hother key hkey)
    exact hplain key hkey value (hsame ▸ hval)
  subst hvalidated
  have hnodeIdentities : (after.nodes.map builtIdentity).Nodup := by
    have hsame : after.nodes.map builtIdentity=after.nodes.map nodeIdentity := by
      rw [hwrote.nodes,map_map,map_map]
      refine map_congr_left fun node _ => ?_
      change builtIdentity node.normalize=nodeIdentity node.normalize
      rw [← nodeIdentity_normalize,Node.normalize_idem]
    rw [hsame]
    exact after.nodes_legal.2
  exact {
    nodesCount := by
      rw [hwrote.nodes,length_map]
      exact hsound.nodesCount
    nodes := by
      rw [hwrote.nodes,forall_mem_map]
      intro node hnode
      exact (nodeIssue_eq_none_iff.mp (hsound.nodes node hnode)).normalize.normalize
    identities := hnodeIdentities
    nodesRefer := hwrote.nodesRefer
    subscriptionsCount := by
      rw [hwrote.subscriptions,length_map]
      exact hsound.subscriptionsCount
    subscriptions := by
      rw [hwrote.subscriptions,forall_mem_map]
      exact hsound.subscriptions
    subscriptionsRefer := hwrote.subscriptionsRefer
    profilesCount := by
      rw [hwrote.profiles]
      exact hsound.profilesCount
    profiles := by
      rw [hwrote.profiles]
      exact hsound.profiles
    rulesCount := by
      rw [hwrote.rules,length_map,length_zipIdx]
      exact hsound.rulesCount
    rules := by
      rw [hwrote.rules,forall_mem_map]
      intro entry hentry
      exact ruleIssue_restored (hsound.rules entry.1 (fst_mem_of_mem_zipIdx hentry)) entry.2
    reservationsCount := by
      rw [hwrote.reservations,length_map]
      exact hsound.reservationsCount
    reservations := by
      rw [hwrote.reservations,forall_mem_map]
      exact fun res hres => reservationIssue_restored (hsound.reservations res hres) now
    lengths := hsettled.lengths haction hsound.lengths hstore.lengths
    values := hsettled.values haction hsound.values
    defaultProfile := hsettled.defaultProfile hwrote.profiles hsound.defaultProfile
    network := by
      refine networkIssue_stored (fun field => ?_) ?_ hsound.network
      · exact hsettled.storedAt (by cases field <;> decide) (by cases field <;> decide)
      · exact hsettled.storedAt (by decide) (by decide)
    roadWarrior := hsettled.roadWarrior hplainValidated hsound.roadWarrior hstore.roadWarrior }

end Restores

section KeyPair

/-! ### The remote-access key pair -/

variable {checks : SettingChecks} {text : IpText} {now : ℕ} {store after : Store}
  {doc validated : Document} {summary : ImportSummary}

/-- What a restore makes of the key pair: the private key and the clients are left alone, the public
key stays the one the box holds unless it holds neither half, and remote access comes back only on
a pair that was checked. -/
structure KeyPairKept (store : Store) (doc : Document) (after : Store) : Prop where
  privateKey : after.getSetting "rw_private_key" = store.getSetting "rw_private_key"
  clients : after.getSetting "rw_clients" = store.getSetting "rw_clients"
  kept : ¬((localKeys store).privateKey = "" ∧ (localKeys store).publicKey = "") →
    (localKeys after).publicKey = (localKeys store).publicKey
  adopted : (localKeys store).privateKey = "" ∧ (localKeys store).publicKey = "" →
    after.getSetting "rw_public_key" = (doc.setting "rw_public_key").map SettingValue.stored
  enabled : after.getSetting "rw_enabled" = some "1" →
    (doc.setting "rw_enabled").map SettingValue.stored = some "1" ∧
      (localKeys store).privateKey ≠ "" ∧ (localKeys store).publicKey ≠ "" ∧
      (doc.setting "rw_public_key").map SettingValue.stored = some (localKeys store).publicKey

/-- The settings a restore leaves, in terms of the document it was given. -/
theorem settings_of_importState (h : importState checks text now store doc = .ok (after, summary)) :
    ∃ action settings, after.settings =
        settingsAfter store action (restoredSettings (localKeys store) settings) ∧
      (∀ key∈settingsNeverBackedUp, settings key=none) ∧
      settings "rw_public_key" = (doc.setting "rw_public_key").map SettingValue.stored ∧
      settings "rw_enabled" = (doc.setting "rw_enabled").map SettingValue.stored := by
  obtain ⟨validated,hvalid,hwrite⟩ := exists_of_bind_ok h
  obtain ⟨action,-,hvalidated⟩ := validated_eq hvalid
  have hsetting {key : String} (hkey : key ≠ "default_profile_id") :
      validated.setting key=doc.setting key := by
    rw [hvalidated]
    exact setting_normalizeLegacyEmptyProfiles hkey
  refine ⟨_,documentSettings validated,(writeDocument_stored hwrite).1,
    fun key hkey => if_pos (.inl hkey),?_,?_⟩
  · rw [← hsetting (by decide)]
    exact if_neg (by decide)
  · rw [← hsetting (by decide)]
    exact if_neg (by decide)

/-- The key pair across a restore, for every store and every accepted document. -/
theorem importState_keyPair (checks : SettingChecks) (text : IpText) (now : ℕ) (store : Store)
    (doc : Document) (after : Store) (summary : ImportSummary)
    (h : importState checks text now store doc = .ok (after, summary)) :
    KeyPairKept store doc after := by
  obtain ⟨action,settings,hsets,hnever,hpublic,henabled⟩ := settings_of_importState h
  have huntouched {key : String} (hkey : key∈settingsNeverBackedUp) :
      after.getSetting key=store.getSetting key := by
    have hplain : ∀ key∈settingsNeverBackedUp, key ≠ "rw_public_key" ∧ key ≠ "rw_enabled" ∧
        key ≠ "routing_default_action" ∧ key∉settingsKeys := by decide
    obtain ⟨hpub,hen,hact,hnot⟩ := hplain key hkey
    have hnone : restoredSettings (localKeys store) settings key=none := by
      rw [restoredSettings_of_ne hpub hen]
      exact hnever key hkey
    unfold Store.getSetting
    rw [hsets]
    unfold settingsAfter
    rw [if_neg hact,hnone]
    exact if_neg (by simp [hnot])
  refine ⟨huntouched (by decide),huntouched (by decide),fun hheld => ?_,fun hneither => ?_,
    fun hon => ?_⟩
  · have hplain : stripText (localKeys store).publicKey=(localKeys store).publicKey :=
      stripText_idem _
    have hempty : stripText "" = "" := by decide
    change stripText ((after.getSetting "rw_public_key").getD "")=(localKeys store).publicKey
    rw [publicKey_after hsets,restoredPublicKey_eq]
    split
    next hcase =>
      rw [hcase.resolve_right hheld]
      exact hplain
    · split
      next hnone =>
        rw [hnone]
        exact hempty
      · exact hplain
  · rw [publicKey_after hsets,restoredPublicKey_eq,if_pos (.inr hneither),hpublic]
  · rw [enabled_after hsets] at hon
    split at hon
    · exact absurd (Option.some.inj hon) (by decide)
    next hallowed =>
      rw [not_not] at hallowed
      have hchk := mt (rwDisabled_ne_empty (localKeys store) settings).mpr (not_not.mpr hallowed)
      simp only [hon,true_and,not_or,not_not] at hchk
      obtain ⟨hprivate,hlocal,hsame⟩ := hchk
      refine ⟨henabled ▸ hon,hprivate,hlocal,?_⟩
      rw [← hpublic]
      cases hgiven : settings "rw_public_key" with
      | none =>
        rw [hgiven] at hsame
        exact absurd hsame.symm hlocal
      | some value =>
        rw [hgiven] at hsame
        exact congrArg some hsame

/-- A box with a key pair whose public half was stored with a blank. -/
def keyedStore : Store :=
  { freshStore with settings := fun key =>
      if key = "rw_private_key" then some "secret"
      else if key = "rw_public_key" then some " public "
      else none }

/-- A document that asks for remote access on that pair. -/
def enablingDocument : Document :=
  { smallDocument [] [] with
    settings := [("rw_enabled", .flag true), ("rw_public_key", .text "public")] }

theorem importState_keyPair_enabling :
    ∃ after summary, importState acceptingChecks blindText 0 keyedStore enablingDocument =
        .ok (after, summary) ∧ after.getSetting "rw_enabled" = some "1" ∧
      KeyPairKept keyedStore enablingDocument after := by
  have hok : ((importState acceptingChecks blindText 0 keyedStore enablingDocument).toOption.bind
      fun result => result.1.getSetting "rw_enabled")=some "1" := by decide +kernel
  cases himp : importState acceptingChecks blindText 0 keyedStore enablingDocument with
  | error why =>
    rw [himp] at hok
    cases hok
  | ok result =>
    rw [himp] at hok
    exact ⟨result.1,result.2,rfl,hok,importState_keyPair _ _ _ _ _ _ _ himp⟩

end KeyPair

end PiGwPanel.RestoredExports
