import PiGwPanel.BackupPreflight
import PiGwPanel.NodeSecurity

/-!
# What an accepted document is

`validate_document` stops at the first field it refuses. Read the other way it
says when it refuses none: the limits of every record and the references across
records, stated once and without the order the checks run in.
-/

namespace PiGwPanel.BackupAcceptance

open Models ConfigStore BackupDocument SegmentRuleset NodeSecurity List

section Checks

/-- No check speaks up exactly when each of them is silent. -/
theorem firstIssue_eq_none_iff {checks : List (Option Issue)} :
    firstIssue checks=none ↔ ∀ check∈checks, check=none := by
  unfold firstIssue
  rw [findSome?_eq_none_iff]
  rfl

variable {ids : List ℕ} {field value : String} {low high : ℕ}

theorem textIssue_eq_none_iff :
    textIssue field low high value=none ↔ low≤value.length ∧ value.length≤high := by
  unfold textIssue
  split_ifs <;> simp <;> omega

theorem idIssue_eq_none_iff {value : ℕ} : idIssue field value=none ↔ value≠0 := by
  unfold idIssue
  split_ifs <;> simp_all

theorem optionalIdIssue_eq_none_iff {value : Option ℕ} :
    optionalIdIssue field value=none ↔ ∀ id∈value, id≠0 := by
  cases value with
  | none => simp [optionalIdIssue]
  | some id => simp [optionalIdIssue,idIssue_eq_none_iff]

theorem rangeIssue_eq_none_iff {low high value : ℤ} :
    rangeIssue field low high value=none ↔ low≤value ∧ value≤high := by
  unfold rangeIssue
  split_ifs <;> simp <;> omega

theorem choiceIssue_eq_none_iff {choices : List String} :
    choiceIssue field choices value=none ↔ value∈choices := by
  unfold choiceIssue
  split_ifs <;> simp_all

/-- A list passes on its length and on each of its items. -/
theorem listIssue_eq_none_iff {α : Type} {items : List α} {check : α → Option Issue} :
    listIssue field low high items check=none ↔
      low ≤ items.length ∧ items.length≤high ∧ ∀ item∈items, check item=none := by
  have hitems : (items.zipIdx.findSome? fun entry =>
      (check entry.1).map (Issue.under (toString entry.2)))=none ↔
        ∀ item∈items, check item=none := by
    rw [findSome?_eq_none_iff]
    constructor
    · intro h item hitem
      obtain ⟨index,hindex,rfl⟩ := getElem_of_mem hitem
      have hmem : (items[index], index)∈items.zipIdx := by
        rw [mk_mem_zipIdx_iff_getElem?,getElem?_eq_getElem hindex]
      exact Option.map_eq_none_iff.mp (h _ hmem)
    · rintro h ⟨item,index⟩ hmem
      rw [mk_mem_zipIdx_iff_getElem?] at hmem
      rw [h item (mem_of_getElem? hmem)]
      rfl
  unfold listIssue
  by_cases hhigh : high < items.length
  · simp [hhigh]
  · by_cases hlow : items.length<low
    · simp only [if_neg hhigh,if_pos hlow,reduceCtorEq,false_iff]
      omega
    · rw [if_neg hhigh,if_neg hlow,Option.map_eq_none_iff]
      refine hitems.trans ?_
      constructor
      · intro h
        exact ⟨by omega,by omega,h⟩
      · exact fun h => h.2.2

theorem referenceIssue_eq_none_iff {owner target : String} {reference : Option ℕ} :
    referenceIssue owner target ids reference=none ↔ ∀ id∈reference, id∈ids := by
  cases reference with
  | none => simp [referenceIssue]
  | some id => simp [referenceIssue]

/-- `unique` refuses repetitions only. -/
theorem uniqueIssue_eq_none_iff {label : String} : uniqueIssue ids label=none ↔ ids.Nodup := by
  unfold uniqueIssue
  split_ifs <;> simp_all

end Checks

section Records

/-- The credential a protocol asks for. -/
structure HasCredential (node : Node) : Prop where
  uuid : node.protocol = .vless → node.uuid ≠ ""
  password : node.protocol ≠ .vless → node.password ≠ ""
  method : node.protocol = .shadowsocks →
    node.method ∈ ssMethods ∧ ssPasswordIssue node.method node.password = none

variable {node : Node}

/-- The validator `required_credential`, read as a condition. -/
theorem requiredCredential_eq_none_iff : requiredCredential node=none ↔ HasCredential node := by
  unfold requiredCredential
  rw [firstIssue_eq_none_iff]
  simp only [mem_cons,not_mem_nil,or_false,forall_eq_or_imp,forall_eq]
  constructor
  · rintro ⟨hcred,hmeth⟩
    refine ⟨fun hvless huuid => ?_,fun hother hpass => ?_,fun hss => ?_⟩
    · simp [hvless,huuid] at hcred
    · simp [hother,hpass] at hcred
    · rw [if_pos hss] at hmeth
      split at hmeth
      · cases hmeth
      next hknown =>
        exact ⟨not_not.mp hknown,Option.map_eq_none_iff.mp hmeth⟩
  · rintro ⟨huuid,hpass,hmeth⟩
    constructor
    · by_cases hvless : node.protocol = .vless
      · rw [if_pos hvless,if_neg (huuid hvless)]
      · rw [if_neg hvless,if_neg (hpass hvless)]
    · by_cases hss : node.protocol = .shadowsocks
      · obtain ⟨hknown,hissue⟩ := hmeth hss
        rw [if_pos hss,if_neg (not_not.mpr hknown),hissue]
        rfl
      · rw [if_neg hss]

/-- The limits of the fields of `BackupNode`. -/
@[mk_iff] structure NodeLimits (node : Node) : Prop where
  id : node.id ≠ 0
  name : 1 ≤ node.name.length ∧ node.name.length ≤ 512
  address : 1 ≤ node.address.length ∧ node.address.length ≤ 253
  port : 1 ≤ node.port ∧ node.port ≤ 65535
  uuid : node.uuid.length ≤ 512
  password : node.password.length ≤ 512
  method : node.method.length ≤ 64
  sni : node.sni.length ≤ 253
  publicKey : node.publicKey.length ≤ 512
  shortId : node.shortId.length ≤ 512
  fingerprint : node.fingerprint.length ≤ 32
  flow : node.flow.length ≤ 64
  network : node.network.length ≤ 32
  security : node.security.length ≤ 32
  path : node.path.length ≤ 512
  host : node.host.length ≤ 253
  mode : node.mode.length ≤ 64
  alpn : node.alpn.length ≤ 128
  note : node.note.length ≤ 512
  subscriptionId : ∀ id ∈ node.subscriptionId, id ≠ 0
  tuningProfileId : ∀ id ∈ node.tuningProfileId, id ≠ 0
  position : node.position ≤ maxNodes

/-- A node `BackupNode` accepts. -/
@[mk_iff] structure NodeFits (node : Node) : Prop extends NodeLimits node where
  credential : HasCredential node

/-- A node passes when its limits hold and its credential is there. -/
theorem nodeIssue_eq_none_iff : nodeIssue node=none ↔ NodeFits node := by
  have hport : rangeIssue "port" 1 65535 node.port=none ↔ 1≤node.port ∧ node.port≤65535 := by
    rw [rangeIssue_eq_none_iff]
    omega
  have hpos : rangeIssue "position" 0 maxNodes node.position=none ↔ node.position ≤ maxNodes := by
    rw [rangeIssue_eq_none_iff]
    omega
  unfold nodeIssue
  rw [firstIssue_eq_none_iff]
  simp only [mem_cons,not_mem_nil,or_false,forall_eq_or_imp,forall_eq,
    textIssue_eq_none_iff,idIssue_eq_none_iff,optionalIdIssue_eq_none_iff,hport,hpos,
    requiredCredential_eq_none_iff,Nat.zero_le,true_and,nodeFits_iff,nodeLimits_iff,and_assoc]

theorem length_securityChoice (publicKey security : String) :
    (securityChoice publicKey security).length≤32 := by
  obtain ⟨hreal,-⟩ | htls := securityChoice_cases publicKey security
  · rw [hreal]
    decide
  · rw [htls]
    decide

theorem length_orDefault {value fallback : String} {limit : ℕ} (h : value.length≤limit)
    (hfallback : fallback.length≤limit) : (orDefault value fallback).length≤limit := by
  unfold orDefault
  split
  · exact hfallback
  · exact h

/-- Normalisation writes short constants only. -/
theorem NodeLimits.normalize (h : NodeLimits node) : NodeLimits node.normalize := by
  have hsec := length_securityChoice node.publicKey node.security
  have hempty (limit : ℕ) : ("" : String).length≤limit := by simp
  have htcp : ("tcp" : String).length≤32 := by decide
  have hxhttp : ("xhttp" : String).length≤32 := by decide
  have hnone : ("none" : String).length≤32 := by decide
  unfold Node.normalize
  split
  · exact { h with
      flow := hempty 64, network := htcp, security := hnone, path := hempty 512
      host := hempty 253, mode := hempty 64
      method := length_orDefault h.method (by decide) }
  · exact { h with
      flow := hempty 64, network := htcp, security := hsec, path := hempty 512
      host := hempty 253, mode := hempty 64 }
  · exact { h with flow := hempty 64, network := hxhttp, security := hsec }
  · exact { h with
      flow := length_orDefault h.flow (by decide), network := htcp, security := hsec }

/-- An accepted cipher is not the empty one a default replaces. -/
theorem HasCredential.normalize (h : HasCredential node) : HasCredential node.normalize := by
  have hmeth (hss : node.protocol = .shadowsocks) :
      orDefault node.method defaultSsMethod=node.method := by
    refine if_neg fun hempty => ?_
    have hknown := (h.method hss).1
    rw [hempty] at hknown
    exact absurd hknown (by decide)
  unfold Node.normalize
  split
  next _ _ hss =>
    refine ⟨h.uuid,h.password,fun _ => ?_⟩
    rw [hmeth hss]
    exact h.method hss
  · exact ⟨h.uuid,h.password,h.method⟩
  · exact ⟨h.uuid,h.password,h.method⟩
  · exact ⟨h.uuid,h.password,h.method⟩

theorem NodeFits.normalize (h : NodeFits node) : NodeFits node.normalize :=
  ⟨h.toNodeLimits.normalize,h.credential.normalize⟩

end Records

section Documents

/-- The references and identities of the nodes of a document. -/
structure NodesResolve (doc : Document) : Prop where
  subscription : ∀ node ∈ doc.nodes, ∀ id ∈ node.subscriptionId,
    id ∈ doc.subscriptions.map BackupSubscription.id
  profile : ∀ node ∈ doc.nodes, ∀ id ∈ node.tuningProfileId,
    id ∈ doc.profiles.map TuningProfile.id
  identities : (doc.nodes.map nodeIdentity).Nodup

variable {doc : Document}

theorem nodeReferencesIssue_eq_none_iff {before : List Node} {node : Node} :
    nodeReferencesIssue doc before node=none ↔
      (∀ id∈node.subscriptionId, id∈doc.subscriptions.map BackupSubscription.id) ∧
      (∀ id∈node.tuningProfileId, id∈doc.profiles.map TuningProfile.id) ∧
      nodeIdentity node∉before.map nodeIdentity := by
  have hident : (if nodeIdentity node∈before.map nodeIdentity then
      some "duplicate node identity" else none)=none ↔
        nodeIdentity node∉before.map nodeIdentity := by
    split_ifs <;> simp_all
  unfold nodeReferencesIssue
  simp only [Option.orElse_eq_none, referenceIssue_eq_none_iff,hident]

/-- The `seen` set of a loop: each key is new when it is met. -/
theorem nodup_map_iff_take {α κ : Type} {key : α → κ} {items : List α} : (items.map key).Nodup ↔
      ∀ item index, (item, index)∈items.zipIdx → key item∉(items.take index).map key := by
  rw [List.Nodup,pairwise_map,pairwise_iff_getElem]
  constructor
  · intro h item j hmem hin
    rw [mk_mem_zipIdx_iff_getElem?] at hmem
    obtain ⟨hj,rfl⟩ := List.getElem?_eq_some_iff.mp hmem
    obtain ⟨other,hother,hkey⟩ := mem_map.mp hin
    obtain ⟨i,hi,rfl⟩ := getElem_of_mem hother
    rw [length_take] at hi
    rw [getElem_take] at hkey
    exact h i j (by omega) hj (by omega) hkey
  · intro h i j hi hj hij heq
    refine h items[j] j (by rw [mk_mem_zipIdx_iff_getElem?,getElem?_eq_getElem hj]) ?_
    rw [mem_map]
    refine ⟨items[i],?_,heq⟩
    rw [mem_take_iff_getElem]
    exact ⟨i,by omega,rfl⟩

/-- The loop over the nodes, without the order it goes in. -/
theorem nodesIssue_eq_none_iff : (doc.nodes.zipIdx.findSome? fun (node, index) =>
      nodeReferencesIssue doc (doc.nodes.take index) node)=none ↔ NodesResolve doc := by
  rw [findSome?_eq_none_iff]
  simp only [Prod.forall,nodeReferencesIssue_eq_none_iff]
  have hindex {node : Node} (hnode : node∈doc.nodes) : ∃ index, (node, index)∈doc.nodes.zipIdx := by
    obtain ⟨index,hlt,rfl⟩ := getElem_of_mem hnode
    exact ⟨index,by rw [mk_mem_zipIdx_iff_getElem?,getElem?_eq_getElem hlt]⟩
  constructor
  · intro h
    refine ⟨fun node hnode => ?_,fun node hnode => ?_,nodup_map_iff_take.mpr ?_⟩
    · obtain ⟨index,hmem⟩ := hindex hnode
      exact (h node index hmem).1
    · obtain ⟨index,hmem⟩ := hindex hnode
      exact (h node index hmem).2.1
    · intro node index hmem
      exact (h node index hmem).2.2
  · rintro ⟨hsub,hprof,hident⟩ node index hmem
    have hnode : node∈doc.nodes := by
      rw [mk_mem_zipIdx_iff_getElem?] at hmem
      exact mem_of_getElem? hmem
    exact ⟨hsub node hnode,hprof node hnode,nodup_map_iff_take.mp hident node index hmem⟩

/-- A document no check refuses. -/
structure Sound (checks : SettingChecks) (text : IpText) (doc : Document) : Prop where
  schema : doc.schemaVersion ∈ [1, 2, 3]
  created : ∀ moment ∈ doc.createdAt, 0 ≤ moment
  nodesCount : doc.nodes.length ≤ maxNodes
  nodes : ∀ node ∈ doc.nodes, nodeIssue node = none
  subscriptionsCount : doc.subscriptions.length ≤ maxSubscriptions
  subscriptions : ∀ sub ∈ doc.subscriptions, subscriptionIssue sub = none
  profilesCount : 1 ≤ doc.profiles.length ∧ doc.profiles.length ≤ maxProfiles
  profiles : ∀ profile ∈ doc.profiles, profileIssue profile = none
  rulesCount : doc.rules.length ≤ maxRules
  rules : ∀ rule ∈ doc.rules, ruleIssue rule = none
  action : ∀ action ∈ doc.defaultAction, action ∈ actionNames
  reservationsCount : doc.reservations.length ≤ maxReservations
  reservations : ∀ res ∈ doc.reservations, reservationShapeIssue text res = none
  settingsCount : doc.settings.length ≤ 64
  profileIds : (doc.profiles.map TuningProfile.id).Nodup
  subscriptionIds : (doc.subscriptions.map BackupSubscription.id).Nodup
  nodeIds : (doc.nodes.map Node.id).Nodup
  subscriptionsRefer : ∀ sub ∈ doc.subscriptions, ∀ id ∈ sub.defaultProfileId,
    id ∈ doc.profiles.map TuningProfile.id
  nodesResolve : NodesResolve doc
  keys : unsupportedKeys doc = []
  lengths : ∀ entry ∈ doc.settings, entry.2.str.length ≤ 2048
  values : validateSettingValues doc.setting = none
  agreed : (reconcileDefaultAction doc).isSome = true
  defaultProfile : defaultProfileIssue doc = none
  network : checks.network doc.setting = none
  roadWarrior : checks.roadWarrior doc.setting = none

variable {checks : SettingChecks} {text : IpText}

/-- The first stage, the fields of the schema. -/
theorem fieldsIssue_eq_none_iff : fieldsIssue text doc=none ↔
      doc.schemaVersion∈[1,2,3] ∧ (∀ moment∈doc.createdAt, 0 ≤ moment) ∧
      (doc.nodes.length ≤ maxNodes ∧ ∀ node∈doc.nodes, nodeIssue node=none) ∧
      (doc.subscriptions.length ≤ maxSubscriptions ∧
        ∀ sub∈doc.subscriptions, subscriptionIssue sub=none) ∧
      (1≤doc.profiles.length ∧ doc.profiles.length ≤ maxProfiles ∧
        ∀ profile∈doc.profiles, profileIssue profile=none) ∧
      (doc.rules.length ≤ maxRules ∧ ∀ rule∈doc.rules, ruleIssue rule=none) ∧
      (∀ action∈doc.defaultAction, action∈actionNames) ∧
      (doc.reservations.length ≤ maxReservations ∧
        ∀ res∈doc.reservations, reservationShapeIssue text res=none) ∧
      doc.settings.length≤64 := by
  have hschema : (if doc.schemaVersion∈[1,2,3] then none
      else some (["schema_version"], "Input should be 1, 2 or 3") : Option Issue)=none ↔
        doc.schemaVersion∈[1,2,3] := by
    split_ifs <;> simp_all
  have hcreated : (doc.createdAt.bind fun moment => if moment<0 then
      some (["created_at"], "Input should be greater than or equal to 0") else none :
        Option Issue)=none ↔ ∀ moment∈doc.createdAt, 0 ≤ moment := by
    cases doc.createdAt <;> simp
  have haction : (doc.defaultAction.bind fun action =>
      (choiceIssue "default_action" actionNames action).map (Issue.under "routing"))=none ↔
        ∀ action∈doc.defaultAction, action∈actionNames := by
    cases doc.defaultAction <;> simp [choiceIssue_eq_none_iff]
  have hsets : (if 64<doc.settings.length then
      some (["settings"], "Dictionary should have at most 64 items after validation, not " ++
        toString doc.settings.length) else none : Option Issue)=none ↔
        doc.settings.length≤64 := by
    split_ifs <;> simp <;> omega
  unfold fieldsIssue
  rw [firstIssue_eq_none_iff]
  simp only [forall_mem_cons,not_mem_nil,false_imp_iff,implies_true,and_true,
    hschema,hcreated,haction,hsets,Option.map_eq_none_iff,listIssue_eq_none_iff,
    Nat.zero_le,true_and]

/-- The second stage, what one record says of another. -/
theorem referencesIssue_eq_none_iff : referencesIssue doc=none ↔
      (doc.profiles.map TuningProfile.id).Nodup ∧
      (doc.subscriptions.map BackupSubscription.id).Nodup ∧ (doc.nodes.map Node.id).Nodup ∧
      (∀ sub∈doc.subscriptions, ∀ id∈sub.defaultProfileId,
        id∈doc.profiles.map TuningProfile.id) ∧
      NodesResolve doc ∧ unsupportedKeys doc=[] ∧
      (∀ entry∈doc.settings, entry.2.str.length≤2048) ∧
      validateSettingValues doc.setting=none := by
  have hsubs : (doc.subscriptions.findSome? fun sub =>
      referenceIssue ("subscription " ++ toString sub.id) "profile"
        (doc.profiles.map TuningProfile.id) sub.defaultProfileId)=none ↔
        ∀ sub∈doc.subscriptions, ∀ id∈sub.defaultProfileId,
          id∈doc.profiles.map TuningProfile.id := by
    rw [findSome?_eq_none_iff]
    simp only [referenceIssue_eq_none_iff]
  have hkeys : (if unsupportedKeys doc≠[] then
      some ("unsupported setting keys: " ++ ", ".intercalate (unsupportedKeys doc)) else none) =
        none ↔ unsupportedKeys doc=[] := by
    split_ifs <;> simp_all
  unfold referencesIssue
  simp only [Option.orElse_eq_none,
    uniqueIssue_eq_none_iff,hsubs,nodesIssue_eq_none_iff,hkeys,ite_eq_right_iff,reduceCtorEq,
    imp_false,any_eq_true,decide_eq_true_eq,not_exists,not_and,Nat.not_lt]

/-- `validate_document` accepts exactly the documents no check refuses. -/
theorem validateDocument_returns_iff :
    (∃ validated, validateDocument checks text doc = .ok validated) ↔
      Sound checks text (normalizeLegacyEmptyProfiles doc) := by
  unfold validateDocument
  generalize normalizeLegacyEmptyProfiles doc=doc
  dsimp only
  constructor
  · rintro ⟨validated,h⟩
    split at h
    · cases h
    next hfields =>
      split at h
      · cases h
      next hrefs =>
        split at h
        · cases h
        next action haction =>
          split at h
          · cases h
          next hrest =>
            simp only [Option.orElse_eq_none] at hrest
            obtain ⟨h1,h2,h3,h4,h5,h6,h7,h8,h9⟩ := fieldsIssue_eq_none_iff.mp hfields
            obtain ⟨r1,r2,r3,r4,r5,r6,r7,r8⟩ := referencesIssue_eq_none_iff.mp hrefs
            exact ⟨h1,h2,h3.1,h3.2,h4.1,h4.2,⟨h5.1,h5.2.1⟩,h5.2.2,h6.1,h6.2,h7,h8.1,
              h8.2,h9,r1,r2,r3,r4,r5,r6,r7,r8,by rw [haction]; rfl,hrest.1,hrest.2.1, hrest.2.2⟩
  · intro h
    have hfields : fieldsIssue text doc=none := fieldsIssue_eq_none_iff.mpr
      ⟨h.schema,h.created,⟨h.nodesCount,h.nodes⟩,⟨h.subscriptionsCount,h.subscriptions⟩,
        ⟨h.profilesCount.1,h.profilesCount.2,h.profiles⟩,⟨h.rulesCount,h.rules⟩,h.action,
        ⟨h.reservationsCount,h.reservations⟩,h.settingsCount⟩
    have hrefs : referencesIssue doc=none := referencesIssue_eq_none_iff.mpr
      ⟨h.profileIds,h.subscriptionIds,h.nodeIds,h.subscriptionsRefer,h.nodesResolve,h.keys,
        h.lengths,h.values⟩
    obtain ⟨action,haction⟩ := Option.isSome_iff_exists.mp h.agreed
    have hrest : (defaultProfileIssue doc <|> checks.network doc.setting <|>
        checks.roadWarrior doc.setting)=none := by
      simp only [Option.orElse_eq_none]
      exact ⟨h.defaultProfile,h.network,h.roadWarrior⟩
    rw [hfields]
    rw [hrefs]
    dsimp only
    rw [haction]
    rw [hrest]
    exact ⟨_,rfl⟩

end Documents

end PiGwPanel.BackupAcceptance
