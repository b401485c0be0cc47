import PiGwPanel.BackupRestore
import PiGwPanel.CheckedResult

/-!
# What the preflight of a restore leaves open

A restore stops the gateway after its document was validated and before the rows
are written, so whatever the tables refuse and the validators do not is refused
too late. The validators check ids, references and the identity of every node as
the document spells it. Three things are left to the tables: an id too large for
its column, nodes that become one once they are normalised, and reservations
that repeat an address.
-/

namespace PiGwPanel.BackupPreflight

open Models PyText ConfigStore BackupDocument BackupRestore SegmentRuleset CheckedResult List

/-- The identity a node of a document is stored under: only VLESS keeps a path. -/
def builtIdentity (node : Node) : NodeIdentity :=
  match node.protocol with
  | .vless => nodeIdentity node
  | _ => { nodeIdentity node with path := "" }

/-- A document whose rows the tables take. -/
structure Importable (doc : Document) : Prop where
  profileIds : ∀ profile ∈ doc.profiles, profile.id < rowIdLimit
  subscriptionIds : ∀ sub ∈ doc.subscriptions, sub.id < rowIdLimit
  nodeIds : ∀ node ∈ doc.nodes, node.id < rowIdLimit
  /-- No two nodes are told apart by a path their protocol drops. -/
  identities : (doc.nodes.map builtIdentity).Nodup
  /-- No two reservations pin one device. -/
  macs : (doc.reservations.map fun res => plainMac res.mac).Nodup
  /-- No two reservations pin one address. -/
  ips : (doc.reservations.map fun res => stripText res.ip).Nodup

theorem nodeIdentity_normalize (node : Node) : nodeIdentity node.normalize=builtIdentity node := by
  unfold Node.normalize builtIdentity
  cases hproto : node.protocol with
  | vless => cases htrans : node.transport <;> rfl
  | trojan => rfl
  | shadowsocks => rfl

theorem map_id_normalize (nodes : List Node) :
    (nodes.map Node.normalize).map Node.id=nodes.map Node.id := by
  rw [map_map]
  exact map_congr_left fun node _ => Node.normalize_id node

theorem map_nodeIdentity_normalize (nodes : List Node) :
    (nodes.map Node.normalize).map nodeIdentity=nodes.map builtIdentity := by
  rw [map_map]
  exact map_congr_left fun node _ => nodeIdentity_normalize node

theorem nodup_ids_of_referencesIssue {doc : Document} (h : referencesIssue doc=none) :
    (doc.profiles.map TuningProfile.id).Nodup ∧
      (doc.subscriptions.map BackupSubscription.id).Nodup ∧ (doc.nodes.map Node.id).Nodup := by
  simp only [referencesIssue,Option.orElse_eq_none] at h
  obtain ⟨hprofs,hsubs,hnodes,-⟩ := h
  have nodup {ids : List ℕ} {label : String} (hunique : uniqueIssue ids label=none) :
      ids.Nodup := by
    by_contra hrepeat
    simp [uniqueIssue,hrepeat] at hunique
  exact ⟨nodup hprofs,nodup hsubs,nodup hnodes⟩

theorem legalIds_map_iff {α : Type} {rows : List α} {id : α → ℕ} (h : (rows.map id).Nodup) :
    LegalIds (rows.map id) ↔ ∀ row∈rows, id row < rowIdLimit := by
  unfold LegalIds
  rw [forall_mem_map]
  exact and_iff_right h

/-- A document is written exactly when every table takes its rows. -/
theorem writeDocument_ok_iff (now : ℕ) (store : Store) (doc : Document) :
    (∃ result, writeDocument now store doc = .ok result) ↔
      LegalIds (doc.profiles.map TuningProfile.id) ∧
      LegalIds ((doc.subscriptions.map subscriptionRow).map Subscription.id) ∧
      SubscriptionsRefer doc.profiles (doc.subscriptions.map subscriptionRow) ∧
      LegalNodes (doc.nodes.map Node.normalize) ∧
      NodesRefer doc.profiles (doc.subscriptions.map subscriptionRow)
        (doc.nodes.map Node.normalize) ∧
      LegalReservations (doc.reservations.map (reservationRow now)) := by
  have hrules : ((range doc.rules.length).map (Nat.cast (R := ℤ))).Nodup :=
    nodup_range.map Nat.cast_injective
  rw [← map_position_ruleRow] at hrules
  unfold writeDocument
  simp only [ok_dite_iff,ok_ite_iff,exists_prop,hrules,Except.ok.injEq,exists_eq',and_true,
    true_and]

/-- A document with sound references is written exactly when it is importable. -/
theorem writeDocument_ok_iff_importable (now : ℕ) (store : Store) {doc : Document}
    (h : referencesIssue doc=none) :
    (∃ result, writeDocument now store doc = .ok result) ↔ Importable doc := by
  obtain ⟨hprofs,hsubs,hnodes⟩ := nodup_ids_of_referencesIssue h
  obtain ⟨hsubRefs,hnodeRefs⟩ := refer_of_referencesIssue h
  rw [writeDocument_ok_iff,map_id_subscriptionRow,legalIds_map_iff hprofs, legalIds_map_iff hsubs]
  unfold LegalNodes LegalReservations
  rw [map_id_normalize,map_nodeIdentity_normalize,legalIds_map_iff hnodes,map_map, map_map]
  constructor
  · rintro ⟨hprofileIds,hsubIds,-,⟨hnodeIds,hidents⟩,-,hmacs,hips⟩
    exact ⟨hprofileIds,hsubIds,hnodeIds,hidents,hmacs,hips⟩
  · intro himportable
    exact ⟨himportable.profileIds,himportable.subscriptionIds,hsubRefs,
      ⟨himportable.nodeIds,himportable.identities⟩,hnodeRefs,himportable.macs, himportable.ips⟩

/-- What a validated document is: the document given, with its profiles and default action filled
in, and with sound references. -/
theorem validateDocument_cases {checks : SettingChecks} {text : IpText} {doc validated : Document}
    (h : validateDocument checks text doc = .ok validated) :
    (∃ action, validated = { normalizeLegacyEmptyProfiles doc with defaultAction := action }) ∧
      referencesIssue (normalizeLegacyEmptyProfiles doc)=none := by
  simp only [validateDocument] at h
  split at h
  · exact absurd h (by simp)
  · split at h
    · exact absurd h (by simp)
    next hrefs =>
      split at h
      · exact absurd h (by simp)
      · split at h
        · exact absurd h (by simp)
        · exact ⟨⟨_,(Except.ok.inj h).symm⟩,hrefs⟩

theorem importable_normalizeLegacyEmptyProfiles (doc : Document) :
    Importable (normalizeLegacyEmptyProfiles doc) ↔ Importable doc := by
  unfold normalizeLegacyEmptyProfiles
  split
  next hlegacy =>
    have hempty : doc.profiles=[] := by
      simp only [Bool.and_eq_true,List.isEmpty_iff] at hlegacy
      exact hlegacy.2
    constructor
    · rintro ⟨-,hsubs,hnodes,hidents,hmacs,hips⟩
      exact ⟨by simp [hempty],hsubs,hnodes,hidents,hmacs,hips⟩
    · rintro ⟨-,hsubs,hnodes,hidents,hmacs,hips⟩
      exact ⟨by simp [legacyDefaultProfile,rowIdLimit],hsubs,hnodes,hidents,hmacs,hips⟩
  · exact Iff.rfl

/-- A document the preflight accepted is restored into
a store exactly when its ids fit their columns, no two of its nodes become one and no two of its
reservations pin one device or one address. Nothing of the receiving store matters. -/
theorem importState_ok_iff (checks : SettingChecks) (text : IpText) (now : ℕ) (store : Store)
    {doc validated : Document} (h : validateDocument checks text doc = .ok validated) :
    (∃ result, importState checks text now store doc = .ok result) ↔ Importable doc := by
  obtain ⟨⟨action,hvalidated⟩,hrefs⟩ := validateDocument_cases h
  have himp : importState checks text now store doc=writeDocument now store validated := by
    unfold importState
    rw [h]
    rfl
  have hwrite := writeDocument_ok_iff_importable now store hrefs
  rw [himp,writeDocument_ok_iff,hvalidated,← importable_normalizeLegacyEmptyProfiles doc,
    ← hwrite,writeDocument_ok_iff]

/-- A reader that knows one address. -/
def oneAddressText : IpText :=
  ⟨fun text => if text = "10.0.0.9" then some (.v4 0x0A000009#32) else none, fun _ => none⟩

/-- A Trojan node of a document, with an XHTTP path nothing reads. -/
def trojanNode (id : ℕ) (path : String) : Node :=
  { id := id, name := "relay", address := "198.51.100.7", port := 443, uuid := ""
    protocol := .trojan, password := "secret", sni := "example.org", flow := "", security := "tls"
    path := path, tuningProfileId := some 1 }

/-- A document with one profile, the given nodes and the given reservations. -/
def smallDocument (nodes : List Node) (reservations : List BackupReservation) : Document where
  schemaVersion := 3
  createdAt := none
  nodes := nodes
  subscriptions := []
  profiles := [legacyDefaultProfile]
  rules := []
  defaultAction := some "proxy"
  reservations := reservations
  settings := []

/-- A node and a reservation. -/
def plainDocument : Document :=
  smallDocument [trojanNode 1 "/a"] [⟨"AA:BB:CC:DD:EE:FF", " 10.0.0.9", "tv"⟩]

/-- Two nodes told apart by their paths alone. -/
def sharedNodeDocument : Document := smallDocument [trojanNode 1 "/a", trojanNode 2 "/b"] []

/-- Two devices pinned to one address. -/
def sharedAddressDocument : Document :=
  smallDocument [] [⟨"aa:bb:cc:dd:ee:01", "10.0.0.9", ""⟩, ⟨"aa:bb:cc:dd:ee:02", "10.0.0.9", ""⟩]

theorem importState_ok_iff_plainDocument : Importable plainDocument ∧
      ∃ result, importState acceptingChecks oneAddressText 0 freshStore plainDocument =
        .ok result := by
  have hvalid : (validateDocument acceptingChecks oneAddressText plainDocument).isOk=true := by
    decide +kernel
  obtain ⟨validated,h⟩ := exists_of_isOk hvalid
  have himportable : Importable plainDocument :=
    ⟨by decide,by decide,by decide,by decide,by decide,by decide⟩
  exact ⟨himportable,
    (importState_ok_iff acceptingChecks oneAddressText 0 freshStore h).mpr himportable⟩

/-- Both documents pass the preflight, and the tables refuse them. -/
theorem validated_documents_refused :
    ((validateDocument acceptingChecks oneAddressText sharedNodeDocument).isOk = true ∧
      (importState acceptingChecks oneAddressText 0 freshStore sharedNodeDocument).map
        Prod.snd = .error (constraintFailed "nodes")) ∧
    (validateDocument acceptingChecks oneAddressText sharedAddressDocument).isOk = true ∧
      (importState acceptingChecks oneAddressText 0 freshStore sharedAddressDocument).map
        Prod.snd = .error (constraintFailed "dhcp_reservations") := by
  decide +kernel

end PiGwPanel.BackupPreflight
