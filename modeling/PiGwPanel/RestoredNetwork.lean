import PiGwPanel.BackupPreflight
import PiGwPanel.NetworkSettings

/-!
# The network a restore builds

A restore validates the network settings of its document, predicts from them
what the host will carry, stores them and reads the plan back. Each of these
takes the text of a setting its own way: the validators and the prediction trim
it, the import stores it as it stands and the plan reads it as it stands. What
the document must be spelled like for the four to agree is worked out field by
field.
-/

namespace PiGwPanel.RestoredNetwork

open Models PyText ConfigStore BackupDocument BackupRestore BackupPreflight SegmentRuleset IpAddress
  CheckedResult NetworkSettings List

/-- `_as_imported`: the text a restore stores under a key, blank for a key it does not write. -/
def asImported (given : Given) (key : String) : String :=
  ((given key).map SettingValue.stored).getD ""

/-- The panel's checks of a document; those of the road-warrior values may be any. -/
abbrev panelChecks (live : Option Settings) (roadWarrior : Given → Option String) :
    SettingChecks := ⟨networkIssue live, roadWarrior⟩

/-- The fields whose values a candidate takes from the settings. -/
def candidateFields : List NetSetting := [.segmentIface, .segmentIp, .segmentIp6]

/-- `projected` of `_restore_candidate_data`. -/
def projected (given : Given) (key fallback : String) : String :=
  orDefault (stripText (asImported given key)) fallback

/-- `_restore_candidate_data`: the values the box is expected to run after the restore. -/
def restoreCandidateData (settings : Settings) (given : Given) : List (String × String) :=
  (candidateFields.map fun field =>
    (field.key, projected given field.key (settings.value field))) ++
    [("ipv6_enabled", projected given "ipv6_enabled" "0"),
     ("manage_segment", projected given "manage_segment" "1")]

/-- The gate of `host_provision`. -/
def manageSegment (store : Store) : Bool := flagOr store "manage_segment" "1"

/-- The value the validators approved for a field, when the document gives one. -/
def approved (given : Given) (field : NetSetting) : Option String :=
  match validateNetSettings given with
  | .ok (values, _) => values.lookup field
  | .error _ => none

section Import

variable {live : Option Settings} {roadWarrior : Given → Option String} {text : IpText} {now : ℕ}
  {store after : Store} {doc validated : Document} {summary : ImportSummary}

theorem writeDocument_stored (h : writeDocument now store doc = .ok (after, summary)) :
    after.settings=settingsAfter store (doc.defaultAction.getD "proxy")
        (restoredSettings (localKeys store) (documentSettings doc)) ∧
      after.reservations=doc.reservations.map (reservationRow now) := by
  unfold writeDocument at h
  dsimp only at h
  split_ifs at h
  obtain ⟨rfl,-⟩ := Prod.mk.inj (Except.ok.inj h)
  exact ⟨rfl,rfl⟩

variable {key : String} {checks : SettingChecks}

theorem importState_eq_writeDocument (hvalid : validateDocument checks text doc = .ok validated) :
    importState checks text now store doc=writeDocument now store validated := by
  unfold importState
  rw [hvalid]
  rfl

theorem network_of_validateDocument (hvalid : validateDocument checks text doc = .ok validated) :
    checks.network validated.setting=none := by
  simp only [validateDocument] at hvalid
  split at hvalid
  · cases hvalid
  · split at hvalid
    · cases hvalid
    · split at hvalid
      · cases hvalid
      · split at hvalid
        · cases hvalid
        next hissues =>
          simp only [Option.orElse_eq_none] at hissues
          rw [← Except.ok.inj hvalid]
          exact hissues.2.1

/-- The allow-listed settings a restore writes in its own way, or not at all. -/
def specialKeys : List String :=
  ["routing_default_action", "rw_public_key", "rw_enabled", "rw_private_key", "rw_clients"]

variable (hvalid : validateDocument checks text doc = .ok validated)

include hvalid

variable (himp : importState checks text now store doc = .ok (after, summary))

include himp

/-- Any other setting after the restore is the text of the document's value. -/
theorem getSetting_of_importState (hkey : key∈settingsKeys) (hplain : key∉specialKeys) :
    after.getSetting key=(validated.setting key).map SettingValue.stored := by
  rw [importState_eq_writeDocument hvalid] at himp
  obtain ⟨hsets,-⟩ := writeDocument_stored himp
  simp only [specialKeys,mem_cons,not_mem_nil,or_false,not_or] at hplain
  obtain ⟨haction,hpublic,hon,hprivate,hclients⟩ := hplain
  unfold Store.getSetting
  rw [hsets,settingsAfter_of_mem hkey haction,restoredSettings_of_ne hpublic hon]
  unfold documentSettings
  simp [settingsNeverBackedUp,haction,hprivate,hclients]

theorem settingOr_of_importState
    (hkey : key∈settingsKeys) (hplain : key∉specialKeys) (fallback : String) :
    after.settingOr key fallback=orDefault (asImported validated.setting key) fallback := by
  unfold Store.settingOr asImported
  rw [getSetting_of_importState hvalid himp hkey hplain]

/-- The fields of the plan after the restore. -/
theorem fromStore_of_importState (settings : Settings) (field : NetSetting) :
    (fromStore after settings).value field =
      orDefault (asImported validated.setting field.key) (settings.value field) := by
  rw [fromStore_value]
  apply settingOr_of_importState hvalid himp
  · cases field <;> decide
  · cases field <;> decide

/-- The pinned devices of the plan are those of the document, trimmed. -/
theorem reservations_of_importState (settings : Settings) :
    ∀ entry∈(fromStore after settings).reservations, ∃ res∈validated.reservations,
      entry=(plainMac res.mac, stripText res.ip, res.name) := by
  intro entry hentry
  rw [importState_eq_writeDocument hvalid] at himp
  obtain ⟨row,hrow,rfl⟩ := mem_map.mp hentry
  have hmem : row∈after.reservations :=
    (StableFirstMatch.sortByKey_perm Reservation.ip after.reservations).mem_iff.mp hrow
  rw [(writeDocument_stored himp).2] at hmem
  obtain ⟨res,hres,rfl⟩ := mem_map.mp hmem
  exact ⟨res,hres,rfl⟩

end Import

/-- A prediction is what will be read exactly when the text is trimmed, or blank and the fallback
itself. -/
theorem projected_eq_iff (given : Given) (key fallback : String) :
    projected given key fallback=orDefault (asImported given key) fallback ↔
      ∀ value, given key=some value → stripText value.stored=value.stored ∨
          stripText value.stored = "" ∧ value.stored=fallback := by
  unfold projected asImported
  cases hgiven : given key with
  | none =>
    have hblank : stripText "" = "" := by decide
    simp [hblank]
  | some value =>
    simp only [Option.map_some,Option.getD_some,Option.some.injEq,forall_eq']
    generalize value.stored=stored
    unfold orDefault
    by_cases hempty : stored = ""
    · subst hempty
      have hblank : stripText "" = "" := by decide
      simp [hblank]
    · rw [if_neg hempty]
      by_cases hblank : stripText stored = ""
      · rw [if_pos hblank,hblank]
        constructor
        · exact fun h => .inr ⟨rfl,h.symm⟩
        · rintro (h | h)
          · exact absurd h.symm hempty
          · exact h.2.symm
      · simp [hblank]

/-- Every projected value is the one the restored store resolves to: the plan's interface and
addresses, and the texts and answers of the two flags. -/
structure NamesTheRestored (data : List (String × String)) (settings : Settings) (after : Store) :
    Prop where
  address : ∀ field ∈ candidateFields,
    data.lookup field.key = some ((fromStore after settings).value field)
  ipv6 : data.lookup "ipv6_enabled" = some (after.settingOr "ipv6_enabled" "0")
  ipv6On : (data.lookup "ipv6_enabled" = some "1") ↔ (fromStore after settings).ipv6Enabled = true
  manage : data.lookup "manage_segment" = some (after.settingOr "manage_segment" "1")
  manageOn : (data.lookup "manage_segment" = some "1") ↔ manageSegment after = true

/-- A document whose candidate values carry no white space around them. Only a blank that happens
to be the configured default may. -/
structure WrittenPlainly (settings : Settings) (given : Given) : Prop where
  address : ∀ field ∈ candidateFields, ∀ value, given field.key = some value →
    stripText value.stored = value.stored ∨
      stripText value.stored = "" ∧ value.stored = settings.value field
  flag : ∀ key ∈ ["ipv6_enabled", "manage_segment"], ∀ value, given key = some value →
    stripText value.stored = value.stored

/-- The projected values by key. -/
theorem lookup_restoreCandidateData (settings : Settings) (given : Given) :
    (∀ field∈candidateFields, (restoreCandidateData settings given).lookup field.key =
      some (projected given field.key (settings.value field))) ∧
    (restoreCandidateData settings given).lookup "ipv6_enabled" =
      some (projected given "ipv6_enabled" "0") ∧
    (restoreCandidateData settings given).lookup "manage_segment" =
      some (projected given "manage_segment" "1") := by
  refine ⟨fun field hfield => ?_,by rfl,by rfl⟩
  simp only [candidateFields,mem_cons,not_mem_nil,or_false] at hfield
  rcases hfield with rfl | rfl | rfl <;> rfl

theorem projected_flag_iff (given : Given) (key : String) {fallback : String}
    (hfallback : fallback = "0" ∨ fallback = "1") :
    projected given key fallback=orDefault (asImported given key) fallback ↔
      ∀ value, given key=some value → stripText value.stored=value.stored := by
  rw [projected_eq_iff]
  have hsolid : stripText fallback ≠ "" := by
    rcases hfallback with rfl | rfl <;> decide
  constructor
  · intro h value hval
    rcases h value hval with htrim | ⟨hblank,heq⟩
    · exact htrim
    · rw [heq] at hblank
      exact absurd hblank hsolid
  · exact fun h value hval => .inl (h value hval)

/-- Whatever settings the panel runs with and
whatever store receives it, the values projected from an accepted document are those the restored
store resolves to exactly when the document writes them plainly. -/
theorem restoreCandidateData_iff (live : Option Settings) (roadWarrior : Given → Option String)
    (now : ℕ) (store : Store) (settings : Settings) {doc validated : Document} {after : Store}
    {summary : ImportSummary}
    (hvalid : validateDocument (panelChecks live roadWarrior) standardText doc = .ok validated)
    (himp : importState (panelChecks live roadWarrior) standardText now store doc =
      .ok (after, summary)) :
    NamesTheRestored (restoreCandidateData settings validated.setting) settings after ↔
      WrittenPlainly settings validated.setting := by
  obtain ⟨hlook,hlookup6,hlookupManage⟩ := lookup_restoreCandidateData settings validated.setting
  have hread (field : NetSetting) := fromStore_of_importState hvalid himp settings field
  have hread6 := settingOr_of_importState hvalid himp
    (show "ipv6_enabled" ∈ settingsKeys by decide) (by decide) "0"
  have hreadManage := settingOr_of_importState hvalid himp
    (show "manage_segment" ∈ settingsKeys by decide) (by decide) "1"
  have hflag6 := projected_flag_iff validated.setting "ipv6_enabled" (.inl rfl)
  have hflagManage := projected_flag_iff validated.setting "manage_segment" (.inr rfl)
  constructor
  · intro h
    constructor
    · intro field hfield
      have heq := h.address field hfield
      rw [hlook field hfield,hread field,Option.some.injEq] at heq
      exact (projected_eq_iff _ _ _).mp heq
    · intro key hkey
      have heq6 := h.ipv6
      have heqManage := h.manage
      rw [hlookup6,hread6,Option.some.injEq] at heq6
      rw [hlookupManage,hreadManage,Option.some.injEq] at heqManage
      simp only [mem_cons,not_mem_nil,or_false] at hkey
      rcases hkey with rfl | rfl
      · exact hflag6.mp heq6
      · exact hflagManage.mp heqManage
  · intro h
    have heq6 := hflag6.mpr (h.flag "ipv6_enabled" (by decide))
    have heqManage := hflagManage.mpr (h.flag "manage_segment" (by decide))
    refine ⟨fun field hfield => ?_,?_,?_,?_,?_⟩
    · rw [hlook field hfield,hread field,(projected_eq_iff _ _ _).mpr (h.address field hfield)]
    · rw [hlookup6,hread6,heq6]
    · rw [hlookup6,heq6,← hread6]
      simp [fromStore,flagOr]
    · rw [hlookupManage,hreadManage,heqManage]
    · rw [hlookupManage,heqManage,← hreadManage]
      simp [manageSegment,flagOr]

/-- The settings of a panel on its defaults. -/
def defaultSettings : Settings where
  segmentIface := "eth0.2"
  segmentIp := "192.168.10.2"
  segmentIp6 := ""
  dhcpStart := "192.168.10.30"
  dhcpEnd := "192.168.10.200"
  dhcpLease := "12h"
  clientDns := "1.1.1.1"
  clientDns6 := "2606:4700:4700::1111"
  dnsmasqLeases := "data/dnsmasq.leases"
  dataDir := "data"
  mgmtIface := "eth0"
  mgmtIp := "192.168.1.120"
  lanAccess := true
  tproxyPort := 52345
  tproxyPort6 := 52346
  fwmark := 0x40
  egressMark := 0x80
  table := 100

/-- A document of nothing but settings. -/
def settingsDocument (settings : List (String × SettingValue)) : Document :=
  { smallDocument [] [] with settings := settings }

/-- The checks of the panel on its defaults, without road-warrior values. -/
abbrev defaultChecks : SettingChecks := panelChecks (some defaultSettings) fun _ => none

/-- What a restore of these settings into a fresh store leaves behind. -/
def restored (settings : List (String × SettingValue)) : Option Store :=
  match importState defaultChecks standardText 0 freshStore (settingsDocument settings) with
  | .ok (after, _) => some after
  | .error _ => none

/-- A segment moved to another VLAN, with the IPv6 tunnel on. -/
def movedSettings : List (String × SettingValue) :=
  [("segment_iface", .text "eth0.5"), ("segment_ip", .text "192.168.20.1"),
   ("segment_ip6", .text "fd00:20::/64"), ("dhcp_start", .text "192.168.20.30"),
   ("dhcp_end", .text "192.168.20.200"), ("ipv6_enabled", .flag true)]

/-- The same move with white space around the texts. -/
def paddedSettings : List (String × SettingValue) :=
  [("segment_iface", .text " eth0.5"), ("segment_ip", .text "192.168.20.1\n"),
   ("manage_segment", .text " 1")]

theorem restored_moved : ∃ validated after summary,
    validateDocument defaultChecks standardText (settingsDocument movedSettings) = .ok validated ∧
    importState defaultChecks standardText 0 freshStore (settingsDocument movedSettings) =
      .ok (after, summary) ∧
    validated.setting=(settingsDocument movedSettings).setting := by
  have hvalid : (validateDocument defaultChecks standardText
      (settingsDocument movedSettings)).isOk=true := by decide +kernel
  have himp : (importState defaultChecks standardText 0 freshStore
      (settingsDocument movedSettings)).isOk=true := by decide +kernel
  obtain ⟨validated,hvalid⟩ := exists_of_isOk hvalid
  obtain ⟨⟨after,summary⟩,himp⟩ := exists_of_isOk himp
  obtain ⟨⟨action,rfl⟩,-⟩ := validateDocument_cases hvalid
  exact ⟨_,after,summary,hvalid,himp,rfl⟩

theorem restoreCandidateData_iff_moved : ∃ validated after summary,
      validateDocument defaultChecks standardText (settingsDocument movedSettings) = .ok validated ∧
      importState defaultChecks standardText 0 freshStore (settingsDocument movedSettings) =
        .ok (after, summary) ∧
      NamesTheRestored (restoreCandidateData defaultSettings validated.setting) defaultSettings
        after := by
  obtain ⟨validated,after,summary,hvalid,himp,hsetting⟩ := restored_moved
  refine ⟨validated,after,summary,hvalid,himp,?_⟩
  apply (restoreCandidateData_iff _ _ 0 freshStore defaultSettings hvalid himp).mpr
  rw [hsetting]
  have haddr : ∀ field∈candidateFields,
      ∀ value∈(settingsDocument movedSettings).setting field.key,
        stripText value.stored=value.stored := by decide +kernel
  have hflag : ∀ key∈["ipv6_enabled", "manage_segment"],
      ∀ value∈(settingsDocument movedSettings).setting key,
        stripText value.stored=value.stored := by decide +kernel
  exact ⟨fun field hfield value hval => .inl (haddr field hfield value hval),hflag⟩

/-- The prediction names `eth0.5` and an address, and a segment that is managed; the restored
store resolves to other names and to a segment that is not. -/
theorem padded_restore_not_named :
    (validateDocument defaultChecks standardText (settingsDocument paddedSettings)).isOk = true ∧
    (restoreCandidateData defaultSettings (settingsDocument paddedSettings).setting).lookup
      "segment_iface" = some "eth0.5" ∧
    (restored paddedSettings).map (fun after =>
      ((fromStore after defaultSettings).segmentIface,
        (fromStore after defaultSettings).segmentIp, manageSegment after)) =
      some (" eth0.5", "192.168.20.1\n", false) ∧
    (restoreCandidateData defaultSettings (settingsDocument paddedSettings).setting).lookup
      "manage_segment" = some "1" := by
  decide +kernel

variable {out : String} {field : NetSetting}

theorem exists_of_netValue {given : Given} (h : netValue given field = .ok (some out)) :
    ∃ value, given field.key=some value ∧ normalized field (stripText value.str) = .ok out := by
  unfold netValue at h
  split at h
  · cases h
  next value hgiven =>
    dsimp only at h
    split_ifs at h with hblank
    · cases h
    · obtain ⟨found,hfound,heq⟩ := exists_of_map_ok h
      rw [Option.some.inj heq] at hfound
      exact ⟨value,hgiven,hfound⟩

theorem normalized_empty (field : NetSetting) (out : String) : normalized field "" ≠ .ok out := by
  have hrefused : ∀ f : NetSetting, (normalized f "").isOk=false := by
    intro f
    cases f <;> decide +kernel
  intro h
  have hok := hrefused field
  rw [h] at hok
  cases hok

variable {found : Option String}

/-- The plan reads the approved value of a field exactly when the document spells it so, or leaves
the field empty rather than blank. -/
theorem value_eq_approved_iff {given : Given}
    (h : netValue given field = .ok found) (fallback : String) :
    orDefault (asImported given field.key) fallback=found.getD fallback ↔
      ∀ value, given field.key=some value →
        value.stored=found.getD "" ∨ found=none ∧ value.stored=fallback := by
  unfold asImported orDefault
  cases found with
  | none =>
    cases hgiven : given field.key with
    | none => simp
    | some value =>
      by_cases hempty : value.stored = ""
      · simp [hempty]
      · simp [hempty]
  | some out =>
    obtain ⟨value,hgiven,hout⟩ := exists_of_netValue h
    have hstored : value.stored ≠ "" := by
      intro hempty
      cases value with
      | text raw =>
        have hraw : raw = "" := hempty
        subst hraw
        exact normalized_empty field out hout
      | number n =>
        have htext : toString n = "" := hempty
        have hpos : 0<(toString n).length := by
          cases n with
          | ofNat m => exact Nat.length_repr_pos
          | negSucc m => simp [toString,Int.repr,Nat.length_repr_pos]
        rw [htext] at hpos
        exact absurd hpos (by decide)
      | flag on => cases on <;> exact absurd hempty (by decide)
    simp [hgiven,hstored]

/-- A value written so that the plan reads what its check approves. -/
structure Spelled (field : NetSetting) (fallback : String) (value : SettingValue) : Prop where
  /-- Without white space around it; what is left blank is empty, or the configured default. -/
  trimmed : stripText value.stored = value.stored ∨
    stripText value.stored = "" ∧ value.stored = fallback
  /-- A boolean is checked as `True` and stored as `1`. -/
  text : ∀ on, value ≠ .flag on
  /-- The IPv6 range is left blank, `auto` or a canonical /64. -/
  range : field = .segmentIp6 →
    stripText value.stored = "" ∨ value.stored.toLower = "auto" ∨ Canonical64 value.stored

theorem stripText_of_canonical64 {text : String} (h : Canonical64 text) : stripText text=text := by
  obtain ⟨high,scope,-,-,-,-,rfl⟩ := h
  have hhex : ∀ digit<16, isSpace (Nat.digitChar digit)=false := by decide
  have hdigit (value : ℕ) : isSpace ((Nat.toDigits 16 value).head?.getD ':')=false := by
    cases hdigits : Nat.toDigits 16 value with
    | nil => exact absurd hdigits Nat.toDigits_ne_nil
    | cons c rest =>
      obtain ⟨digit,hsmall,rfl⟩ := (toDigits_hex value).1 c (by simp [hdigits])
      exact hhex digit hsmall
  unfold stripText
  rw [strip_of_ends,String.ofList_toList]
  · match high with
    | [] => simp [isSpace]
    | [_] => simpa [String.toList_intercalate] using hdigit _
    | _ :: _ :: _ => simpa [String.toList_intercalate] using hdigit _
  · rw [String.toList_append,getLast?_append]
    simp [isSpace]

/-- The text of an IPv6 range is the one its check approves exactly when it is `auto` or
canonical. -/
theorem segmentIp6_iff {text : String} (h : normalized .segmentIp6 (stripText text) = .ok out) :
    text=out ↔ stripText text=text ∧ (text.toLower = "auto" ∨ Canonical64 text) := by
  simp only [normalized] at h
  split_ifs at h with hauto
  · rw [← Except.ok.inj h]
    constructor
    · intro htext
      rw [← htext] at hauto
      exact ⟨htext.symm,.inl hauto⟩
    · exact fun hplain => hplain.1.symm
  · unfold v6Prefix64 at h
    split at h
    · cases h
    next net hnet =>
      split_ifs at h with hlen
      rw [not_not] at hlen
      rw [← Except.ok.inj h]
      constructor
      · intro htext
        have hcanon := canonical64_of_ipv6Network hnet hlen
        rw [← htext] at hcanon
        exact ⟨stripText_of_canonical64 hcanon,.inr hcanon⟩
      · rintro ⟨htrim,hplain⟩
        rw [htrim] at hauto hnet
        exact (ipv6NetworkText_of_canonical64 (hplain.resolve_left hauto) hnet).symm

/-- Every other check approves the text it is given. -/
theorem eq_of_normalized {text : String} (hfield : field≠.segmentIp6)
    (h : normalized field text = .ok out) : out=text := by
  cases field with
  | segmentIp6 => exact absurd rfl hfield
  | _ => exact (Except.ok.inj (of_ite_ok h).2).symm

/-- Only an interface may be called `True`, and it is stored under another name. -/
theorem flag_not_stored {given : Given} {on : Bool} (hlease : field≠.dhcpLease)
    (h : netValue given field = .ok found) (hgiven : given field.key=some (.flag on)) :
    ∃ out, found=some out ∧ (SettingValue.flag on).stored≠out := by
  have hsolid : stripText (SettingValue.flag on).str ≠ "" ∧ (SettingValue.flag on).stored ≠
      stripText (SettingValue.flag on).str := by cases on <;> decide +kernel
  have hrefused : ∀ f≠NetSetting.dhcpLease, f≠.segmentIface →
      (normalized f (stripText (SettingValue.flag on).str)).isOk=false := by
    intro f
    cases f <;> cases on <;> decide +kernel
  unfold netValue at h
  rw [hgiven] at h
  dsimp only at h
  rw [if_neg fun hblank => hsolid.1 hblank.1] at h
  obtain ⟨out,hout,rfl⟩ := exists_of_map_ok h
  have hiface : field=.segmentIface := by
    by_contra hother
    have hno := hrefused field hlease hother
    rw [hout] at hno
    cases hno
  have hsame := eq_of_normalized (by simp [hiface]) hout
  exact ⟨out,rfl,fun hstored => hsolid.2 (hstored.trans hsame)⟩

/-- Whether the value a check approves is the one that is stored shows in the text. -/
theorem stored_iff_spelled {given : Given} {value : SettingValue} (hlease : field≠.dhcpLease)
    (h : netValue given field = .ok found) (hgiven : given field.key=some value)
    (fallback : String) : value.stored=found.getD "" ∨ found=none ∧ value.stored=fallback ↔
      Spelled field fallback value := by
  by_cases hflag : ∃ on, value=.flag on
  · obtain ⟨on,rfl⟩ := hflag
    obtain ⟨out,rfl,hother⟩ := flag_not_stored hlease h hgiven
    constructor
    · rintro (hstored | ⟨hnone,-⟩)
      · exact absurd hstored hother
      · cases hnone
    · exact fun hspelled => absurd rfl (hspelled.text on)
  · rw [not_exists] at hflag
    unfold netValue at h
    rw [hgiven] at h
    dsimp only at h
    have hstr : value.str=value.stored := by
      cases value with
      | flag on => exact absurd rfl (hflag on)
      | _ => rfl
    rw [hstr] at h
    split_ifs at h with hblank
    · -- a field left blank
      obtain rfl := Except.ok.inj h
      constructor
      · rintro (hempty | ⟨-,hdef⟩)
        · exact ⟨.inl (hblank.1.trans hempty.symm),hflag,fun _ => .inl hblank.1⟩
        · exact ⟨.inr ⟨hblank.1,hdef⟩,hflag,fun _ => .inl hblank.1⟩
      · intro hspelled
        rcases hspelled.trimmed with htrim | ⟨-,hdef⟩
        · exact .inl (htrim.symm.trans hblank.1)
        · exact .inr ⟨rfl,hdef⟩
    · obtain ⟨out,hout,rfl⟩ := exists_of_map_ok h
      have hsolid : stripText value.stored ≠ "" := by
        intro hempty
        rw [hempty] at hout
        exact normalized_empty field out hout
      have hval : value.stored=out ↔ stripText value.stored=value.stored ∧
          (field=.segmentIp6 → value.stored.toLower = "auto" ∨ Canonical64 value.stored) := by
        by_cases hsix : field=.segmentIp6
        · subst hsix
          simpa using segmentIp6_iff hout
        · rw [eq_of_normalized hsix hout]
          simp [hsix,eq_comm]
      simp only [Option.getD_some,reduceCtorEq,false_and,or_false]
      rw [hval]
      constructor
      · rintro ⟨htrim,hrange⟩
        exact ⟨.inl htrim,hflag,fun hsix => .inr (hrange hsix)⟩
      · intro hspelled
        refine ⟨hspelled.trimmed.resolve_right fun hempty => hsolid hempty.1,fun hsix => ?_⟩
        exact (hspelled.range hsix).resolve_left hsolid

/-- A document whose network settings are read back as they were approved. -/
structure ReadsAsApproved (settings : Settings) (given : Given) : Prop where
  spelled : ∀ field ≠ .dhcpLease, ∀ value, given field.key = some value →
    Spelled field (settings.value field) value
  /-- No text of a field of the DHCP server breaks a line, -/
  lines : ∀ field ≠ NetSetting.segmentIp6, ∀ value, given field.key = some value →
    hasLineBreak value.stored = false
  /-- no configured default that stands in for one, -/
  defaults : ∀ field ≠ .segmentIp6, asImported given field.key = "" →
    hasLineBreak (settings.value field) = false
  /-- and neither does the path of the leases. -/
  leases : hasLineBreak (absLeases settings.dnsmasqLeases settings.dataDir) = false

/-- A field reads as what is stored for it or as the default. -/
theorem read_free_iff {given : Given} {settings : Settings} :
    hasLineBreak (orDefault (asImported given field.key) (settings.value field))=false ↔
      (∀ value, given field.key=some value → hasLineBreak value.stored=false) ∧
        (asImported given field.key = "" → hasLineBreak (settings.value field)=false) := by
  have hblank : hasLineBreak ""=false := by decide
  unfold orDefault asImported
  cases hgiven : given field.key with
  | none => simp
  | some value =>
    by_cases hempty : value.stored = ""
    · simp [hempty,hblank]
    · simp [hempty]

/-- After the restore of an accepted document, the configuration of the DHCP server renders and
every interface name and address of the plan is the approved one, or the configured default for a
field left blank, exactly when the document reads as approved. The pinned devices are always the
document's. -/
theorem restoredPlan_iff (live : Option Settings) (roadWarrior : Given → Option String) (now : ℕ)
    (store : Store) (settings : Settings) {doc validated : Document} {after : Store}
    {summary : ImportSummary}
    (hvalid : validateDocument (panelChecks live roadWarrior) standardText doc = .ok validated)
    (himp : importState (panelChecks live roadWarrior) standardText now store doc =
      .ok (after, summary)) :
    ((∃ rendered, renderDnsmasq standardText (fromStore after settings) = .ok rendered) ∧
      (∀ field ≠ .dhcpLease, (fromStore after settings).value field =
        (approved validated.setting field).getD (settings.value field)) ∧
      ∀ entry ∈ (fromStore after settings).reservations, ∃ res ∈ validated.reservations,
        entry = (plainMac res.mac, stripText res.ip, res.name)) ↔
      ReadsAsApproved settings validated.setting := by
  have hnet : networkIssue live validated.setting=none := network_of_validateDocument hvalid
  have hfound : ∀ field, netValue validated.setting field =
      .ok (approved validated.setting field) := by
    intro field
    unfold networkIssue at hnet
    unfold approved
    cases hvals : validateNetSettings validated.setting with
    | error why => simp [hvals] at hnet
    | ok values => exact lookup_of_validateNetSettings hvals field
  have hread (field : NetSetting) := fromStore_of_importState hvalid himp settings field
  have heq (field : NetSetting) := value_eq_approved_iff (hfound field) (settings.value field)
  have hres := reservations_of_importState hvalid himp settings
  have hleases : (fromStore after settings).dnsmasqLeases =
      absLeases settings.dnsmasqLeases settings.dataDir := rfl
  rw [renderDnsmasq_ok_iff,hleases]
  simp only [hread]
  have hspelled (field : NetSetting) (hlease : field≠.dhcpLease) {value : SettingValue}
      (hgiven : validated.setting field.key=some value) :=
    stored_iff_spelled hlease (hfound field) hgiven (settings.value field)
  constructor
  · rintro ⟨⟨hpath,hfree⟩,hvals,-⟩
    refine ⟨fun field hfield value hgiven => ?_,fun field hfield => (read_free_iff.mp
      (hfree field hfield)).1,fun field hfield => (read_free_iff.mp (hfree field hfield)).2,hpath⟩
    exact (hspelled field hfield hgiven).mp ((heq field).mp (hvals field hfield) value hgiven)
  · intro h
    refine ⟨⟨h.leases,fun field hfield =>
      read_free_iff.mpr ⟨h.lines field hfield,h.defaults field hfield⟩⟩,
      fun field hfield => ?_,hres⟩
    apply (heq field).mpr
    intro value hgiven
    exact (hspelled field hfield hgiven).mpr (h.spelled field hfield value hgiven)

theorem movedSettings_readsAsApproved :
    ReadsAsApproved defaultSettings (settingsDocument movedSettings).setting := by
  have hmem (field : NetSetting) : field∈checkOrder := by cases field <;> decide
  have htexts : ∀ field∈checkOrder, ∀ value∈(settingsDocument movedSettings).setting field.key,
      stripText value.stored=value.stored ∧ (∀ on, value≠.flag on) ∧
        hasLineBreak value.stored=false := by decide +kernel
  have hdefaults : ∀ field∈checkOrder,
      hasLineBreak (defaultSettings.value field)=false := by decide +kernel
  have hrange : Canonical64 "fd00:20::/64" :=
    ⟨[0xfd00,0x20],none,by decide,by decide,by decide,by simp,by decide⟩
  refine ⟨fun field _ value hval => ?_,
    fun field _ value hval => (htexts field (hmem field) value hval).2.2,
    fun field _ _ => hdefaults field (hmem field),by decide +kernel⟩
  obtain ⟨htrim,htext,-⟩ := htexts field (hmem field) value hval
  refine ⟨.inl htrim,htext,?_⟩
  rintro rfl
  obtain rfl : SettingValue.text "fd00:20::/64"=value := Option.some.inj hval
  exact .inr (.inr hrange)

theorem restoredPlan_iff_moved : ∃ validated after summary,
      validateDocument defaultChecks standardText (settingsDocument movedSettings) = .ok validated ∧
      importState defaultChecks standardText 0 freshStore (settingsDocument movedSettings) =
        .ok (after, summary) ∧
      (∃ rendered, renderDnsmasq standardText (fromStore after defaultSettings) = .ok rendered) ∧
      ∀ field ≠ .dhcpLease, (fromStore after defaultSettings).value field =
        (approved validated.setting field).getD (defaultSettings.value field) := by
  obtain ⟨validated,after,summary,hvalid,himp,hsetting⟩ := restored_moved
  have hreads : ReadsAsApproved defaultSettings validated.setting := by
    rw [hsetting]
    exact movedSettings_readsAsApproved
  obtain ⟨hrender,hvals,-⟩ :=
    (restoredPlan_iff _ _ 0 freshStore defaultSettings hvalid himp).mpr hreads
  exact ⟨validated,after,summary,hvalid,himp,hrender,hvals⟩

/-- An IPv6 resolver whose scope holds a line break. -/
def scopedSettings : List (String × SettingValue) :=
  [("client_dns6", .text "fe80::1%eth0\nx")]

/-- Both documents are accepted and restored. The plan of the first names the interface with the
blank in front, which no check approved; the plan of the second does not render. -/
theorem restored_plan_not_approved :
    ((validateDocument defaultChecks standardText (settingsDocument paddedSettings)).isOk = true ∧
      approved (settingsDocument paddedSettings).setting .segmentIface = some "eth0.5" ∧
      (restored paddedSettings).map (fun after => (fromStore after defaultSettings).segmentIface) =
        some " eth0.5") ∧
    (validateDocument defaultChecks standardText (settingsDocument scopedSettings)).isOk = true ∧
      (restored scopedSettings).map (fun after =>
        renderDnsmasq standardText (fromStore after defaultSettings)) =
        some (.error "client_dns6 must not contain a line break") := by
  decide +kernel

end PiGwPanel.RestoredNetwork
