import PiGwPanel.FeedParsers

/-!
# One bad entry and the rest of its feed

The parsers promise that an entry they cannot use costs no more than itself. The
entries that break the promise are named format by format: what is said of an
entry is when reading it raises, and the loop over the entries does the rest.
-/

namespace PiGwPanel.FeedIsolation

open Models NodeSecurity PyText PyValue List Option
open EntryLoop BackupDocument FeedParsers CheckedResult

/-- The computation returns. -/
def Returns {α : Type} (result : Except PyError α) : Prop := ∃ value, result = .ok value

variable {α β : Type} {value : Value} {body : String}

theorem returns_pure (value : α) : Returns (pure value : Except PyError α) := ⟨value,rfl⟩

theorem returns_bind_iff {first : Except PyError α} {next : α → Except PyError β} :
    Returns (first >>= next) ↔ ∃ value, first = .ok value ∧ Returns (next value) := by
  constructor
  · rintro ⟨out,h⟩
    obtain ⟨value,hfst,hnext⟩ := exists_of_bind_ok h
    exact ⟨value,hfst,out,hnext⟩
  · rintro ⟨value,hfst,out,hnext⟩
    refine ⟨out,?_⟩
    rw [hfst]
    exact hnext

theorem returns_ite_iff {p : Prop} [Decidable p] {yes no : Except PyError α} :
    Returns (if p then yes else no) ↔ (p → Returns yes) ∧ (¬p → Returns no) := by
  by_cases h : p <;> simp [h]

variable (lib : Library)

/-- The text of a value that has one. -/
def textOf (value : Value) : String := value.text lib.render

/-- The texts `alpnText` writes out. -/
def alpnValues : Value → List Value
  | .list items => items
  | other => [other.orElse (.str "")]

/-- What `alpnText` makes of a value it can write out. -/
def alpnOf (alpn : Value) : String := (alpnText lib alpn).toOption.getD ""

/-- The port `safe_port` finds. -/
def portOf (value : Value) : Option LegalPort :=
  match portValue value with
  | .ok port => portNumber port
  | .error _ => none

/-- Every value of the list has a text. -/
def AllShort (values : List Value) : Prop := ∀ value ∈ values, value.long = false

variable {lib}

theorem str_of_not_long (h : value.long=false) : lib.str value = .ok (textOf lib value) := by
  simp [Library.str,Value.toStr,h,textOf]

variable {next : String → Except PyError β}

theorem returns_str_bind_iff :
    Returns (lib.str value >>= next) ↔ value.long=false ∧ Returns (next (textOf lib value)) :=
  toStr_bind_returns_iff

theorem not_long_str (text : String) : (Value.str text).long=false := by
  simp [Value.long]

theorem returns_noteSkip_iff (raw : Value) :
    Returns (noteSkip lib raw) ↔ (raw.orElse (.str "")).long=false := by
  rw [noteSkip,returns_str_bind_iff]
  exact and_iff_left (returns_pure _)

theorem returns_invalid : Returns (invalid lib) :=
  (returns_noteSkip_iff _).mpr (not_long_orElse (not_long_str _) (not_long_str _))

theorem portValue_eq_overflow_iff :
    portValue value = .error .overflowError ↔ value.infinite=true := by
  unfold portValue
  split
  · simp [Value.infinite]
  · simp [Value.infinite]
  · exact toInt_eq_overflow_iff

theorem safePort_eq (value : Value) :
    safePort value = if value.infinite then .error .overflowError else .ok (portOf value) := by
  by_cases h : value.infinite=true
  · simp [safePort,portValue_eq_overflow_iff.mpr h,h]
  · rw [if_neg h]
    have hno : portValue value≠.error .overflowError := fun hc => h (portValue_eq_overflow_iff.mp hc)
    have hkinds : ∀ why, portValue value = .error why →
        why∈[PyError.typeError,.valueError,.overflowError] := by
      intro why hwhy
      unfold portValue at hwhy
      split at hwhy
      · cases hwhy
      · cases hwhy
      · exact toInt_error hwhy
    unfold safePort portOf
    cases hport : portValue value with
    | ok port => rfl
    | error why =>
      have hwhy := hkinds why hport
      simp only [mem_cons,not_mem_nil,or_false] at hwhy
      obtain rfl | rfl | rfl := hwhy
      · rfl
      · rfl
      · exact absurd hport hno

theorem returns_safePort_bind_iff {next : Option LegalPort → Except PyError β} :
    Returns (safePort value >>= next) ↔ value.infinite=false ∧ Returns (next (portOf value)) := by
  rw [safePort_eq]
  cases h : value.infinite <;> simp [Returns,bind,Except.bind]

theorem returns_mapM_str_iff (items : List Value) :
    Returns (items.mapM lib.str) ↔ AllShort items := by
  induction items with
  | nil => simp [Returns,AllShort,pure,Except.pure]
  | cons item rest ih =>
    rw [mapM_cons,returns_str_bind_iff,returns_bind_iff]
    have hrest : (∃ texts, rest.mapM lib.str = .ok texts ∧
        Returns (pure (textOf lib item::texts) : Except PyError (List String))) ↔
        AllShort rest := by
      rw [← ih]
      exact ⟨fun ⟨texts,h,_⟩ => ⟨texts,h⟩, fun ⟨texts,h⟩ => ⟨texts,h,returns_pure _⟩⟩
    rw [hrest]
    simp [AllShort]

theorem returns_alpnText_iff (alpn : Value) :
    Returns (alpnText lib alpn) ↔ AllShort (alpnValues alpn) := by
  have hone (value : Value) : Returns (lib.str value) ↔ AllShort [value] := by
    rw [← bind_pure (lib.str value),returns_str_bind_iff]
    simp [AllShort,returns_pure]
  cases alpn with
  | list items =>
    rw [alpnValues,← @returns_mapM_str_iff lib,alpnText,returns_bind_iff]
    exact ⟨fun h => h.imp fun _ h => h.1,fun h => h.imp fun _ h => ⟨h,returns_pure _⟩⟩
  | _ => exact hone _

theorem returns_alpnText_bind_iff {alpn : Value} : Returns (alpnText lib alpn >>= next) ↔
      AllShort (alpnValues alpn) ∧ Returns (next (alpnOf lib alpn)) := by
  rw [returns_bind_iff,← @returns_alpnText_iff lib]
  constructor
  · rintro ⟨text,h,hnext⟩
    have htext : alpnOf lib alpn=text := by simp [alpnOf,h,Except.toOption]
    exact ⟨⟨text,h⟩,htext ▸ hnext⟩
  · rintro ⟨⟨text,h⟩,hnext⟩
    have htext : alpnOf lib alpn=text := by simp [alpnOf,h,Except.toOption]
    exact ⟨text,h,htext ▸ hnext⟩

/-! ### JSON nodes -/

section JsonNodes

variable (lib)

/-- The protocol a JSON entry names. -/
def jsonProtocol (item : Fields) : String :=
  lib.word (textOf lib ((get item "protocol").orElse (.str "vless")))

/-- The entry passes every check ahead of its port. -/
def ReachesPort (item : Fields) : Prop :=
  (get item "address").truthy = true ∧ jsonProtocol lib item ∈ protocols ∧
    hasCredential (jsonProtocol lib item) (textOf lib (getOr item "uuid" (.str "")))
      (textOf lib (getOr item "password" (.str "")))
      (lib.word (textOf lib (getOr item "method" (.str "")))) = true

/-- A JSON node whose port, if it comes to that, is not an infinite number. -/
def JsonReadable (item : Value) : Prop :=
  ∀ fields, item.dict? = some fields → ReachesPort lib fields → (get fields "port").infinite = false

variable {lib}

variable {item : Fields}

theorem returns_jsonBuild (h : longFields item=false)
    (protocol uuid password method net pbk : String) (port : Option LegalPort) :
    Returns (jsonBuild lib item protocol uuid password method net pbk port) := by
  have htext (key default : String) : (getOr item key (.str default)).long=false :=
    not_long_getOr h key (not_long_str default)
  cases port with
  | none => exact returns_invalid
  | some port =>
    simp only [jsonBuild,returns_str_bind_iff,htext,not_long_getOr h _ (not_long_get h _),
      not_long_get h,true_and]
    exact returns_pure _

/-- What the `try` block of a JSON entry comes to. -/
theorem jsonTry_cases (h : longFields item=false) :
    (ReachesPort lib item ∧ (get item "port").infinite=true ∧
        jsonTry lib item = .error .overflowError) ∨
      ((ReachesPort lib item → (get item "port").infinite=false) ∧ Returns (jsonTry lib item)) := by
  have htext (key default : String) : lib.str (getOr item key (.str default)) =
      .ok (textOf lib (getOr item key (.str default))) :=
    str_of_not_long (not_long_getOr h key (not_long_str default))
  by_cases haddr : (get item "address").truthy=true
  swap
  · refine .inr ⟨fun hreach => absurd hreach.1 haddr,?_⟩
    rw [jsonTry,if_neg haddr]
    exact returns_invalid
  have htry : jsonTry lib item=jsonCredential lib item (jsonProtocol lib item) := by
    rw [jsonTry,if_pos haddr, str_of_not_long (not_long_orElse (not_long_get h _) (not_long_str _))]
    rfl
  by_cases hknown : jsonProtocol lib item∈protocols
  swap
  · refine .inr ⟨fun hreach => absurd hreach.2.1 hknown,?_⟩
    rw [htry,jsonCredential,if_neg hknown,returns_noteSkip_iff]
    exact not_long_orElse (not_long_str _) (not_long_str _)
  rw [jsonCredential,if_pos hknown,htext,htext,htext] at htry
  by_cases hhas : hasCredential (jsonProtocol lib item) (textOf lib (getOr item "uuid" (.str "")))
      (textOf lib (getOr item "password" (.str "")))
      (lib.word (textOf lib (getOr item "method" (.str ""))))=true
  swap
  · refine .inr ⟨fun hreach => absurd hreach.2.2 hhas,?_⟩
    rw [htry]
    change Returns (jsonEndpoint ..)
    rw [jsonEndpoint,if_neg hhas]
    exact returns_invalid
  change jsonTry lib item=jsonEndpoint .. at htry
  rw [jsonEndpoint,if_pos hhas,htext,htext,safePort_eq] at htry
  cases hport : (get item "port").infinite with
  | true =>
    rw [hport] at htry
    exact .inl ⟨⟨haddr,hknown,hhas⟩,rfl,htry⟩
  | false =>
    rw [hport] at htry
    refine .inr ⟨fun _ => rfl,?_⟩
    rw [htry]
    exact returns_jsonBuild h ..

theorem returns_readJsonNode_iff {item : Value} (h : item.long=false) :
    Returns (readJsonNode lib item) ↔ JsonReadable lib item := by
  cases item with
  | dict fields =>
    have hfields : longFields fields=false := by simpa only [Value.long] using h
    have hreadable : JsonReadable lib (.dict fields) ↔
        (ReachesPort lib fields → (get fields "port").infinite=false) := by
      simp [JsonReadable,Value.dict?]
    rw [hreadable]
    obtain ⟨hreach,hport,htry⟩ | ⟨hport,outcome,htry⟩ := @jsonTry_cases lib _ hfields
    · have hraises : ¬Returns (readJsonNode lib (.dict fields)) := by
        simp [Returns,readJsonNode,htry]
      exact iff_of_false hraises fun hc => by simp [hc hreach] at hport
    · have hret : Returns (readJsonNode lib (.dict fields)) := by
        simp [Returns,readJsonNode,htry]
      exact iff_of_true hret hport
  | _ =>
    exact iff_of_true returns_invalid fun fields hdict => by simp [Value.dict?] at hdict

end JsonNodes

/-! ### Xray configs -/

variable {value : Value}

section Configs

variable (lib)

/-- A config whose outbounds can be looped over, and whose server, if it comes to that, has no
infinite number for a port. -/
def ConfigReadable (config : Value) : Prop :=
  ∀ fields, config.dict? = some fields →
    ((get fields "outbounds").orElse (.list [])).iterable = true ∧
      ∀ outbound protocol server credential, proxyOutbound fields = .ok (some outbound) →
        outboundProtocol outbound = some protocol →
        xrayServer lib protocol (get outbound "settings").fields = .ok (some (server, credential)) →
        (get server "port").infinite = false

variable {lib}

theorem not_long_firstDict (h : value.long=false) {fields : Fields}
    (hfst : firstDict value=some fields) : longFields fields=false := by
  unfold firstDict at hfst
  split at hfst
  next first rest =>
    exact not_long_dict? (not_long_of_mem h mem_cons_self) hfst
  · cases hfst

variable {settings server stream config outbound : Fields}

section

variable (h : longFields settings=false)

include h

theorem not_long_vlessServer {user : Fields} (hsrv : vlessServer settings=some (server, user)) :
    longFields server=false ∧ longFields user=false := by
  simp only [vlessServer,bind_eq_bind,bind_eq_some_iff] at hsrv
  obtain ⟨first,hfst,second,hsnd,heq⟩ := hsrv
  have hshort := not_long_firstDict (not_long_get h _) hfst
  split at heq
  · obtain ⟨rfl,rfl⟩ := heq
    exact ⟨hshort,not_long_firstDict (not_long_get hshort _) hsnd⟩
  · cases heq

theorem not_long_passwordServer
    (hsrv : passwordServer settings=some server) : longFields server=false := by
  simp only [passwordServer,bind_eq_bind,bind_eq_some_iff] at hsrv
  obtain ⟨first,hfst,heq⟩ := hsrv
  split at heq
  · rw [← some.inj heq]
    exact not_long_firstDict (not_long_get h _) hfst
  · cases heq

/-- The server of an outbound can always be looked for, and what is found is short. -/
theorem xrayServer_ok (protocol : String) : ∃ found, xrayServer lib protocol settings = .ok found ∧
      ∀ server credential, found=some (server, credential) → longFields server=false := by
  have hor {fields : Fields} (hfields : longFields fields=false) (key : String) :
      ((get fields key).orElse (.str "")).long=false :=
    not_long_orElse (not_long_get hfields key) (not_long_str "")
  unfold xrayServer
  split
  · cases hvless : vlessServer settings with
    | none => exact ⟨none,rfl,by simp⟩
    | some pair =>
      obtain ⟨server,user⟩ := pair
      obtain ⟨hsrv,huser⟩ := not_long_vlessServer h hvless
      simp only [str_of_not_long (not_long_get huser _),str_of_not_long (hor huser _)]
      exact ⟨_,rfl,by simp_all⟩
  · cases hpass : passwordServer settings with
    | none => exact ⟨none,rfl,by simp⟩
    | some server =>
      have hsrv := not_long_passwordServer h hpass
      simp only [str_of_not_long (not_long_get hsrv _)]
      split
      · simp only [ssCredential,str_of_not_long (hor hsrv _)]
        refine ⟨_,rfl,fun found credential hfound => ?_⟩
        split at hfound
        · cases hfound
        · simp_all
      · exact ⟨_,rfl,by simp_all⟩

end

theorem not_long_xhttpSettings (h : longFields stream=false) :
    longFields (xhttpSettings stream)=false := by
  unfold xhttpSettings
  cases hfound : ["xhttpSettings", "splithttpSettings"].findSome?
      fun key => (get stream key).dict? with
  | none => simp [longFields]
  | some fields =>
    obtain ⟨key,-,hdict⟩ := exists_of_findSome?_eq_some hfound
    exact not_long_dict? (not_long_get h key) hdict

theorem allShort_alpnValues {alpn : Value} (h : alpn.long=false) : AllShort (alpnValues alpn) := by
  intro value hval
  unfold alpnValues at hval
  split at hval
  · exact not_long_of_mem h hval
  · rw [mem_singleton] at hval
    rw [hval]
    exact not_long_orElse h (not_long_str _)

section

variable (hconfig : longFields config=false)

include hconfig

theorem returns_xrayBuild
    (hstream : longFields stream=false) (protocol : String) (credential : Credential)
    (address : String) (port : LegalPort) (transport : String) :
    Returns (xrayBuild lib config stream protocol credential address port transport) := by
  have hreal := not_long_fields (not_long_get hstream "realitySettings")
  have htls := not_long_fields (not_long_get hstream "tlsSettings")
  have hxhttp := not_long_xhttpSettings hstream
  have hor {value : Value} (hval : value.long=false) (text : String) :
      (value.orElse (.str text)).long=false := not_long_orElse hval (not_long_str text)
  unfold xrayBuild
  simp only [returns_str_bind_iff,returns_alpnText_bind_iff]
  exact ⟨hor (not_long_get hconfig _) _,hor (not_long_get hstream _) _,
    hor (not_long_orElse (not_long_get hreal _) (not_long_get htls _)) _,
    hor (not_long_orElse (not_long_get hreal _) (not_long_get hreal _)) _,
    hor (not_long_get hreal _) _,
    hor (not_long_orElse (not_long_get hreal _) (not_long_get htls _)) _,
    allShort_alpnValues (not_long_get htls _),hor (not_long_get hxhttp _) _,
    hor (not_long_get hxhttp _) _,hor (not_long_get hxhttp _) _,returns_pure _⟩

theorem returns_xrayStream
    (hstream : longFields stream=false) (protocol : String) (credential : Credential)
    (address : String) (port : Option LegalPort) :
    Returns (xrayStream lib config stream protocol credential address port) := by
  cases port with
  | none => exact returns_invalid
  | some port =>
    rw [xrayStream,returns_ite_iff,returns_str_bind_iff]
    refine ⟨fun _ => returns_invalid,fun _ => ⟨not_long_orElse (not_long_get hstream _)
      (not_long_str _),?_⟩⟩
    cases xrayTransport lib protocol _ with
    | none => exact returns_invalid
    | some transport => exact returns_xrayBuild hconfig hstream ..

theorem returns_xrayNode_iff (houtbound : longFields outbound=false) (protocol : String) :
    Returns (xrayNode lib config outbound protocol) ↔
      ∀ server credential, xrayServer lib protocol (get outbound "settings").fields =
        .ok (some (server, credential)) → (get server "port").infinite=false := by
  have hstream := not_long_fields (not_long_get houtbound "streamSettings")
  obtain ⟨found,hfound,hsrv⟩ := @xrayServer_ok lib _
    (not_long_fields (not_long_get houtbound "settings")) protocol
  rw [xrayNode,hfound]
  cases found with
  | none => exact iff_of_true returns_invalid (by simp)
  | some pair =>
    obtain ⟨server,credential⟩ := pair
    have hshort := hsrv server credential rfl
    change Returns (xrayEndpoint ..) ↔ _
    rw [xrayEndpoint,returns_str_bind_iff,returns_safePort_bind_iff]
    constructor
    · rintro ⟨-,hport,-⟩ other _ heq
      simp only [Except.ok.injEq,some.injEq,Prod.mk.injEq] at heq
      rw [← heq.1]
      exact hport
    · intro hport
      exact ⟨not_long_orElse (not_long_get hshort _) (not_long_str _),hport server credential rfl,
        returns_xrayStream hconfig hstream ..⟩

end

theorem mem_of_pickOutbound {outbounds : List Fields} (h : pickOutbound outbounds=some outbound) :
    outbound∈outbounds := by
  unfold pickOutbound at h
  rw [orElse_eq_some] at h
  obtain h | ⟨-,h⟩ := h
  · exact mem_of_find?_eq_some h
  · exact mem_of_find?_eq_some h

theorem not_long_proxyOutbound (h : longFields config=false)
    (houtbound : proxyOutbound config = .ok (some outbound)) : longFields outbound=false := by
  obtain ⟨items,hitems,hpick⟩ := exists_of_bind_ok houtbound
  have hmem := mem_of_pickOutbound (Except.ok.inj hpick)
  obtain ⟨item,hitem,hdict⟩ := mem_filterMap.mp hmem
  have houtbounds : ((get config "outbounds").orElse (.list [])).long=false :=
    not_long_orElse (not_long_get h _) (by simp [Value.long,longItems])
  cases hval : (get config "outbounds").orElse (.list []) with
  | list all =>
    rw [hval] at hitems houtbounds
    rw [← Except.ok.inj hitems] at hitem
    exact not_long_dict? (not_long_of_mem houtbounds hitem) hdict
  | dict fields =>
    rw [hval] at hitems houtbounds
    simp only [Value.long] at houtbounds
    rw [← Except.ok.inj hitems] at hitem
    obtain ⟨field,hfield,rfl⟩ := mem_map.mp hitem
    exact not_long_dict? (not_long_of_mem_fields houtbounds hfield).1 hdict
  | str text =>
    rw [hval] at hitems
    rw [← Except.ok.inj hitems] at hitem
    obtain ⟨c,-,rfl⟩ := mem_map.mp hitem
    simp [Value.dict?] at hdict
  | object seen =>
    rw [hval] at hitems
    unfold Value.iterate at hitems
    dsimp only at hitems
    split at hitems
    · rw [← Except.ok.inj hitems] at hitem
      rw [eq_of_mem_replicate hitem] at hdict
      simp [Value.dict?] at hdict
    · cases hitems
  | _ =>
    rw [hval] at hitems
    cases hitems

/-- Reading a config raises exactly when its outbounds cannot be looped over or it comes to an
infinite port. -/
theorem returns_readConfig_iff {config : Value} (h : config.long=false) :
    Returns (readConfig lib config) ↔ ConfigReadable lib config := by
  cases config with
  | dict fields =>
    have hfields : longFields fields=false := by simpa only [Value.long] using h
    have hreadable : ConfigReadable lib (.dict fields) ↔
        ((get fields "outbounds").orElse (.list [])).iterable=true ∧
          ∀ outbound protocol server credential, proxyOutbound fields = .ok (some outbound) →
            outboundProtocol outbound=some protocol →
            xrayServer lib protocol (get outbound "settings").fields =
              .ok (some (server, credential)) →
            (get server "port").infinite=false := by
      simp [ConfigReadable,Value.dict?]
    rw [hreadable,readConfig,returns_bind_iff]
    constructor
    · rintro ⟨picked,hpicked,hnext⟩
      obtain ⟨items,hitems,-⟩ := exists_of_bind_ok hpicked
      refine ⟨iterate_returns_iff.mp ⟨items,hitems⟩,
        fun outbound protocol server credential hout hproto => ?_⟩
      obtain rfl : picked=some outbound := Except.ok.inj (hpicked.symm.trans hout)
      simp only [readOutbound,hproto] at hnext
      exact (returns_xrayNode_iff hfields (not_long_proxyOutbound hfields hout) protocol).mp
        hnext server credential
    · rintro ⟨hloop,hport⟩
      obtain ⟨items,hitems⟩ := iterate_returns_iff.mpr hloop
      have hpicked : proxyOutbound fields = .ok (pickOutbound (items.filterMap Value.dict?)) := by
        rw [proxyOutbound,hitems]
        rfl
      refine ⟨_,hpicked,?_⟩
      cases hout : pickOutbound (items.filterMap Value.dict?) with
      | none => exact returns_invalid
      | some outbound =>
        rw [hout] at hpicked
        have hshort := not_long_proxyOutbound hfields hpicked
        cases hproto : outboundProtocol outbound with
        | none =>
          simp only [readOutbound,hproto]
          rw [returns_noteSkip_iff]
          exact not_long_orElse (not_long_get hshort _) (not_long_str _)
        | some protocol =>
          simp only [readOutbound,hproto]
          exact (returns_xrayNode_iff hfields hshort protocol).mpr fun server credential =>
            hport outbound protocol server credential hpicked hproto
  | _ =>
    exact iff_of_true returns_invalid fun fields hdict => by simp [Value.dict?] at hdict

end Configs

/-! ### Clash proxies -/

section Proxies

/-- The values of a VLESS proxy that are written out before its port is read. -/
def vlessTexts (proxy : Fields) : List Value :=
  [getOr (get proxy "reality-opts").fields "public-key" (.str ""), (optsValues proxy).1,
    (optsValues proxy).2] ++ alpnValues (get proxy "alpn")

/-- The values of a VLESS proxy that are written out once it has a port. -/
def vlessFields (proxy : Fields) : List Value :=
  [getOr proxy "name" (getOr proxy "server" (.str "")), getOr proxy "server" (.str ""),
    getOr proxy "uuid" (.str ""), getOr proxy "servername" (getOr proxy "sni" (.str "")),
    getOr (get proxy "reality-opts").fields "short-id" (.str ""),
    getOr proxy "client-fingerprint" (.str "chrome"),
    getOr proxy "flow" (.str "xtls-rprx-vision")]

/-- A VLESS proxy that can be read to its end. -/
structure VlessReadable (proxy : Fields) : Prop where
  texts : AllShort (vlessTexts proxy)
  port : (get proxy "port").infinite = false
  fields : (portOf (get proxy "port")).isSome = true → AllShort (vlessFields proxy)

variable (lib)

/-- The values of a Trojan proxy over TCP that are written out. -/
def trojanFields (proxy : Fields) : List Value :=
  [getOr (get proxy "reality-opts").fields "public-key" (.str ""),
    getOr proxy "name" (.str (textOf lib (getOr proxy "server" (.str "")))),
    getOr proxy "sni" (getOr proxy "servername" (.str "")),
    getOr (get proxy "reality-opts").fields "short-id" (.str ""),
    getOr proxy "client-fingerprint" (.str "chrome")] ++ alpnValues (get proxy "alpn")

/-- The Trojan proxy has a port, an address and a password. -/
def TrojanEndpoint (proxy : Fields) : Prop :=
  (portOf (get proxy "port")).isSome = true ∧ textOf lib (getOr proxy "server" (.str "")) ≠ "" ∧
    textOf lib (getOr proxy "password" (.str "")) ≠ ""

/-- A Trojan proxy that can be read to its end. -/
structure TrojanReadable (proxy : Fields) : Prop where
  port : (get proxy "port").infinite = false
  texts : AllShort [getOr proxy "server" (.str ""), getOr proxy "password" (.str "")]
  network : TrojanEndpoint lib proxy → ((get proxy "network").orElse (.str "tcp")).long = false
  fields : TrojanEndpoint lib proxy →
    lib.lower (textOf lib ((get proxy "network").orElse (.str "tcp"))) ∈
      ["tcp", "original", "none"] → AllShort (trojanFields lib proxy)

/-- The Shadowsocks proxy passes every check. -/
def SsAccepted (proxy : Fields) : Prop :=
  (portOf (get proxy "port")).isSome = true ∧ ¬(textOf lib (getOr proxy "server" (.str "")) = "" ∨
      textOf lib (getOr proxy "password" (.str "")) = "" ∨
      lib.word (textOf lib (getOr proxy "cipher" (.str ""))) ∉ ssMethods ∨
      (get proxy "plugin").truthy = true ∨
      (ssPasswordIssue (lib.word (textOf lib (getOr proxy "cipher" (.str ""))))
        (textOf lib (getOr proxy "password" (.str "")))).isSome = true)

/-- A Shadowsocks proxy that can be read to its end. -/
structure SsReadable (proxy : Fields) : Prop where
  port : (get proxy "port").infinite = false
  texts : AllShort [getOr proxy "server" (.str ""), getOr proxy "password" (.str ""),
    getOr proxy "cipher" (.str "")]
  name : SsAccepted lib proxy →
    (getOr proxy "name" (.str (textOf lib (getOr proxy "server" (.str ""))))).long = false

/-- A proxy of any type that can be read to its end. -/
structure KindReadable (proxy : Fields) (kind : String) : Prop where
  vless : kind = "vless" → VlessReadable proxy
  trojan : kind = "trojan" → TrojanReadable lib proxy
  ss : kind = "ss" → SsReadable lib proxy

/-- A proxy without integers too long to be written where text is asked for, and without an
infinite port. -/
def ProxyReadable (proxy : Value) : Prop :=
  ∀ fields, proxy.dict? = some fields → ((get fields "type").orElse (.str "")).long = false ∧
      KindReadable lib fields (textOf lib ((get fields "type").orElse (.str "")))

variable {lib}

theorem allShort_cons {rest : List Value} :
    AllShort (value::rest) ↔ value.long=false ∧ AllShort rest := by
  simp [AllShort]

theorem allShort_nil : AllShort [] ↔ True := by
  simp [AllShort]

theorem returns_clashVless_iff (proxy : Fields) :
    Returns (clashVless lib proxy) ↔ VlessReadable proxy := by
  have hbuild : ∀ pbk path host alpn : String,
      Returns (clashVlessBuild lib proxy pbk path host alpn (portOf (get proxy "port"))) ↔
        ((portOf (get proxy "port")).isSome=true → AllShort (vlessFields proxy)) := by
    intro pbk path host alpn
    cases portOf (get proxy "port") with
    | none => exact iff_of_true returns_invalid (by simp)
    | some port =>
      simp only [clashVlessBuild,returns_str_bind_iff,returns_pure,and_true,vlessFields,
        allShort_cons,allShort_nil,isSome_some,forall_const]
  simp only [clashVless,returns_str_bind_iff,returns_alpnText_bind_iff,
    returns_safePort_bind_iff,hbuild]
  constructor
  · rintro ⟨hpbk,hpath,hhost,halpn,hport,hfields⟩
    refine ⟨?_,hport,hfields⟩
    simp only [vlessTexts,cons_append,nil_append,allShort_cons]
    exact ⟨hpbk,hpath,hhost,halpn⟩
  · rintro ⟨htexts,hport,hfields⟩
    simp only [vlessTexts,cons_append,nil_append,allShort_cons] at htexts
    obtain ⟨hpbk,hpath,hhost,halpn⟩ := htexts
    exact ⟨hpbk,hpath,hhost,halpn,hport,hfields⟩

theorem returns_clashTrojanStream_iff (proxy : Fields) :
    Returns (clashTrojanStream lib proxy (textOf lib (getOr proxy "server" (.str "")))
      (textOf lib (getOr proxy "password" (.str ""))) (portOf (get proxy "port"))) ↔
      (TrojanEndpoint lib proxy → ((get proxy "network").orElse (.str "tcp")).long=false ∧
        (lib.lower (textOf lib ((get proxy "network").orElse (.str "tcp"))) ∈
          ["tcp", "original", "none"] → AllShort (trojanFields lib proxy))) := by
  unfold TrojanEndpoint
  cases portOf (get proxy "port") with
  | none => exact iff_of_true returns_invalid (by simp)
  | some port =>
    have hbuild : Returns (clashTrojanBuild lib proxy (textOf lib (getOr proxy "server" (.str "")))
        (textOf lib (getOr proxy "password" (.str ""))) port) ↔
        AllShort (trojanFields lib proxy) := by
      simp only [clashTrojanBuild,returns_str_bind_iff,returns_alpnText_bind_iff,returns_pure,
        and_true,trojanFields,cons_append,nil_append,allShort_cons]
    simp only [clashTrojanStream,returns_ite_iff,returns_str_bind_iff,hbuild,
      returns_invalid,implies_true,and_true,true_and,not_or,isSome_some,ne_eq]

theorem returns_clashTrojan_iff (proxy : Fields) :
    Returns (clashTrojan lib proxy) ↔ TrojanReadable lib proxy := by
  rw [clashTrojan,returns_safePort_bind_iff,returns_str_bind_iff,returns_str_bind_iff,
    returns_clashTrojanStream_iff]
  constructor
  · rintro ⟨hport,hsrv,hpass,hrest⟩
    refine ⟨hport,?_,fun hend => (hrest hend).1,fun hend => (hrest hend).2⟩
    simp only [allShort_cons,allShort_nil,and_true]
    exact ⟨hsrv,hpass⟩
  · rintro ⟨hport,htexts,hnet,hfields⟩
    simp only [allShort_cons,allShort_nil,and_true] at htexts
    exact ⟨hport,htexts.1,htexts.2,fun hend => ⟨hnet hend,hfields hend⟩⟩

theorem returns_clashSs_iff (proxy : Fields) :
    Returns (clashSs lib proxy) ↔ SsReadable lib proxy := by
  have hbuild : Returns (clashSsBuild lib proxy (textOf lib (getOr proxy "server" (.str "")))
      (textOf lib (getOr proxy "password" (.str "")))
      (lib.word (textOf lib (getOr proxy "cipher" (.str "")))) (portOf (get proxy "port"))) ↔
      (SsAccepted lib proxy →
        (getOr proxy "name" (.str (textOf lib (getOr proxy "server" (.str ""))))).long =
          false) := by
    unfold SsAccepted
    cases portOf (get proxy "port") with
    | none => exact iff_of_true returns_invalid (by simp)
    | some port =>
      simp only [clashSsBuild,returns_ite_iff,returns_str_bind_iff,returns_invalid,
        returns_pure,implies_true,and_true,true_and,isSome_some]
  rw [clashSs,returns_safePort_bind_iff,returns_str_bind_iff,returns_str_bind_iff,
    returns_str_bind_iff,hbuild]
  constructor
  · rintro ⟨hport,hsrv,hpass,hcipher,hname⟩
    refine ⟨hport,?_,hname⟩
    simp only [allShort_cons,allShort_nil,and_true]
    exact ⟨hsrv,hpass,hcipher⟩
  · rintro ⟨hport,htexts,hname⟩
    simp only [allShort_cons,allShort_nil,and_true] at htexts
    exact ⟨hport,htexts.1,htexts.2.1,htexts.2.2,hname⟩

/-- Reading a proxy raises exactly when it comes to an infinite port or to an integer too long to
be written. -/
theorem returns_readProxy_iff (proxy : Value) :
    Returns (readProxy lib proxy) ↔ ProxyReadable lib proxy := by
  cases proxy with
  | dict fields =>
    have hreadable : ProxyReadable lib (.dict fields) ↔
        ((get fields "type").orElse (.str "")).long=false ∧
          KindReadable lib fields (textOf lib ((get fields "type").orElse (.str ""))) := by
      simp [ProxyReadable,Value.dict?]
    rw [hreadable,readProxy,returns_str_bind_iff]
    refine and_congr_right fun htype => ?_
    simp only [readKind,returns_ite_iff,returns_clashVless_iff,returns_clashTrojan_iff,
      returns_clashSs_iff,returns_noteSkip_iff,htype,implies_true,and_true]
    constructor
    · rintro ⟨hvless,hothers⟩
      refine ⟨hvless,fun hkind => ?_,fun hkind => ?_⟩
      · exact (hothers (by rw [hkind]; decide)).1 hkind
      · exact (hothers (by rw [hkind]; decide)).2 (by rw [hkind]; decide) hkind
    · rintro ⟨hvless,htrojan,hss⟩
      exact ⟨hvless,fun _ => ⟨htrojan,fun _ => hss⟩⟩
  | _ =>
    exact iff_of_true returns_invalid fun fields hdict => by simp [Value.dict?] at hdict

end Proxies

/-! ### Share links -/

section Links

variable (lib)

/-- Base64 text is decoded without raising. -/
def Decodable64 (text : String) : Prop := isAscii (squeezed text) = true

/-- A share link whose base64 parts, if it is one of Shadowsocks, are ASCII. -/
def LinkReadable (link : ShareLink) : Prop :=
  link.scheme = "ss" → containsText "plugin=" (ssParts link.line).2.1 = false →
    ('@' ∉ (ssParts link.line).1.toList → Decodable64 (ssParts link.line).1) ∧
      ∀ body userinfo hostport, ssBody lib (ssParts link.line).1 = .ok body →
        rpartition '@' body = some (userinfo, hostport) → userinfo ≠ "" →
        ':' ∉ (lib.unquote userinfo).toList → Decodable64 (lib.unquote userinfo)

variable {lib}

theorem returns_b64decode_iff (text : String) :
    Returns (b64decode lib text) ↔ Decodable64 text := by
  unfold b64decode Decodable64
  by_cases h : isAscii (squeezed text)=true <;> simp [Returns,h]

theorem returns_ok {α : Type} (value : α) : Returns (.ok value : Except PyError α) := ⟨value,rfl⟩

theorem returns_ssBody_iff (body : String) :
    Returns (ssBody lib body) ↔ ('@' ∉ body.toList → Decodable64 body) := by
  rw [ssBody,returns_ite_iff,returns_b64decode_iff]
  exact and_iff_right fun _ => returns_ok body

theorem returns_ssAuthority_iff (fragment body : String) : Returns (ssAuthority lib fragment body) ↔
      ∀ userinfo hostport, rpartition '@' body=some (userinfo, hostport) → userinfo ≠ "" →
        ':' ∉ (lib.unquote userinfo).toList → Decodable64 (lib.unquote userinfo) := by
  unfold ssAuthority
  cases rpartition '@' body with
  | none => exact iff_of_true (returns_ok none) (by simp)
  | some pair =>
    obtain ⟨userinfo,hostport⟩ := pair
    have huser : Returns (ssUserinfo lib userinfo) ↔
        (':' ∉ (lib.unquote userinfo).toList → Decodable64 (lib.unquote userinfo)) := by
      rw [ssUserinfo,returns_ite_iff,returns_b64decode_iff]
      exact and_iff_right fun _ => returns_ok _
    simp only [returns_ite_iff,returns_ok,implies_true,true_and]
    have hbind : Returns (do
        let decoded ← ssUserinfo lib userinfo
        return ssNode lib fragment decoded hostport) ↔ Returns (ssUserinfo lib userinfo) := by
      rw [returns_bind_iff]
      exact ⟨fun ⟨decoded,h,_⟩ => ⟨decoded,h⟩, fun ⟨decoded,h⟩ => ⟨decoded,h,returns_pure _⟩⟩
    rw [hbind,huser]
    constructor
    · intro h other port heq
      simp only [some.injEq,Prod.mk.injEq] at heq
      rw [← heq.1]
      exact h
    · intro h
      exact h userinfo hostport rfl

theorem returns_keptOr (node : Option FeedNode) : Returns (keptOr lib node) := by
  cases node with
  | none => exact returns_invalid
  | some node => exact returns_ok _

/-- Reading a share link raises exactly when it is one of Shadowsocks with base64 that is not
ASCII. -/
theorem returns_readLink_iff (link : ShareLink) :
    Returns (readLink lib link) ↔ LinkReadable lib link := by
  have hss : Returns (do
      let node ← parseSs lib link.line
      keptOr lib node) ↔
      (containsText "plugin=" (ssParts link.line).2.1=false →
        ('@' ∉ (ssParts link.line).1.toList → Decodable64 (ssParts link.line).1) ∧
          ∀ body userinfo hostport, ssBody lib (ssParts link.line).1 = .ok body →
            rpartition '@' body=some (userinfo, hostport) → userinfo ≠ "" →
            ':' ∉ (lib.unquote userinfo).toList → Decodable64 (lib.unquote userinfo)) := by
    have hparse : Returns (do
        let node ← parseSs lib link.line
        keptOr lib node) ↔ Returns (parseSs lib link.line) := by
      rw [returns_bind_iff]
      exact ⟨fun ⟨node,h,_⟩ => ⟨node,h⟩, fun ⟨node,h⟩ => ⟨node,h,returns_keptOr node⟩⟩
    rw [hparse]
    unfold parseSs
    rw [returns_ite_iff,Bool.not_eq_true,and_iff_right fun _ => returns_ok _]
    refine imp_congr_right fun _ => ?_
    rw [returns_bind_iff,← returns_ssBody_iff]
    constructor
    · rintro ⟨body,hbody,hrest⟩
      refine ⟨⟨body,hbody⟩,fun other userinfo hostport hother => ?_⟩
      obtain rfl : body=other := Except.ok.inj (hbody.symm.trans hother)
      exact (returns_ssAuthority_iff ..).mp hrest userinfo hostport
    · rintro ⟨⟨body,hbody⟩,hrest⟩
      exact ⟨body,hbody,(returns_ssAuthority_iff ..).mpr fun userinfo hostport =>
        hrest body userinfo hostport hbody⟩
  simp only [readLink,returns_ite_iff,returns_keptOr,implies_true,true_and,hss,
    returns_noteSkip_iff]
  have hscheme : ((Value.str link.scheme).orElse (.str "")).long=false :=
    not_long_orElse (not_long_str _) (not_long_str _)
  constructor
  · intro h heq
    exact ((h (by rw [heq]; decide)) (by rw [heq]; decide)).1 heq
  · intro h _ _
    exact ⟨h,fun _ => hscheme⟩

end Links

/-! ### Whole feeds -/

section Feeds

/-- The items of a value that is a list. -/
def listItems : Value → Option (List Value)
  | .list items => some items
  | _ => none

/-- The formats of a feed; share links come as they are or in base64. -/
inductive Format where
  | nodes
  | configs
  | clash
  | links (encoded : Bool)
  deriving DecidableEq

/-- The format `parse_subscription` takes a text for. -/
def sniff (lib : Library) (text : String) : Format :=
  match jsonBody lib text with
  | some data => if looksLike data then .configs else .nodes
  | none =>
    if containsText "proxies:" text then .clash
    else .links !(["vless://", "trojan://", "ss://"].any (containsText · text))

/-- The nodes of a JSON document, when they are a list. -/
def nodeItems : Value → Option (List Value)
  | .list items => some items
  | .dict fields => listItems (getOr fields "nodes" (.list []))
  | _ => some []

/-- The proxies of a Clash document, when they are a list. -/
def proxyItems : Value → Option (List Value)
  | .dict fields => listItems (getOr fields "proxies" (.list []))
  | _ => some []

/-- The entries of a feed in a format, when its container is well formed. Whether the panel
recognises the format is another matter. -/
def feedEntries (lib : Library) (text : String) : Format → Option (List Entry)
  | .nodes => ((lib.loadJson text).bind nodeItems).map (·.map .jsonNode)
  | .configs => (lib.loadJson text).map fun data => (configItems data).map .config
  | .clash => ((lib.loadYaml text).bind proxyItems).map (·.map .proxy)
  | .links false => some ((shareLinks text).map .link)
  | .links true => (b64decode lib text).toOption.map fun text => (shareLinks text).map .link

/-- An entry that does not raise, told from what stands in it. -/
def EntryReadable (lib : Library) : Entry → Prop
  | .jsonNode item => JsonReadable lib item
  | .config item => ConfigReadable lib item
  | .proxy item => ProxyReadable lib item
  | .link share => LinkReadable lib share

/-- What `json.loads` guarantees of an entry. -/
def EntryShort : Entry → Prop
  | .jsonNode item => item.long = false
  | .config item => item.long = false
  | _ => True

/-- An entry raises exactly when it is not readable. -/
theorem returns_read_iff {entry : Entry} (h : EntryShort entry) :
    Returns (entry.read lib) ↔ EntryReadable lib entry := by
  cases entry with
  | jsonNode item => exact returns_readJsonNode_iff h
  | config item => exact returns_readConfig_iff h
  | proxy item => exact returns_readProxy_iff item
  | link share => exact returns_readLink_iff share

theorem exists_of_listItems {items : List Value}
    (h : listItems value=some items) : value = .list items := by
  cases value <;> simp_all [listItems]

variable {data : Value} {text body : String} {entries : List Entry}

theorem short_of_nodeItems {items : List Value} (h : data.long=false)
    (hitems : nodeItems data=some items) : longItems items=false := by
  cases data with
  | list found =>
    rw [← some.inj hitems]
    exact h
  | dict fields =>
    have hempty : (Value.list []).long=false := by simp [Value.long,longItems]
    have hnodes := not_long_getOr h "nodes" hempty
    rwa [exists_of_listItems hitems] at hnodes
  | _ =>
    rw [← some.inj hitems]
    simp [longItems]

theorem short_of_configItems (h : data.long=false) : longItems (configItems data)=false := by
  cases data with
  | list items => exact h
  | _ => simpa [configItems,longItems] using h

theorem short_of_feedEntries {format : Format} (h : feedEntries lib text format=some entries) :
    ∀ entry∈entries, EntryShort entry := by
  cases format with
  | nodes =>
    obtain ⟨items,hitems,rfl⟩ := map_eq_some_iff.mp h
    obtain ⟨data,hdata,hnodes⟩ := bind_eq_some_iff.mp hitems
    have hshort := short_of_nodeItems (lib.loadJson_short _ _ hdata) hnodes
    intro entry hentry
    obtain ⟨item,hitem,rfl⟩ := mem_map.mp hentry
    exact not_long_of_mem hshort hitem
  | configs =>
    obtain ⟨data,hdata,rfl⟩ := map_eq_some_iff.mp h
    have hshort := short_of_configItems (lib.loadJson_short _ _ hdata)
    intro entry hentry
    obtain ⟨item,hitem,rfl⟩ := mem_map.mp hentry
    exact not_long_of_mem hshort hitem
  | clash =>
    obtain ⟨items,-,rfl⟩ := map_eq_some_iff.mp h
    simp [EntryShort]
  | links encoded =>
    have hlinks (text : String) : ∀ entry∈(shareLinks text).map .link, EntryShort entry := by
      simp [EntryShort]
    cases encoded with
    | false =>
      rw [← some.inj h]
      exact hlinks text
    | true =>
      obtain ⟨decoded,-,rfl⟩ := map_eq_some_iff.mp h
      exact hlinks decoded

theorem parseJson_nodes (limit : Option ℕ) {items : List Value} (h : nodeItems data=some items)
    (hlooks : looksLike data=false) :
    parseJson lib limit data=parseEntries lib limit (items.map .jsonNode) := by
  unfold parseJson
  rw [if_neg (by simp [hlooks])]
  cases data with
  | dict fields =>
    simp only [exists_of_listItems h]
    rfl
  | list found => rw [← some.inj h]
  | _ =>
    rw [← some.inj h]
    rfl

theorem parseClash_eq (limit : Option ℕ) {items : List Value}
    (h : (lib.loadYaml text).bind proxyItems=some items) :
    parseClash lib limit text=parseEntries lib limit (items.map .proxy) := by
  obtain ⟨data,hdata,hitems⟩ := bind_eq_some_iff.mp h
  unfold parseClash
  rw [hdata]
  cases data with
  | dict fields =>
    simp only [exists_of_listItems hitems]
    rfl
  | _ =>
    rw [← some.inj hitems]
    rfl

theorem parseLinks_eq (limit : Option ℕ) (h : feedEntries lib text
      (.links !(["vless://", "trojan://", "ss://"].any (containsText · text)))=some entries) :
    parseLinks lib limit text=parseEntries lib limit entries := by
  unfold parseLinks linkText
  cases hplain : ["vless://", "trojan://", "ss://"].any (containsText · text) with
  | true =>
    simp only [hplain,Bool.not_true,feedEntries,some.injEq] at h
    rw [if_pos rfl,← h]
    rfl
  | false =>
    simp only [hplain,Bool.not_false,feedEntries] at h
    obtain ⟨decoded,hdecoded,rfl⟩ := map_eq_some_iff.mp h
    rw [if_neg Bool.false_ne_true]
    cases hread : b64decode lib text with
    | error why => simp [hread,Except.toOption] at hdecoded
    | ok found =>
      rw [hread] at hdecoded
      rw [← some.inj hdecoded]
      rfl

/-- A feed is read as its entries in the format it is taken for. -/
theorem parseSubscription_eq (limit : Option ℕ)
    (h : feedEntries lib (stripText body) (sniff lib (stripText body))=some entries) :
    parseSubscription lib limit body=parseEntries lib limit entries := by
  unfold parseSubscription
  unfold sniff at h
  dsimp only
  cases hjson : jsonBody lib (stripText body) with
  | some data =>
    have hdata : lib.loadJson (stripText body)=some data := by
      unfold jsonBody at hjson
      split_ifs at hjson
      exact hjson
    rw [hjson] at h
    dsimp only at h ⊢
    split_ifs at h with hlooks
    · simp only [feedEntries,hdata,map_some,some.injEq] at h
      rw [← h]
      exact if_pos hlooks
    · simp only [feedEntries,hdata,bind_some] at h
      obtain ⟨items,hitems,rfl⟩ := map_eq_some_iff.mp h
      exact parseJson_nodes limit hitems (by simpa using hlooks)
  | none =>
    rw [hjson] at h
    dsimp only at h ⊢
    split_ifs at h with hclash
    · obtain ⟨items,hitems,rfl⟩ := map_eq_some_iff.mp h
      rw [if_pos hclash]
      exact parseClash_eq limit hitems
    · rw [if_neg hclash]
      exact parseLinks_eq limit h

/-- A feed in a format the panel takes it for, with a well-formed container, is read entry by entry,
without one entry costing another, exactly when no entry the loop comes to has what its parser
cannot catch: an infinite port, outbounds that are no collection, an integer too long to be written,
or base64 that is not ASCII. -/
theorem parseSubscription_apart_iff (lib : Library) (limit : Option ℕ) (body : String)
    (format : Format) (entries : List Entry)
    (h : feedEntries lib (stripText body) format = some entries)
    (hsniff : sniff lib (stripText body) = format) :
    Apart (Entry.read lib) limit entries (parseSubscription lib limit body) ↔
      ∀ entry ∈ reached (Entry.read lib) limit 0 entries, EntryReadable lib entry := by
  have hshort := short_of_feedEntries h
  rw [← hsniff] at h
  rw [parseSubscription_eq limit h,parseEntries,apart_iff]
  refine forall₂_congr fun entry hentry => ?_
  exact returns_read_iff (hshort entry (mem_of_mem_reached hentry))

end Feeds

/-- A library that reads one JSON and one YAML document. -/
def documentLibrary (body : String) (data : Value) (h : data.long = false) : Library where
  render := fun _ => ""
  lower := lowerText
  loadJson := fun text => if text = body then some data else none
  loadYaml := fun text => if text = body then some data else none
  urlsplit := fun _ => none
  parseQsl := fun _ => []
  unquote := id
  decode64 := fun _ => none
  loadJson_short := by
    intro text found hfound
    split at hfound
    · rw [← Option.some.inj hfound]
      exact h
    · cases hfound

/-- A mapping with text for keys. -/
def dictOf (fields : List (String × Value)) : Value :=
  .dict (fields.map fun field => (.str field.1, field.2))

/-- A JSON node on the given port. -/
def nodeOn (port : Value) : Value :=
  dictOf [("address", .str "a.example"), ("uuid", .str "u"), ("port", port)]

/-- A feed of a node and an entry that is none. -/
def pairBody : String :=
  "[\x7b\"address\": \"a.example\", \"uuid\": \"u\", \"port\": 443\x7d, \"noise\"]"

/-- The document of the feed. -/
def pairData : Value := .list [nodeOn (.int 443), .str "noise"]

/-- The loaders on the feed. -/
def pairLibrary : Library := documentLibrary pairBody pairData (by decide +kernel)

/-- The entries of the feed. -/
def pairEntries : List Entry := [.jsonNode (nodeOn (.int 443)), .jsonNode (.str "noise")]

theorem parseSubscription_apart_iff_pair :
    feedEntries pairLibrary pairBody .nodes = some pairEntries ∧
      Apart (Entry.read pairLibrary) (some 501) pairEntries
        (parseSubscription pairLibrary (some 501) pairBody) := by
  have hstrip : stripText pairBody=pairBody := by decide +kernel
  have hload : pairLibrary.loadJson pairBody=some pairData := by
    simp [pairLibrary,documentLibrary]
  have hfeed : feedEntries pairLibrary pairBody .nodes=some pairEntries := by
    rw [feedEntries,hload]
    rfl
  have hsniff : sniff pairLibrary pairBody = .nodes := by decide +kernel
  have hents := hfeed
  rw [← hstrip] at hfeed hsniff
  refine ⟨hents,(parseSubscription_apart_iff _ _ _ _ _ hfeed hsniff).mpr fun entry hentry => ?_⟩
  have hmem := mem_of_mem_reached hentry
  simp only [pairEntries,mem_cons,not_mem_nil,or_false] at hmem
  obtain rfl | rfl := hmem
  · intro fields hfields _
    rw [← some.inj hfields]
    decide +kernel
  · intro fields hfields
    cases hfields

/-- A feed of a usable node and one whose port is out of range of every number. -/
def overflowBody : String :=
  "[\x7b\"address\": \"a.example\", \"uuid\": \"u\", \"port\": 443\x7d, " ++
    "\x7b\"address\": \"a.example\", \"uuid\": \"u\", \"port\": 1e999\x7d]"

/-- The document of the feed. -/
def overflowData : Value :=
  .list [nodeOn (.int 443), nodeOn (.float (.infinite false))]

/-- An xray config with the given outbounds. -/
def configWith (outbounds : Value) : Value := dictOf [("outbounds", outbounds)]

/-- Four configs, the last of them with a number for outbounds. -/
def configsBody : String :=
  "[\x7b\"outbounds\": []\x7d, \x7b\"outbounds\": []\x7d, \x7b\"outbounds\": []\x7d, " ++
    "\x7b\"outbounds\": 5\x7d]"

/-- The document of the feed. -/
def configsData : Value :=
  .list [configWith (.list []), configWith (.list []), configWith (.list []), configWith (.int 5)]

/-- A Clash feed with an infinite port. -/
def clashBody : String := "proxies: [\x7btype: vless, server: a.example, uuid: u, port: .inf\x7d]"

/-- The document of the feed. -/
def clashData : Value :=
  dictOf [("proxies", .list [dictOf [("type", .str "vless"), ("server", .str "a.example"),
    ("uuid", .str "u"), ("port", .float (.infinite false))]])]

/-- A Shadowsocks link with a letter base64 does not have. -/
def linkBody : String := "ss://é"

/-- A notice ahead of a config that gives a node. -/
def noticeBody : String :=
  "[\x7b\"remarks\": \"notice\"\x7d, \x7b\"outbounds\": [\x7b\"protocol\": \"vless\", \"settings\": " ++
    "\x7b\"vnext\": [\x7b\"address\": \"a.example\", \"users\": [\x7b\"id\": \"u\"\x7d]\x7d]\x7d\x7d]\x7d]"

/-- The document of the feed. -/
def noticeData : Value :=
  .list [dictOf [("remarks", .str "notice")], configWith (.list [dictOf
    [("protocol", .str "vless"), ("settings", dictOf [("vnext", .list [dictOf
      [("address", .str "a.example"), ("users", .list [dictOf [("id", .str "u")]])]])])]])]

/-- A feed in a format is well formed, and reading it does not keep its entries apart. -/
def Disturbed (lib : Library) (format : Format) (body : String) : Prop :=
  ∃ entries, feedEntries lib (stripText body) format = some entries ∧
    ¬Apart (Entry.read lib) (some 501) entries (parseSubscription lib (some 501) body)

theorem disturbed_of_raises {lib : Library} {format : Format}
    (h : (feedEntries lib (stripText body) format).isSome=true)
    (hraises : (parseSubscription lib (some 501) body).isOk=false) : Disturbed lib format body := by
  obtain ⟨entries,hents⟩ := isSome_iff_exists.mp h
  refine ⟨entries,hents,fun hapart => ?_⟩
  obtain ⟨result,hresult⟩ := hapart.returns
  rw [hresult] at hraises
  cases hraises

/-- A node that one of the entries gives is not among those that come out. -/
theorem disturbed_of_loss {lib : Library} {format : Format}
    (h : (feedEntries lib (stripText body) format).any (fun entries =>
      (entries.flatMap (given (Entry.read lib))).length=1)=true)
    (hlost : (parseSubscription lib (some 501) body).toOption.all (fun out => out.1.isEmpty)=true) :
    Disturbed lib format body := by
  obtain ⟨entries,hents,hone⟩ := (any_eq_true _ _).mp h
  refine ⟨entries,hents,fun hapart => ?_⟩
  obtain ⟨⟨values,counts⟩,hresult⟩ := hapart.returns
  have hvals := hapart.values values counts hresult
  rw [hresult] at hlost
  simp only [Except.toOption,all_some,List.isEmpty_iff] at hlost
  have hlen := congrArg length hvals
  simp only [decide_eq_true_eq] at hone
  rw [hlost,upTo,length_take,hone] at hlen
  simp at hlen

/-- In each of the four formats one entry makes the whole feed raise, and an entry without outbounds
among the first three makes a feed of configs lose the others. -/
theorem one_entry_fails_the_feed :
    Disturbed (documentLibrary overflowBody overflowData (by decide +kernel)) .nodes overflowBody ∧
      Disturbed (documentLibrary configsBody configsData (by decide +kernel)) .configs configsBody ∧
      Disturbed (documentLibrary clashBody clashData (by decide +kernel)) .clash clashBody ∧
      Disturbed pairLibrary (.links false) linkBody ∧
      Disturbed (documentLibrary noticeBody noticeData (by decide +kernel)) .configs noticeBody := by
  refine ⟨disturbed_of_raises ?_ ?_,disturbed_of_raises ?_ ?_,disturbed_of_raises ?_ ?_,
    disturbed_of_raises ?_ ?_,disturbed_of_loss ?_ ?_⟩
  all_goals decide +kernel

end PiGwPanel.FeedIsolation
