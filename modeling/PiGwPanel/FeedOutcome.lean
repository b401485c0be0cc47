import PiGwPanel.FeedRows

/-!
# What a merge reports and what it keeps

Two readings of a merge. The report says whether the active node's config has
to be applied again; it compares a list of fields that leaves out the
credentials of Trojan and Shadowsocks. And the table keeps a row for every
identity the feed lists, under the id it had.
-/

namespace PiGwPanel.FeedMerge

open Models NodeSecurity KeyedRows ConfigBuilder List

section Builder

/-! ### What the builder reads of a node -/

/-- The fields of a node the builder reads apart from its server block. -/
structure SameStream (a b : Node) : Prop where
  protocol : a.protocol = b.protocol
  sni : a.sni = b.sni
  publicKey : a.publicKey = b.publicKey
  shortId : a.shortId = b.shortId
  fingerprint : a.fingerprint = b.fingerprint
  flow : a.flow = b.flow
  network : a.network = b.network
  security : a.security = b.security
  path : a.path = b.path
  host : a.host = b.host
  mode : a.mode = b.mode
  alpn : a.alpn = b.alpn

variable {a b : Node}

theorem buildConfig_congr (hsrv : proxySettings a=proxySettings b) (h : SameStream a b)
    (settings : Settings) (opts : BuildOptions) (rw : Option RwInbound) :
    buildConfig a settings opts rw=buildConfig b settings opts rw := by
  have hchoices : securityChoices a=securityChoices b := by simp only [securityChoices,h.protocol]
  have hfingerprint : fingerprint a opts=fingerprint b opts := by
    simp only [fingerprint,h.fingerprint]
  have htls : tlsSettings a opts=tlsSettings b opts := by
    simp only [tlsSettings,hfingerprint,h.sni,h.alpn]
  have hxhttp : xhttpSettings a opts=xhttpSettings b opts := by
    simp only [xhttpSettings,h.path,h.host,h.mode]
  have hstream : proxyStream a settings opts=proxyStream b settings opts := by
    funext protocol
    simp only [proxyStream,hchoices,hfingerprint,htls,hxhttp,h.network,h.security,h.sni,
      h.publicKey,h.shortId]
  have hmux : muxBlock a opts=muxBlock b opts := by simp only [muxBlock,h.flow,h.protocol]
  have hproxy : proxyOutbound a settings opts=proxyOutbound b settings opts := by
    unfold proxyOutbound
    rw [hsrv,hstream,hmux]
  unfold buildConfig
  rw [hproxy]

theorem buildConfig_server {settings : Settings} {opts : BuildOptions} {rw : Option RwInbound}
    {cfg : Config} (ha : buildConfig a settings opts rw = .ok cfg)
    (hb : buildConfig b settings opts rw = .ok cfg) : proxySettings a=proxySettings b := by
  obtain ⟨_,proxy,_,_,-,hproxy,hcfg,-⟩ := buildConfig_eq_ok ha
  obtain ⟨_,proxy',_,_,-,hproxy',hcfg',-⟩ := buildConfig_eq_ok hb
  have hsame : proxy=proxy' := by
    have hhead := congrArg (fun cfg => cfg.outbounds.head?) (hcfg.symm.trans hcfg')
    exact Option.some.inj hhead
  obtain ⟨protocol,server,_,_,hsrv,-,-,rfl⟩ := proxyOutbound_parts hproxy
  obtain ⟨protocol',server',_,_,hserver',-,-,rfl⟩ := proxyOutbound_parts hproxy'
  have hproto : protocol=protocol' := congrArg Outbound.protocol hsame
  have hsets : server=server' := Option.some.inj (congrArg Outbound.settings hsame)
  rw [hsrv,hserver',hproto,hsets]

end Builder

section Credentials

/-! ### What the compared fields leave out -/

variable {a b node : RawNode}

/-- Rows that do not differ in a compared field agree in all of them. -/
theorem configDiffers_eq_false_iff : configDiffers a b=false ↔
    a.address=b.address ∧ a.port=b.port ∧ a.uuid=b.uuid ∧ a.transport=b.transport ∧
      a.sni=b.sni ∧ a.publicKey=b.publicKey ∧ a.shortId=b.shortId ∧
      a.fingerprint=b.fingerprint ∧ a.flow=b.flow ∧ a.network=b.network ∧
      a.security=b.security ∧ a.path=b.path ∧ a.host=b.host ∧ a.mode=b.mode ∧ a.alpn=b.alpn := by
  simp [configDiffers,and_assoc]

/-- What normalisation leaves of a protocol in the other fields. -/
theorem built_cases (h : node.normalize=node) :
    (node.protocol = "shadowsocks" ∧ node.security = "none") ∨ (node.security ≠ "none" ∧
      ((node.protocol = "trojan" ∧ node.transport = "vision" ∧ node.flow = "") ∨
       (node.protocol = "vless" ∧ (node.transport = "xhttp" ∨ node.flow ≠ "")))) := by
  have hproto : node.protocol∈protocols := h ▸ normalize_protocol_mem node
  have hchoice (publicKey security : String) : securityChoice publicKey security ≠ "none" := by
    obtain ⟨hreal,-⟩ | htls := securityChoice_cases publicKey security
    · rw [hreal]
      decide
    · rw [htls]
      decide
  rw [RawNode.normalize,knownProtocol_of_mem hproto] at h
  obtain hvless | htrojan | hss := mem_protocols hproto
  · right
    by_cases hxhttp : node.transport = "xhttp"
    · rw [settle_xhttp hvless hxhttp] at h
      have hsec : securityChoice node.publicKey node.security=node.security :=
        congrArg RawNode.security h
      exact ⟨hsec ▸ hchoice _ _,.inr ⟨hvless,.inl hxhttp⟩⟩
    · rw [settle_vision hvless hxhttp] at h
      have hsec : securityChoice node.publicKey node.security=node.security :=
        congrArg RawNode.security h
      have hflow : orDefault node.flow "xtls-rprx-vision" = node.flow := congrArg RawNode.flow h
      refine ⟨hsec ▸ hchoice _ _,.inr ⟨hvless,.inr fun hempty => ?_⟩⟩
      rw [hempty] at hflow
      exact absurd hflow (by decide)
  · right
    rw [settle_trojan htrojan] at h
    have hsec : securityChoice node.publicKey node.security=node.security :=
      congrArg RawNode.security h
    have htrans : "vision" = node.transport := congrArg RawNode.transport h
    have hflow : "" = node.flow := congrArg RawNode.flow h
    exact ⟨hsec ▸ hchoice _ _,.inl ⟨htrojan,htrans.symm,hflow.symm⟩⟩
  · left
    rw [settle_shadowsocks hss] at h
    have hsec : "none" = node.security := congrArg RawNode.security h
    exact ⟨hss,hsec.symm⟩

theorem protocol_eq_of_not_configDiffers (ha : a.normalize=a) (hb : b.normalize=b)
    (h : configDiffers a b=false) : a.protocol=b.protocol := by
  obtain ⟨-,-,-,htrans,-,-,-,-,hflow,-,hsec,-⟩ := configDiffers_eq_false_iff.mp h
  have ha' := built_cases ha
  have hb' := built_cases hb
  rw [htrans,hflow,hsec] at ha'
  obtain ⟨hpa,hsa⟩ | ⟨hsa,⟨hpa,hta,hfa⟩ | ⟨hpa,hfa⟩⟩ := ha' <;>
    obtain ⟨hpb,hsb⟩ | ⟨hsb,⟨hpb,htb,hfb⟩ | ⟨hpb,hfb⟩⟩ := hb'
  · rw [hpa,hpb]
  · exact absurd hsa hsb
  · exact absurd hsa hsb
  · exact absurd hsb hsa
  · rw [hpa,hpb]
  · exact absurd hfb (by simp [hta,hfa])
  · exact absurd hsb hsa
  · exact absurd hfa (by simp [htb,hfb])
  · rw [hpa,hpb]

theorem proxySettings_vless (h : node.protocol = "vless") :
    proxySettings node.read = .ok ("vless", .vless node.address node.port node.uuid
      (if node.flow = "" then none else some node.flow)) := by
  simp [proxySettings,RawNode.read,readProtocol,h]

theorem proxySettings_trojan (h : node.protocol = "trojan") :
    proxySettings node.read = .ok ("trojan", .trojan node.address node.port node.password) := by
  simp [proxySettings,RawNode.read,readProtocol,h]

theorem proxySettings_shadowsocks (h : node.protocol = "shadowsocks") : proxySettings node.read =
      if node.method∈ssMethods then
        .ok ("shadowsocks", .shadowsocks node.address node.port node.method node.password)
      else .error ("unsupported shadowsocks cipher " ++ PyText.pyRepr node.method) := by
  simp [proxySettings,RawNode.read,readProtocol,h]

/-- The credential an entry brings for a row of its protocol is another one, and a config can be
built for either. -/
def CredentialChanged (old new : RawNode) : Prop :=
  (old.protocol = "trojan" ∧ new.password ≠ old.password) ∨
  (old.protocol = "shadowsocks" ∧ old.method ∈ ssMethods ∧ new.method ∈ ssMethods ∧
    (new.method ≠ old.method ∨ new.password ≠ old.password))

section Unchanged

variable {old new : RawNode} (hold : old.normalize = old) (hnew : new.normalize = new)
  (h : configDiffers old new = false)

include hold hnew h

theorem sameStream_of_not_configDiffers : SameStream old.read new.read := by
  have hproto := protocol_eq_of_not_configDiffers hold hnew h
  obtain ⟨-,-,-,-,hsni,hkey,hshort,hfp,hflow,hnet,hsec,hpath,hhost,hmode,
    halpn⟩ := configDiffers_eq_false_iff.mp h
  exact ⟨congrArg readProtocol hproto,hsni,hkey,hshort,hfp,hflow,hnet,hsec, hpath,hhost,hmode,halpn⟩

/-- Rows that agree in the compared fields have one server block, if a block can be built for
both, unless the credential changed. -/
theorem proxySettings_eq_of_not_configDiffers {a b : String × OutboundSettings}
    (ha : proxySettings old.read = .ok a) (hb : proxySettings new.read = .ok b)
    (hsame : ¬CredentialChanged old new) : proxySettings old.read=proxySettings new.read := by
  have hproto := protocol_eq_of_not_configDiffers hold hnew h
  obtain ⟨haddr,hport,huuid,-,-,-,-,-,hflow,-⟩ := configDiffers_eq_false_iff.mp h
  obtain ⟨hss,-⟩ | ⟨-,⟨htrojan,-⟩ | ⟨hvless,-⟩⟩ := built_cases hold
  · have hss' : new.protocol = "shadowsocks" := hproto ▸ hss
    rw [proxySettings_shadowsocks hss] at ha ⊢
    rw [proxySettings_shadowsocks hss'] at hb ⊢
    obtain ⟨hmeth,-⟩ := CheckedResult.of_ite_ok ha
    obtain ⟨hmethod',-⟩ := CheckedResult.of_ite_ok hb
    have hcred : new.method=old.method ∧ new.password=old.password := by
      by_contra hother
      exact hsame (.inr ⟨hss,hmeth,hmethod',not_and_or.mp hother⟩)
    rw [hcred.1,hcred.2,haddr,hport]
  · have htrojan' : new.protocol = "trojan" := hproto ▸ htrojan
    have hpass : new.password=old.password := by
      by_contra hother
      exact hsame (.inl ⟨htrojan,hother⟩)
    rw [proxySettings_trojan htrojan,proxySettings_trojan htrojan',haddr,hport,hpass]
  · have hvless' : new.protocol = "vless" := hproto ▸ hvless
    rw [proxySettings_vless hvless,proxySettings_vless hvless',haddr,hport,huuid,hflow]

theorem proxySettings_ne_of_credentialChanged (hchg : CredentialChanged old new) :
    (∃ a, proxySettings old.read = .ok a) ∧ (∃ b, proxySettings new.read = .ok b) ∧
      proxySettings old.read≠proxySettings new.read := by
  have hproto := protocol_eq_of_not_configDiffers hold hnew h
  obtain ⟨htrojan,hpass⟩ | ⟨hss,hmeth,hmethod',hother⟩ := hchg
  · have htrojan' : new.protocol = "trojan" := hproto ▸ htrojan
    rw [proxySettings_trojan htrojan,proxySettings_trojan htrojan']
    refine ⟨⟨_,rfl⟩,⟨_,rfl⟩,fun heq => hpass ?_⟩
    simp only [Except.ok.injEq,Prod.mk.injEq,OutboundSettings.trojan.injEq] at heq
    exact heq.2.2.2.symm
  · have hss' : new.protocol = "shadowsocks" := hproto ▸ hss
    rw [proxySettings_shadowsocks hss,proxySettings_shadowsocks hss',if_pos hmeth, if_pos hmethod']
    refine ⟨⟨_,rfl⟩,⟨_,rfl⟩,fun heq => ?_⟩
    simp only [Except.ok.injEq,Prod.mk.injEq,OutboundSettings.shadowsocks.injEq] at heq
    obtain ⟨-,-,-,hmethods,hpasswords⟩ := heq
    rcases hother with hother | hother
    · exact hother hmethods.symm
    · exact hother hpasswords.symm

end Unchanged

theorem security_mem_securityChoices (h : node.normalize=node) :
    node.security ≠ "" ∧ node.security∈securityChoices node.read := by
  have hread : node.read.normalize=node.read := by rw [← read_normalize,h]
  have hsec := normalize_security node.read
  rw [hread] at hsec
  change node.security=_ at hsec
  rw [hsec]
  have hboth : ["reality", "tls"]=securityChoices node.read ∨ node.read.protocol = .shadowsocks := by
    cases hproto : node.read.protocol <;> simp [securityChoices,hproto]
  by_cases hss : node.read.protocol = .shadowsocks
  · simp [securityChoices,hss]
  · rw [if_neg hss,← hboth.resolve_right hss]
    obtain ⟨hreal,-⟩ | htls := securityChoice_cases node.read.publicKey node.read.security
    · rw [hreal]
      decide
    · rw [htls]
      decide

theorem buildConfig_bare (h : node.normalize=node) {server : String × OutboundSettings}
    (hsrv : proxySettings node.read = .ok server) :
    ∃ cfg, buildConfig node.read stockSettings bareOptions none = .ok cfg := by
  obtain ⟨hgiven,hallowed⟩ := security_mem_securityChoices h
  have hsec : orDefault node.read.security "reality" = node.security := if_neg hgiven
  have hstream : ∃ stream, proxyStream node.read stockSettings bareOptions server.1 =
      .ok stream := by
    unfold proxyStream
    rw [hsec,if_pos hallowed]
    exact ⟨_,rfl⟩
  obtain ⟨stream,hstream⟩ := hstream
  have hproxy : ∃ proxy, proxyOutbound node.read stockSettings bareOptions = .ok proxy := by
    unfold proxyOutbound
    rw [hsrv]
    change ∃ proxy, (proxyStream node.read stockSettings bareOptions server.1 >>= _)=_
    rw [hstream]
    exact ⟨_,rfl⟩
  obtain ⟨proxy,hproxy⟩ := hproxy
  unfold buildConfig
  rw [hproxy]
  exact ⟨_,rfl⟩

end Credentials

section Notice

/-! ### The report of a changed active node -/

variable {digest : List Identity → String} {call : MergeCall} {store : FeedStore}

theorem activeChanged_eq {old : RawNode} (hold : old∈store.rows)
    (hact : call.isActive old=true) :
    (reconcile digest call store).2.activeChanged=call.changed call.items old := by
  have hreport : (reconcile digest call store).2.activeChanged =
      store.rows.any (call.changed call.items) := run_activeChanged store.legal
  rw [hreport,Bool.eq_iff_iff,any_eq_true]
  constructor
  · rintro ⟨row,hrow,hchg⟩
    have hrowActive : call.isActive row=true := by
      unfold MergeCall.changed at hchg
      split at hchg
      · cases hchg
      · simp only [Bool.and_eq_true] at hchg
        exact hchg.1.1
    have hid : (row.id : ℤ)=old.id := by
      have hrowId : call.active=some (row.id : ℤ) := of_decide_eq_true hrowActive
      have holdId : call.active=some (old.id : ℤ) := of_decide_eq_true hact
      exact Option.some.inj (hrowId.symm.trans holdId)
    have hsame := inj_on_of_nodup_map store.legal.ids hrow hold (Int.ofNat.inj hid)
    exact hsame ▸ hchg
  · intro hchg
    exact ⟨old,hold,hchg⟩

/-- An entry that agrees with the row in the compared fields is written. -/
theorem written_of_not_configDiffers {row : RawNode} {item : RawNode × ℕ}
    (h : configDiffers row item.1=false) :
    call.written row item=call.refreshedRow row item.1 item.2 := by
  have hsec : row.security=item.1.security :=
    (configDiffers_eq_false_iff.mp h).2.2.2.2.2.2.2.2.2.2.1
  have hkept : securityKept row (call.refreshedRow row item.1 item.2)=true := by
    unfold securityKept MergeCall.refreshedRow
    rw [decide_eq_true_eq,hsec]
  unfold MergeCall.written MergeCall.refuses
  rw [hkept,Bool.not_true,Bool.and_false]
  rfl

variable (digest call store)

/-- A merge after which another config is built for the active node reports it. -/
def Noticed : Prop :=
  ∀ old ∈ store.rows, call.isActive old = true →
    ∀ new ∈ (reconcile digest call store).1.rows, new.id = old.id →
      ∀ settings opts rw cfg cfg', buildConfig old.read settings opts rw = .ok cfg →
        buildConfig new.read settings opts rw = .ok cfg' → cfg ≠ cfg' →
        (reconcile digest call store).2.activeChanged = true

/-- The entry of the active node brings another Trojan or Shadowsocks credential and agrees with
the row in all compared fields. -/
def CredentialOnly : Prop :=
  ∃ row ∈ store.rows, call.isActive row = true ∧
    ∃ item, call.entryFor call.items row = some item ∧ configDiffers row item.1 = false ∧
      CredentialChanged row item.1

variable {call store} in
theorem not_noticed_of_credentialOnly (h : CredentialOnly call store) :
    ¬Noticed digest call store := by
  intro hnoticed
  obtain ⟨row,hrow,hact,item,hentry,hsame,hchg⟩ := h
  have hrowBuilt := store.legal.built row hrow
  have hitemBuilt := built_items call item (identity_of_entryFor hentry).1
  obtain ⟨⟨server,hsrv⟩,⟨server',hserver'⟩,hne⟩ :=
    proxySettings_ne_of_credentialChanged hrowBuilt hitemBuilt hsame hchg
  obtain ⟨cfg,hcfg⟩ := buildConfig_bare hrowBuilt hsrv
  obtain ⟨cfg',hcfg'⟩ := buildConfig_bare hitemBuilt hserver'
  have hfate : call.fate digest store.settings store.rows row =
      some (call.refreshedRow row item.1 item.2) := by
    rw [fate_of_entryFor hentry,written_of_not_configDiffers hsame]
  have hreport : (reconcile digest call store).2.activeChanged=true := by
    refine hnoticed row hrow hact _ (mem_reconcile_of_fate hrow hfate) rfl stockSettings
      bareOptions none cfg cfg' hcfg hcfg' ?_
    rintro rfl
    exact hne (buildConfig_server hcfg hcfg')
  have hsilent : configDiffers row (call.refreshedRow row item.1 item.2)=false := hsame
  rw [activeChanged_eq hrow hact] at hreport
  simp [MergeCall.changed,hentry,hsilent] at hreport

/-- The report misses a changed credential and nothing else. -/
theorem noticed_iff_not_credentialOnly :
    Noticed digest call store ↔ ¬CredentialOnly call store := by
  constructor
  · intro hnoticed hcred
    exact not_noticed_of_credentialOnly digest hcred hnoticed
  · intro hother old hold hact new hnew hid settings opts rw cfg cfg' hcfg hcfg' hne
    rw [activeChanged_eq hold hact]
    by_contra hsilent
    have hfate := fate_of_mem_reconcile hold hnew hid
    unfold MergeCall.fate at hfate
    apply hne
    suffices heq : buildConfig old.read settings opts rw=buildConfig new.read settings opts rw by
      rw [hcfg,hcfg'] at heq
      exact Except.ok.inj heq
    split at hfate
    · cases hentry : call.entryFor call.items old with
      | none =>
        rw [hentry] at hfate
        -- the flag of a vanished node is not read by the builder
        rw [actOn_some hfate]
        exact buildConfig_congr rfl ⟨rfl,rfl,rfl,rfl,rfl,rfl,rfl,rfl,rfl,rfl,rfl,rfl⟩
          settings opts rw
      | some item =>
        rw [hentry] at hfate
        have hwritten := Option.some.inj hfate
        cases hrefused : call.refuses old item with
        | true =>
          simp only [MergeCall.written,hrefused,if_true] at hwritten
          rw [hwritten]
        | false =>
          simp only [MergeCall.written,hrefused,Bool.false_eq_true,if_false] at hwritten
          have hsame : configDiffers old new=false := by
            simpa [MergeCall.changed,hentry,hact,hrefused,hwritten] using hsilent
          have hnewBuilt := (reconcile digest call store).1.legal.built new hnew
          have holdBuilt := store.legal.built old hold
          have hkept : ¬CredentialChanged old new := by
            intro hchg
            rw [← hwritten] at hsame hchg
            exact hother ⟨old,hold,hact,item,hentry,hsame,hchg⟩
          obtain ⟨_,proxy,_,_,-,hproxy,-⟩ := buildConfig_eq_ok hcfg
          obtain ⟨_,proxy',_,_,-,hproxy',-⟩ := buildConfig_eq_ok hcfg'
          obtain ⟨_,_,_,_,hsrv,-⟩ := proxyOutbound_parts hproxy
          obtain ⟨_,_,_,_,hserver',-⟩ := proxyOutbound_parts hproxy'
          exact buildConfig_congr
            (proxySettings_eq_of_not_configDiffers holdBuilt hnewBuilt hsame hsrv hserver' hkept)
            (sameStream_of_not_configDiffers holdBuilt hnewBuilt hsame) settings opts rw
    · rw [Option.some.inj hfate]

/-- A Trojan node of subscription 1. -/
def trojanNode : RawNode :=
  { id := 1, name := "exit", address := "203.0.113.5", port := 443, uuid := ""
    protocol := "trojan", password := "spring", sni := "example.org", flow := ""
    security := "tls", subscriptionId := some 1 }

theorem trojanNode_normal : trojanNode.normalize=trojanNode := by decide +kernel

/-- A store with that node. -/
def trojanStore : FeedStore where
  rows := [trojanNode]
  lastId := 1
  settings := fun _ => none
  legal := ⟨by decide, by decide, by decide, by simp; decide +kernel⟩

/-- A refresh of subscription 1, with the node active, that brings a new password for it. -/
def rotatedPassword : MergeCall where
  subId := 1
  parsed := [⟨{ trojanNode with id := 0, subscriptionId := none, password := "summer" },
    by decide +kernel⟩]
  active := some 1
  defaultProfileId := none

theorem rotatedPassword_not_noticed : ¬Noticed (fun _ => "") rotatedPassword trojanStore := by
  have hentry : rotatedPassword.entryFor rotatedPassword.items trojanNode =
      some ({ trojanNode with id := 0, subscriptionId := none, password := "summer" }, 0) := by
    decide +kernel
  exact not_noticed_of_credentialOnly _ ⟨trojanNode,mem_singleton.mpr rfl,rfl,_,hentry,
    by decide +kernel,.inl ⟨rfl,by decide⟩⟩

end Notice

section Servers

/-! ### The servers a merge keeps -/

/-- The feed as the merge reads it. -/
def MergeCall.feed (call : MergeCall) : List RawNode :=
  (call.parsed.map Subtype.val).map clampNodeFields

/-- The protocol and what it authenticates with. -/
def credential (node : RawNode) : String × List String :=
  if node.protocol = "vless" then (node.protocol, [node.uuid])
  else if node.protocol = "trojan" then (node.protocol, [node.password])
  else (node.protocol, [node.method, node.password])

variable {κ : Type} (key : RawNode → κ) (digest : List Identity → String) (call : MergeCall)
  (store : FeedStore)

/-- Entries with different keys are stored as different nodes. -/
def StoredApart : Prop :=
  ∀ a ∈ call.feed, ∀ b ∈ call.feed, key a ≠ key b →
    ∃ row ∈ (reconcile digest call store).1.rows, ∃ other ∈ (reconcile digest call store).1.rows,
      row.id ≠ other.id ∧ row.subscriptionId = some call.subId ∧
      other.subscriptionId = some call.subId ∧ key row = key a ∧ key other = key b

/-- A stored node whose key the feed lists keeps its row. -/
def RowsKept : Prop :=
  ∀ row ∈ store.rows, row.subscriptionId = some call.subId → key row ∈ call.feed.map key →
    ∃ new ∈ (reconcile digest call store).1.rows, new.id = row.id ∧
      new.subscriptionId = some call.subId ∧ key new = key row

/-- No advertised identity is lost. -/
theorem merge_keeps_identities :
    StoredApart identity digest call store ∧ RowsKept identity digest call store := by
  have hlist {k : Identity} : k∈call.entries.map identity ↔ k∈call.feed.map identity :=
    mem_map_key_putRows
  constructor
  · intro a ha b hb hne
    obtain ⟨row,hrow,hrowKey⟩ : ∃ row∈(reconcile digest call store).1.rows,
        rowIdentity row=(some call.subId, identity a) :=
      exists_row_of_listed (hlist.mpr (mem_map_of_mem ha))
    obtain ⟨other,hother,hotherKey⟩ : ∃ row∈(reconcile digest call store).1.rows,
        rowIdentity row=(some call.subId, identity b) :=
      exists_row_of_listed (hlist.mpr (mem_map_of_mem hb))
    refine ⟨row,hrow,other,hother,?_,congrArg Prod.fst hrowKey,congrArg Prod.fst hotherKey,
      congrArg Prod.snd hrowKey,congrArg Prod.snd hotherKey⟩
    intro hid
    have hlegal := (reconcile digest call store).1.legal
    rw [inj_on_of_nodup_map hlegal.ids hrow hother hid,hotherKey] at hrowKey
    exact hne (congrArg Prod.snd hrowKey).symm
  · intro row hrow hsub hkey
    obtain ⟨new,hnew,hid,hsame⟩ : ∃ new∈(reconcile digest call store).1.rows,
        new.id=row.id ∧ rowIdentity new=rowIdentity row :=
      exists_mem_reconcile_of_listed hrow hsub (hlist.mpr hkey)
    have hnewSub : new.subscriptionId=row.subscriptionId := congrArg Prod.fst hsame
    exact ⟨new,hnew,hid,hnewSub.trans hsub,congrArg Prod.snd hsame⟩

/-- Two accounts of one Trojan server. -/
def twoAccounts : MergeCall where
  subId := 1
  parsed := [⟨trojanNode, trojanNode_normal⟩,
    ⟨{ trojanNode with password := "summer" }, by decide +kernel⟩]
  active := none
  defaultProfileId := none

/-- The stored server, moved to another address. -/
def movedServer : MergeCall where
  subId := 1
  parsed := [⟨{ trojanNode with address := "203.0.113.6" }, by decide +kernel⟩]
  active := none
  defaultProfileId := none

theorem credentials_lost : ¬StoredApart credential (fun _ => "") twoAccounts trojanStore ∧
      ¬RowsKept credential (fun _ => "") movedServer trojanStore := by
  constructor
  · intro h
    obtain ⟨row,hrow,other,hother,hne,-⟩ := h trojanNode (by decide +kernel)
      { trojanNode with password := "summer" } (by decide +kernel) (by decide +kernel)
    have hone : ((reconcile (fun _ => "") twoAccounts trojanStore).1.rows.map RawNode.id)=[1] := by
      decide +kernel
    have hid := mem_map_of_mem (f := RawNode.id) hrow
    have hid' := mem_map_of_mem (f := RawNode.id) hother
    rw [hone,mem_singleton] at hid hid'
    exact hne (hid.trans hid'.symm)
  · intro h
    obtain ⟨new,hnew,hid,-⟩ := h trojanNode (mem_singleton.mpr rfl) rfl (by decide +kernel)
    have hids : ((reconcile (fun _ => "") movedServer trojanStore).1.rows.map RawNode.id)=[2] := by
      decide +kernel
    have hmem := mem_map_of_mem (f := RawNode.id) hnew
    rw [hids,mem_singleton,hid] at hmem
    exact absurd hmem (by decide)

end Servers

end PiGwPanel.FeedMerge
