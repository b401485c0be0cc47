import PiGwPanel.RoutingPriority
import Mathlib.Data.List.InsertIdx

/-!
# Bringing a config in line with the remote access the store grants

`_rw_reconciled` edits the remote-access fragments of a config it did not
build: the inbound, the rules that name it, the LAN-name outbound, mapping and
rule. The result never grants more than the store and is a fixed point of the
edit. It is the config a rebuild would produce unless the edit adds an inbound
to a config built without one: the loopback block is then not extended to it.
-/

namespace PiGwPanel.RemoteAccessReconcile

open Models RoutingRules ConfigBuilder RoutingPriority List

/-- One namespaced token of what a remote-access inbound hands out. -/
inductive Grant where
  | port (port : ℕ)
  | client (id : String)
  | privateKey (key : String)
  | dest (dest : String)
  | shortId (id : String)
  | serverName (name : String)
  /-- A block of another shape never agrees with a granted one. -/
  | malformed (field : String)
  deriving DecidableEq, Repr

/-- `rw_grants`. -/
def rwGrants (block : Inbound) : List Grant :=
  [.port block.port] ++
  (match block.settings with
    | .vless clients _ => clients.map fun c => .client c.id
    | .dokodemo _ _ => [.malformed "clients"]
    | .address _ => [.malformed "clients"]
    | .http => [.malformed "clients"]) ++
  match block.stream with
    | some (.reality dest serverNames privateKey shortIds) =>
      [.privateKey privateKey, .dest dest] ++ shortIds.map .shortId ++ serverNames.map .serverName
    | some (.sockopt _) => [.malformed "realitySettings"]
    | none => [.malformed "realitySettings"]

/-- The tokens of every inbound of a config that carries the remote-access tag. -/
def liveGrants (cfg : Config) : List Grant :=
  (cfg.inbounds.filter fun i => i.tag = rwTag).flatMap rwGrants

/-- The tokens the store grants. -/
def granted (rw : Option RwInbound) : List Grant :=
  match rw with
  | some r => rwGrants (rwInboundBlock r)
  | none => []

/-- `_rw_excess`: the config hands out something the store does not. -/
def rwExcess (rw : Option RwInbound) (cfg : Config) : Bool :=
  (liveGrants cfg).any fun token => token ∉ granted rw

/-- The remote-access tag goes from a rule's inbound tags unless it is the only one. -/
def dropTag (tags : List String) : List String :=
  if rwTag ∈ tags ∧ tags.any (· ≠ rwTag) then tags.filter (· ≠ rwTag) else tags

/-- `_rw_drop_routing_refs` on one rule. -/
def dropRef (r : FieldRule) : FieldRule := { r with inboundTag := r.inboundTag.map dropTag }

/-- The rule belongs to the LAN-name path. -/
def isLanRule (r : FieldRule) : Bool := r.outboundTag = directLanTag

/-- The rule part of `_rw_reconcile_lan`: the old rule goes, the new one takes its place or
stands before the last rule. -/
def reconcileLanRules (hosts : List (String × String)) (rules : List FieldRule) : List FieldRule :=
  let keep := rules.filter fun r => !isLanRule r
  if hosts = [] then keep
  else keep.insertIdx ((rules.findIdx? isLanRule).getD (keep.length - 1)) (rwLanRule hosts)

/-- The outbound part of `_rw_reconcile_lan`. -/
def reconcileLanOutbounds (settings : Settings) (hosts : List (String × String))
    (outs : List Outbound) : List Outbound :=
  outs.filter (fun o => o.tag ≠ directLanTag) ++
    if hosts = [] then [] else [rwLanOutbound settings]

/-- `_rw_reconciled` for a store that resolves to `rw`. -/
def rwReconciled (settings : Settings) (rw : Option RwInbound) (cfg : Config) : Config :=
  { cfg with
    inbounds := cfg.inbounds.filter (fun i => i.tag ≠ rwTag) ++ (rw.map rwInboundBlock).toList
    outbounds := reconcileLanOutbounds settings (lanHosts rw) cfg.outbounds
    dnsHosts := if lanHosts rw = [] then none else some (lanHosts rw)
    rules := reconcileLanRules (lanHosts rw)
      (if rw.isSome then cfg.rules else cfg.rules.map dropRef) }

section General

variable {settings : Settings} {rw : Option RwInbound}

theorem liveGrants_rwReconciled (cfg : Config) :
    liveGrants (rwReconciled settings rw cfg)=granted rw := by
  have hkept : (cfg.inbounds.filter fun i => i.tag≠rwTag).filter (fun i => i.tag=rwTag)=[] := by
    rw [filter_filter,filter_eq_nil_iff]
    intro i _
    by_cases h : i.tag=rwTag <;> simp [h]
  unfold liveGrants rwReconciled granted
  rw [filter_append,hkept,nil_append]
  cases rw with
  | none => rfl
  | some r => simp [rwInboundBlock]

theorem rwExcess_rwReconciled (cfg : Config) : rwExcess rw (rwReconciled settings rw cfg)=false := by
  unfold rwExcess
  rw [liveGrants_rwReconciled,any_eq_false]
  intro token htoken
  simpa using htoken

theorem dropTag_idem (tags : List String) : dropTag (dropTag tags)=dropTag tags := by
  by_cases h : rwTag∈tags ∧ tags.any (·≠rwTag)
  · have hgone : rwTag∉tags.filter (·≠rwTag) := by simp
    unfold dropTag
    rw [if_pos h,if_neg fun hc => hgone hc.1]
  · unfold dropTag
    rw [if_neg h,if_neg h]

theorem dropRef_idem (r : FieldRule) : dropRef (dropRef r)=dropRef r := by
  have htags : dropTag ∘ dropTag=dropTag := funext dropTag_idem
  simp only [dropRef,Option.map_map,htags]

theorem isLanRule_dropRef (r : FieldRule) : isLanRule (dropRef r)=isLanRule r := rfl

theorem isLanRule_rwLanRule (hosts : List (String × String)) : isLanRule (rwLanRule hosts)=true := by
  simp [isLanRule,rwLanRule]

theorem filter_not_lan {rules : List FieldRule} (h : ∀ r∈rules, isLanRule r=false) :
    (rules.filter fun r => !isLanRule r)=rules := by
  rw [filter_eq_self]
  intro r hr
  simp [h r hr]

variable {front : List FieldRule}

/-- The first old LAN rule is replaced where it stands, any other one goes. -/
theorem reconcileLanRules_of_lan
    (hfront : ∀ r∈front, isLanRule r=false) {lan : FieldRule} (hlan : isLanRule lan=true)
    (back : List FieldRule) (hosts : List (String × String)) :
    reconcileLanRules hosts (front++lan::back) =
      front++(if hosts=[] then [] else [rwLanRule hosts]) ++
        back.filter fun r => !isLanRule r := by
  have hkeep : (front++lan::back).filter (fun r => !isLanRule r) =
      front++back.filter fun r => !isLanRule r := by
    rw [filter_append,filter_cons_of_neg (by simp [hlan]),filter_not_lan hfront]
  have hidx : (front++lan::back).findIdx? isLanRule=some front.length := by
    rw [findIdx?_append,findIdx?_eq_none_iff.mpr hfront]
    simp [findIdx?_cons,hlan]
  unfold reconcileLanRules
  rw [hkeep,hidx]
  dsimp only [Option.getD_some]
  rw [insertIdx_length_append]
  split <;> simp

/-- Without an old LAN rule the new one stands before the last rule. -/
theorem reconcileLanRules_of_not_lan {last : FieldRule}
    (hrules : ∀ r∈front++[last], isLanRule r=false) (hosts : List (String × String)) :
    reconcileLanRules hosts (front++[last]) =
      front++(if hosts=[] then [] else [rwLanRule hosts])++[last] := by
  unfold reconcileLanRules
  rw [filter_not_lan hrules,findIdx?_eq_none_iff.mpr hrules]
  dsimp only [Option.getD_none]
  rw [insertIdx_before_last]
  split <;> simp

section

variable (hosts : List (String × String))

include hosts

variable (rules : List FieldRule)

include rules

/-- Whatever the rules were, one LAN rule or none stands between rules that are not. -/
theorem reconcileLanRules_shape :
    ∃ front back, (∀ r∈front, isLanRule r=false) ∧ (∀ r∈back, isLanRule r=false) ∧
      reconcileLanRules hosts rules =
        front++(if hosts=[] then [] else [rwLanRule hosts])++back := by
  cases hfind : rules.find? isLanRule with
  | some lan =>
    obtain ⟨hlan,front,back,rfl,hfront⟩ := find?_eq_some_iff_append.mp hfind
    have hfree : ∀ r∈front, isLanRule r=false := fun r hr => by simpa using hfront r hr
    refine ⟨front,back.filter fun r => !isLanRule r,hfree,?_,
      reconcileLanRules_of_lan hfree hlan back hosts⟩
    intro r hr
    simpa using (mem_filter.mp hr).2
  | none =>
    have hfree : ∀ r∈rules, isLanRule r=false := by simpa using hfind
    rcases eq_nil_or_concat rules with rfl | ⟨front,last,rfl⟩
    · exact ⟨[],[],by simp,by simp,by unfold reconcileLanRules; split <;> rfl⟩
    · rw [concat_eq_append] at hfree ⊢
      exact ⟨front,[last],fun r hr => hfree r (by simp [hr]),fun r hr => hfree r (by simp_all),
        reconcileLanRules_of_not_lan hfree hosts⟩

theorem reconcileLanRules_idem :
    reconcileLanRules hosts (reconcileLanRules hosts rules)=reconcileLanRules hosts rules := by
  obtain ⟨front,back,hfront,hback,hshape⟩ := reconcileLanRules_shape hosts rules
  rw [hshape]
  by_cases hh : hosts=[]
  · rw [if_pos hh,append_nil]
    have hfree : ∀ r∈front++back, isLanRule r=false := by
      intro r hr
      rcases mem_append.mp hr with hr | hr
      · exact hfront r hr
      · exact hback r hr
    unfold reconcileLanRules
    rw [if_pos hh,filter_not_lan hfree]
  · rw [if_neg hh,append_assoc,singleton_append,
      reconcileLanRules_of_lan hfront (isLanRule_rwLanRule hosts),filter_not_lan hback,if_neg hh]
    simp

/-- The LAN rule names no inbound, so dropping the tag and reconciling the rule commute. -/
theorem reconcileLanRules_map_dropRef :
    reconcileLanRules hosts (rules.map dropRef)=(reconcileLanRules hosts rules).map dropRef := by
  have hcomp : isLanRule ∘ dropRef=isLanRule := funext isLanRule_dropRef
  have hcomp' : (fun r => !isLanRule r) ∘ dropRef = fun r => !isLanRule r :=
    funext fun r => by simp [isLanRule_dropRef]
  have hlan : dropRef (rwLanRule hosts)=rwLanRule hosts := rfl
  unfold reconcileLanRules
  dsimp only
  rw [filter_map,hcomp',findIdx?_map,hcomp,length_map]
  split
  · rfl
  · rw [map_insertIdx,hlan]

end

theorem rwReconciled_idem (cfg : Config) :
    rwReconciled settings rw (rwReconciled settings rw cfg)=rwReconciled settings rw cfg := by
  have hin : (cfg.inbounds.filter (fun i => i.tag≠rwTag) ++
      (rw.map rwInboundBlock).toList).filter (fun i => i.tag≠rwTag) =
      cfg.inbounds.filter fun i => i.tag≠rwTag := by
    cases rw <;> simp [rwInboundBlock]
  have hout (outs : List Outbound) : reconcileLanOutbounds settings (lanHosts rw)
      (reconcileLanOutbounds settings (lanHosts rw) outs) =
      reconcileLanOutbounds settings (lanHosts rw) outs := by
    unfold reconcileLanOutbounds
    split <;> simp [rwLanOutbound]
  have hrules (rules : List FieldRule) : reconcileLanRules (lanHosts rw)
      ((reconcileLanRules (lanHosts rw) (rules.map dropRef)).map dropRef) =
      reconcileLanRules (lanHosts rw) (rules.map dropRef) := by
    have hdrop : dropRef ∘ dropRef=dropRef := funext dropRef_idem
    rw [← reconcileLanRules_map_dropRef,map_map,hdrop,reconcileLanRules_idem]
  unfold rwReconciled
  rw [hin,hout]
  congr 1
  split
  · exact reconcileLanRules_idem _ _
  · exact hrules _

end General

section Built

variable {settings : Settings} {opts : BuildOptions} {servers : DnsServers} {proxy : Outbound}
variable {fields : List FieldRule} {action : Action}

/-- A rule the edit of a built config never touches. -/
def Untouched (r : FieldRule) : Prop := dropRef r = r ∧ isLanRule r = false

theorem dropTag_of_not_mem {tags : List String} (h : rwTag∉tags) : dropTag tags=tags := by
  unfold dropTag
  rw [if_neg fun hc => h hc.1]

theorem rwTag_not_mem_tproxyTags (opts : BuildOptions) : rwTag∉tproxyTags opts := by
  unfold tproxyTags
  cases opts.ipv6Tproxy <;> decide

/-- The rules between the loopback block and the LAN rule. -/
def middleRules (opts : BuildOptions) (fields : List FieldRule) : List FieldRule :=
  apiRules opts ++ dnsRules opts ++ [privateRule] ++ quicRules opts ++ fields

theorem layeredRules_eq (rw : Option RwInbound) : layeredRules opts rw fields action =
    loopbackRule opts rw::middleRules opts fields++lanRules rw++[catchAll action] := by
  simp [layeredRules,middleRules]

theorem untouched_catchAll (action : Action) : Untouched (catchAll action) := by
  cases action <;> exact ⟨rfl,by decide⟩

/-- Taking the tag out of the loopback block gives the block of a config without the
inbound. -/
theorem dropRef_loopbackRule (rw : Option RwInbound) :
    dropRef (loopbackRule opts rw)=loopbackRule opts none := by
  have htags : dropTag (clientFacing opts rw)=clientFacing opts none := by
    have hnone : clientFacing opts none=tproxyTags opts := by simp [clientFacing]
    cases rw with
    | none => rw [hnone,dropTag_of_not_mem (rwTag_not_mem_tproxyTags opts)]
    | some r =>
      unfold clientFacing tproxyTags
      cases opts.ipv6Tproxy <;> simp [dropTag,rwTag]
  simp only [dropRef,loopbackRule,Option.map_some,htags]

section

variable (h : StoredPart opts fields action)

include h

/-- A translated stored rule names no inbound and leaves by one of the three actions. -/
theorem untouched_of_stored : ∀ r∈fields, Untouched r := by
  intro field hf
  unfold StoredPart at h
  cases hr : opts.routing with
  | none =>
    rw [hr] at h
    rw [h.2] at hf
    cases hf
  | some routing =>
    rw [hr] at h
    obtain ⟨r,-,hfield⟩ := exists_of_mem_mapM h.2 hf
    obtain ⟨htag,hout⟩ := ruleToField_eq_ok hfield
    constructor
    · unfold dropRef
      cases field
      cases htag
      rfl
    · unfold isLanRule
      rw [hout]
      cases r.action <;> decide

theorem untouched_middleRules : ∀ r∈middleRules opts fields, Untouched r := by
  intro r hr
  simp only [middleRules,mem_append,mem_singleton] at hr
  rcases hr with (((hr | hr) | rfl) | hr) | hr
  · unfold apiRules at hr
    split at hr
    · rw [mem_singleton] at hr
      subst hr
      exact ⟨by decide,by decide⟩
    · cases hr
  · unfold dnsRules at hr
    split at hr
    · rw [mem_singleton] at hr
      subst hr
      refine ⟨?_,by simp [isLanRule,directLanTag]⟩
      simp only [dropRef,Option.map_some,dropTag_of_not_mem (rwTag_not_mem_tproxyTags opts)]
    · cases hr
  · exact ⟨rfl,by decide⟩
  · obtain ⟨tag,htag,rfl⟩ := mem_map.mp hr
    refine ⟨rfl,?_⟩
    unfold quicTag at htag
    cases hp : opts.profile with
    | none => simp [hp] at htag
    | some p =>
      rw [hp] at htag
      cases hq : p.quic <;> simp [hq] at htag <;> subst htag <;> decide
  · exact untouched_of_stored h r hr

/-- Reconciling the LAN rule of layered rules is layering them with the new LAN rule, below
whatever loopback block stands on top. -/
theorem reconcileLanRules_layered {top : FieldRule}
    (htop : isLanRule top=false) (r1 r2 : Option RwInbound) : reconcileLanRules (lanHosts r2)
      (top::middleRules opts fields++lanRules r1++[catchAll action]) =
      top::middleRules opts fields++lanRules r2++[catchAll action] := by
  have hfront : ∀ r∈top::middleRules opts fields, isLanRule r=false := by
    intro r hr
    rcases mem_cons.mp hr with rfl | hr
    · exact htop
    · exact (untouched_middleRules h r hr).2
  have hlast : isLanRule (catchAll action)=false := (untouched_catchAll action).2
  by_cases hh : lanHosts r1=[]
  · have hnone : lanRules r1=[] := if_pos hh
    rw [hnone,append_nil,reconcileLanRules_of_not_lan]
    · rfl
    · intro r hr
      rcases mem_append.mp hr with hr | hr
      · exact hfront r hr
      · rw [mem_singleton.mp hr]
        exact hlast
  · have hsome : lanRules r1=[rwLanRule (lanHosts r1)] := if_neg hh
    have hback : ∀ r∈[catchAll action], isLanRule r=false := by simpa using hlast
    rw [hsome,append_assoc,singleton_append,
      reconcileLanRules_of_lan hfront (isLanRule_rwLanRule _),filter_not_lan hback]
    rfl

end

/-- Removing the tagged inbound leaves the inbounds of a config built without it. -/
theorem inbounds_filter (r1 r2 : Option RwInbound) :
    (inbounds settings opts r1).filter (fun i => i.tag≠rwTag) ++
      (r2.map rwInboundBlock).toList=inbounds settings opts r2 := by
  unfold inbounds
  cases opts.ipv6Tproxy <;> cases opts.stats <;> cases opts.tunneledFetch <;> cases r1 <;>
    simp [tproxyInbound,rwInboundBlock,rwTag]

/-- Removing the LAN outbound leaves the outbounds of a config built without it. -/
theorem reconcileLanOutbounds_eq (hproxy : proxy.tag = "proxy") (r1 r2 : Option RwInbound) :
    reconcileLanOutbounds settings (lanHosts r2) (outbounds proxy settings opts r1) =
      outbounds proxy settings opts r2 := by
  have hfrag : ∀ o∈(fragmentOutbound settings opts).toList, o.tag≠directLanTag := by
    intro o ho
    unfold fragmentOutbound at ho
    cases hp : opts.profile with
    | none => simp [hp] at ho
    | some p =>
      rw [hp] at ho
      dsimp only at ho
      split at ho
      · rw [Option.toList_some,mem_singleton] at ho
        subst ho
        simp [directLanTag]
      · cases ho
  have hkeep : (fragmentOutbound settings opts).toList.filter
      (fun o => decide (o.tag≠directLanTag))=(fragmentOutbound settings opts).toList := by
    rw [filter_eq_self]
    intro o ho
    simpa using hfrag o ho
  unfold reconcileLanOutbounds outbounds
  simp only [filter_append,hkeep]
  cases opts.dnsIntercept <;> by_cases hh : lanHosts r1=[] <;>
    simp [hproxy,hh,directLanTag,rwLanOutbound]

variable {node : Node}

/-- The proxy outbound carries its tag and the server of the node. -/
theorem proxyOutbound_eq_ok (h : proxyOutbound node settings opts = .ok proxy) :
    proxy.tag = "proxy" ∧ ∃ protocol server, proxySettings node = .ok (protocol, server) ∧
        proxy.settings=some server := by
  obtain ⟨protocol,server,_,_,hsrv,-,-,rfl⟩ := proxyOutbound_parts h
  exact ⟨rfl,protocol,server,hsrv,rfl⟩

variable {rw : Option RwInbound} {cfg : Config}

theorem liveGrants_buildConfig
    (h : buildConfig node settings opts rw = .ok cfg) : liveGrants cfg=granted rw := by
  obtain ⟨servers,proxy,fields,action,-,-,rfl,-⟩ := buildConfig_eq_ok h
  have hin : (rwReconciled settings rw
      (assemble settings opts rw servers proxy fields action)).inbounds =
      (assemble settings opts rw servers proxy fields action).inbounds :=
    inbounds_filter rw rw
  have hlive : liveGrants (rwReconciled settings rw
      (assemble settings opts rw servers proxy fields action))=granted rw :=
    liveGrants_rwReconciled _
  rw [← hlive]
  unfold liveGrants
  rw [hin]

theorem rwExcess_buildConfig
    (h : buildConfig node settings opts rw = .ok cfg) : rwExcess rw cfg=false := by
  unfold rwExcess
  rw [liveGrants_buildConfig h,any_eq_false]
  intro token htoken
  simpa using htoken

/-- The loopback block a reconciled config ends up with: the tag is taken out when the store
grants nothing, and never put in. -/
def loopbackAfter (opts : BuildOptions) (r1 r2 : Option RwInbound) : FieldRule :=
  loopbackRule opts (if r2.isSome then r1 else none)

/-- Reconciling a built config rebuilds everything but the loopback block. -/
theorem rwReconciled_assemble (h : StoredPart opts fields action) (hproxy : proxy.tag = "proxy")
    (r1 r2 : Option RwInbound) :
    rwReconciled settings r2 (assemble settings opts r1 servers proxy fields action) =
      { assemble settings opts r2 servers proxy fields action with
        rules := loopbackAfter opts r1 r2::middleRules opts fields++lanRules r2 ++
          [catchAll action] } := by
  have hloop (rw : Option RwInbound) : isLanRule (loopbackRule opts rw)=false := by
    simp [isLanRule,loopbackRule,directLanTag]
  have hrules : reconcileLanRules (lanHosts r2) (if r2.isSome
      then layeredRules opts r1 fields action
      else (layeredRules opts r1 fields action).map dropRef) =
      loopbackAfter opts r1 r2::middleRules opts fields++lanRules r2++[catchAll action] := by
    rw [layeredRules_eq]
    unfold loopbackAfter
    split
    · exact reconcileLanRules_layered h (hloop r1) r1 r2
    · have hmiddle : (middleRules opts fields).map dropRef=middleRules opts fields := by
        have hid := map_congr_left fun r hr => (untouched_middleRules h r hr).1
        exact hid.trans (map_id _)
      have hlan : (lanRules r1).map dropRef=lanRules r1 := by
        unfold lanRules
        split <;> rfl
      simp only [map_append,map_cons,map_nil,hmiddle,hlan,
        dropRef_loopbackRule,(untouched_catchAll action).1]
      exact reconcileLanRules_layered h (hloop none) r1 r2
  unfold rwReconciled assemble
  rw [inbounds_filter,reconcileLanOutbounds_eq hproxy,hrules]

/-- The reconciled loopback block is the rebuilt one exactly when no inbound was added to a
config built without one. -/
theorem loopbackAfter_eq_iff (r1 r2 : Option RwInbound) :
    loopbackAfter opts r1 r2=loopbackRule opts r2 ↔ r1.isSome ∨ r2=none := by
  unfold loopbackAfter loopbackRule clientFacing
  cases r2 with
  | none => simp
  | some b =>
    cases r1 with
    | none => simp
    | some a => simp

end Built

/-- Sanitizing equals rebuilding: the reconciled config is the one a build with the store's
own inbound gives, it hands out nothing beyond the store, and reconciling again changes
nothing more. -/
def SanitizingIsRebuilding (node : Node) (settings : Settings) (opts : BuildOptions)
    (r2 : Option RwInbound) (cfg : Config) : Prop :=
  buildConfig node settings opts r2 = .ok (rwReconciled settings r2 cfg) ∧
    rwExcess r2 (rwReconciled settings r2 cfg) = false ∧
    rwReconciled settings r2 (rwReconciled settings r2 cfg) = rwReconciled settings r2 cfg

/-- For every argument tuple, sanitizing a config built with `r1` for a store that resolves to
`r2` equals rebuilding it exactly when `r1` was there or `r2` is not. -/
theorem sanitizing_is_rebuilding_iff (node : Node) (settings : Settings) (opts : BuildOptions)
    (r1 r2 : Option RwInbound) (cfg : Config)
    (hbuild : buildConfig node settings opts r1 = .ok cfg) :
    SanitizingIsRebuilding node settings opts r2 cfg ↔ r1.isSome ∨ r2 = none := by
  obtain ⟨servers,proxy,fields,action,hstored,hproxy,rfl,hany⟩ := buildConfig_eq_ok hbuild
  have hafter : rwReconciled settings r2
      (assemble settings opts r1 servers proxy fields action)=_ :=
    rwReconciled_assemble hstored (proxyOutbound_eq_ok hproxy).1 r1 r2
  have heq : buildConfig node settings opts r2 = .ok (rwReconciled settings r2
      (assemble settings opts r1 servers proxy fields action)) ↔
      loopbackAfter opts r1 r2=loopbackRule opts r2 := by
    rw [hany r2,hafter,Except.ok.injEq]
    unfold assemble
    rw [layeredRules_eq]
    constructor
    · intro h
      injection h with _ _ _ _ _ hrules
      injection hrules with htop
      exact htop.symm
    · intro h
      rw [h]
  unfold SanitizingIsRebuilding
  rw [heq,loopbackAfter_eq_iff]
  exact ⟨fun h => h.1,fun h => ⟨h,rwExcess_rwReconciled _,rwReconciled_idem _⟩⟩

/-- A remote-access inbound with one client. -/
def sampleRw : RwInbound where
  port := 8443
  dest := "www.example.org:443"
  serverNames := ["www.example.org"]
  privateKey := "key"
  shortIds := ["ab"]
  clients := [⟨"11111111-1111-4111-8111-111111111111", "phone"⟩]
  hosts := [("nas.v2pi", "192.168.1.10")]

/-- A config built with remote access and one built without it, both sanitized. -/
theorem sanitizing_is_rebuilding_iff_sample :
    ∃ cfg, buildConfig sampleNode sampleSettings sampleOptions (some sampleRw) = .ok cfg ∧
      SanitizingIsRebuilding sampleNode sampleSettings sampleOptions none cfg := by
  refine ⟨_,rfl,?_⟩
  exact (sanitizing_is_rebuilding_iff sampleNode sampleSettings sampleOptions (some sampleRw) none _
    rfl).mpr (.inl rfl)

/-- Loopback as the sample matchers read it, private ranges as before. -/
def loopbackMatchers : Matchers ℕ :=
  { sampleMatchers with
    address := fun token addr =>
      (token = "127.0.0.0/8" || token = "geoip:private") && addr / 2 ^ 24 = 127 }

/-- A remote client naming the gateway's own loopback proxy. -/
def loopbackFlow : Flow ℕ := ⟨"rw-in", 0, none, [127 * 2 ^ 24 + 1], 10808, .tcp, none⟩

/-- Sanitizing a config built without remote access for a store that grants it is not
rebuilding it: the rebuilt config blocks the remote client from loopback, the sanitized one
lets it out directly. -/
theorem sanitizing_adds_unblocked_inbound :
    ∃ cfg rebuilt, buildConfig sampleNode sampleSettings sampleOptions none = .ok cfg ∧
      buildConfig sampleNode sampleSettings sampleOptions (some sampleRw) = .ok rebuilt ∧
      firstMatch loopbackMatchers loopbackFlow rebuilt.rules = some "block" ∧
      firstMatch loopbackMatchers loopbackFlow
        (rwReconciled sampleSettings (some sampleRw) cfg).rules = some "direct" ∧
      ¬ SanitizingIsRebuilding sampleNode sampleSettings sampleOptions (some sampleRw) cfg := by
  refine ⟨_,_,rfl,rfl,by decide,by decide,?_⟩
  rintro ⟨hsame,-,-⟩
  have hrules := congrArg (fun c => firstMatch loopbackMatchers loopbackFlow c.rules)
    (Except.ok.inj hsame)
  revert hrules
  decide

end PiGwPanel.RemoteAccessReconcile
