import PiGwPanel.BackupAcceptance
import PiGwPanel.FeedRefresh

/-!
# The nodes a backup can carry

A row reaches the node table through a parser and a clamp whose limits are not
those of the backup document. What a parsed node must be like for its row to fit
the document is said here field by field, and a refresh of such nodes is followed
to the table: at every point where it may stop, every row still fits.
-/

namespace PiGwPanel.StorableNodes

open Models NodeSecurity KeyedRows FeedMerge FeedRefresh BackupAcceptance AnsweredProgram List
open BackupDocument hiding maxNodes

/-- The transports `BackupNode` names. -/
def transportNames : List String := ["vision", "xhttp"]

/-- A parsed node the document has room for once its fields are clamped. -/
@[mk_iff] structure Storable (node : RawNode) : Prop where
  name : node.name ≠ ""
  address : node.address ≠ ""
  transport : node.transport ∈ transportNames
  method : node.method.length ≤ 64
  fingerprint : node.fingerprint.length ≤ 32
  flow : node.flow.length ≤ 64
  mode : node.mode.length ≤ 64
  alpn : node.alpn.length ≤ 128
  credential : HasCredential node.read

/-- A row of the node table the document takes. -/
structure RowFits (subs profiles : List ℕ) (row : RawNode) : Prop where
  transport : row.transport ∈ transportNames
  fits : NodeFits row.read
  subscription : ∀ id ∈ row.subscriptionId, id ∈ subs
  profile : ∀ id ∈ row.tuningProfileId, id ∈ profiles

section Clamped

/-! ### What clamping leaves of a storable node -/

theorem length_clampText_le (limit : ℕ) (text : String) : (clampText limit text).length≤limit := by
  unfold clampText
  split
  · rw [← String.length_toList,String.toList_ofList,length_take]
    omega
  · omega

theorem length_clampText_le_length (limit : ℕ) (text : String) :
    (clampText limit text).length≤text.length := by
  unfold clampText
  split
  · rw [← String.length_toList,String.toList_ofList,← String.length_toList]
    exact length_take_le' limit _
  · exact le_rfl

theorem length_clampText_pos {limit : ℕ} (hlimit : 0<limit) {text : String} (h : text ≠ "") :
    1≤(clampText limit text).length := by
  rw [Nat.one_le_iff_ne_zero,Ne,String.length_eq_zero_iff,clampText_eq_iff (by simpa)]
  exact h

theorem length_of_base64Length {text : String} {size : ℕ} (h : base64Length text=some size)
    (hsize : size≤32) : text.length≤512 := by
  simp only [base64Length,Option.ite_none_right_eq_some,Bool.and_eq_true,
    decide_eq_true_eq,Option.some.injEq] at h
  obtain ⟨⟨⟨-,hpadding⟩,-⟩,hbytes⟩ := h
  have hwhole : (text.toList.takeWhile fun c => c ≠ '=').length +
      (text.toList.drop (text.toList.takeWhile fun c => c ≠ '=').length).length=text.length := by
    have hle := (takeWhile_sublist (fun c => decide (c ≠ '=')) (l := text.toList)).length_le
    rw [length_drop,← String.length_toList]
    omega
  omega

/-- A password that suits its cipher is not touched by the clamp, or need not be. -/
theorem ssPasswordIssue_clampText {method password : String}
    (h : ssPasswordIssue method password=none) :
    ssPasswordIssue method (clampText 512 password)=none := by
  cases hneeded : ss2022KeyBytes.lookup method with
  | none => rw [ssPasswordIssue,hneeded,Option.bind_none]
  | some needed =>
    have hsmall : needed≤32 := by
      obtain ⟨before,after,hents,-⟩ := lookup_eq_some_iff.mp hneeded
      have hall : ∀ entry∈ss2022KeyBytes, entry.2≤32 := by decide
      exact hall (method, needed) (hents ▸ mem_append_right _ mem_cons_self)
    have hshort : password.length≤512 := by
      rw [ssPasswordIssue,hneeded,Option.bind_some] at h
      split at h
      · cases h
      next size hsize =>
        split at h
        · cases h
        next hexact =>
          exact length_of_base64Length hsize (by omega)
    rw [clampText_of_le hshort]
    exact h

theorem hasCredential_clamped {node : RawNode} (h : HasCredential node.read)
    (hmeth : node.method.length≤64) : HasCredential (clampNodeFields node).read where
  uuid hvless := fun hempty => h.uuid hvless ((clampText_eq_iff (by decide)).mp hempty)
  password hother := fun hempty => h.password hother ((clampText_eq_iff (by decide)).mp hempty)
  method hss := by
    obtain ⟨hknown,hissue⟩ := h.method hss
    change clampText 512 node.method ∈ _ ∧ ssPasswordIssue (clampText 512 node.method) _=none
    rw [clampText_of_le (by omega)]
    exact ⟨hknown,ssPasswordIssue_clampText hissue⟩

theorem length_of_built {node : Node} (h : node.normalize=node) :
    node.security.length≤32 ∧ node.network.length≤32 := by
  have hsec := length_securityChoice node.publicKey node.security
  have hnone : ("none" : String).length≤32 := by decide
  have htcp : ("tcp" : String).length≤32 := by decide
  have hxhttp : ("xhttp" : String).length≤32 := by decide
  rw [← h]
  unfold Node.normalize
  split
  · exact ⟨hnone,htcp⟩
  · exact ⟨hsec,htcp⟩
  · exact ⟨hsec,hxhttp⟩
  · exact ⟨hsec,htcp⟩

variable {node : RawNode} {id position : ℕ} {subscriptionId tuningProfileId : Option ℕ}
  {stale : Bool} {note : String}

/-- A storable node fits the document wherever it is placed. -/
theorem Storable.nodeFits (h : Storable node) (hbuilt : node.normalize=node)
    (hport : 1≤node.port ∧ node.port≤65535) (hid : id≠0)
    (hsub : ∀ id∈subscriptionId, id≠0) (hprof : ∀ id∈tuningProfileId, id≠0)
    (hpos : position≤BackupDocument.maxNodes) (hnote : note.length≤512) :
    NodeFits (placed (clampNodeFields node) id subscriptionId stale position tuningProfileId
      note).read where
  id := hid
  name := ⟨length_clampText_pos (by decide) h.name,(length_clampText_le 256 _).trans (by decide)⟩
  address := ⟨length_clampText_pos (by decide) h.address,length_clampText_le 253 _⟩
  port := hport
  uuid := (length_clampText_le 128 _).trans (by decide)
  password := length_clampText_le 512 _
  method := (length_clampText_le_length 512 _).trans h.method
  sni := length_clampText_le 253 _
  publicKey := length_clampText_le 512 _
  shortId := length_clampText_le 512 _
  fingerprint := (length_clampText_le_length 512 _).trans h.fingerprint
  flow := (length_clampText_le_length 512 _).trans h.flow
  network := by
    have hread : node.read.normalize=node.read := by rw [← read_normalize,hbuilt]
    exact (length_of_built hread).2
  security := by
    have hread : node.read.normalize=node.read := by rw [← read_normalize,hbuilt]
    exact (length_clampText_le_length 512 _).trans (length_of_built hread).1
  path := length_clampText_le 512 _
  host := length_clampText_le 253 _
  mode := (length_clampText_le_length 512 _).trans h.mode
  alpn := (length_clampText_le_length 512 _).trans h.alpn
  note := hnote
  subscriptionId := hsub
  tuningProfileId := hprof
  position := hpos
  credential :=
    have hclamped := hasCredential_clamped h.credential h.method
    ⟨hclamped.uuid,hclamped.password,hclamped.method⟩

end Clamped

section Merge

/-! ### The rows of a merge -/

variable {subs profiles : List ℕ} {digest : List Identity → String} {call : MergeCall}
  {store : FeedStore}

/-- Parsed nodes the document has room for. -/
def AllStorable (parsed : List {node : RawNode // node.normalize = node}) : Prop :=
  ∀ node ∈ parsed, Storable node.val ∧ 1 ≤ node.val.port ∧ node.val.port ≤ 65535

/-- The ids a row may refer to. -/
structure RefersTo (subs profiles : List ℕ) (subId : ℕ) (defaultProfileId : Option ℕ) : Prop where
  subscription : subId ∈ subs
  profile : ∀ id ∈ defaultProfileId, id ∈ profiles
  subscriptions : 0 ∉ subs
  profiles : 0 ∉ profiles

theorem ne_zero_of_mem {ids : List ℕ} (h : 0∉ids) {id : ℕ} (hid : id∈ids) : id≠0 :=
  fun hzero => h (hzero ▸ hid)

theorem RowFits.stale {row : RawNode} (h : RowFits subs profiles row) (stale : Bool) :
    RowFits subs profiles { row with stale := stale } :=
  have hcred := h.fits.credential
  ⟨h.transport, { h.fits with credential := ⟨hcred.uuid,hcred.password,hcred.method⟩ },
    h.subscription,h.profile⟩

variable {item : RawNode × ℕ}

/-- A merged entry is a clamped node of the feed, at a position within the feed. -/
theorem exists_of_mem_items (h : item∈call.items) :
    (∃ node∈call.parsed, item.1=clampNodeFields node.val) ∧ item.2 < call.parsed.length := by
  constructor
  · have hentry : item.1∈call.entries := fst_mem_of_mem_zipIdx h
    obtain ⟨node,hnode,hclamped⟩ := mem_map.mp (mem_of_mem_putRows hentry)
    obtain ⟨built,hbuilt,rfl⟩ := mem_map.mp hnode
    exact ⟨built,hbuilt,hclamped.symm⟩
  · have hindex : item.2 < call.entries.length := by
      have hlt := snd_lt_add_of_mem_zipIdx h
      omega
    have hents := @length_putRows_le _ _ _ identity
      ((call.parsed.map Subtype.val).map clampNodeFields)
    rw [length_map,length_map] at hents
    exact hindex.trans_le hents

/-- An entry of a storable feed makes a row that fits. -/
theorem rowFits_of_mem_items {tuningProfileId : Option ℕ} (hparsed : AllStorable call.parsed)
    (hcount : call.parsed.length≤BackupDocument.maxNodes)
    (hrefers : RefersTo subs profiles call.subId tuningProfileId)
    (hitem : item∈call.items) {id : ℕ} (hid : id≠0) {note : String} (hnote : note.length≤512) :
    RowFits subs profiles
      (placed item.1 id (some call.subId) false item.2 tuningProfileId note) := by
  obtain ⟨⟨node,hnode,hclamped⟩,hindex⟩ := exists_of_mem_items hitem
  obtain ⟨hstorable,hport⟩ := hparsed node hnode
  rw [hclamped]
  refine ⟨?_,hstorable.nodeFits node.property hport hid ?_ ?_ (by omega) hnote,?_,hrefers.profile⟩
  · have hshort : node.val.transport.length≤512 := by
      have hall : ∀ name∈transportNames, name.length≤512 := by decide
      exact hall _ hstorable.transport
    change clampText 512 node.val.transport∈transportNames
    rw [clampText_of_le hshort]
    exact hstorable.transport
  · intro sub hsub
    rw [← Option.some.inj hsub]
    exact ne_zero_of_mem hrefers.subscriptions hrefers.subscription
  · intro profile hprof
    exact ne_zero_of_mem hrefers.profiles (hrefers.profile profile hprof)
  · intro sub hsub
    rw [← Option.some.inj hsub]
    exact hrefers.subscription

theorem rowFits_reconcile (hrows : ∀ row∈store.rows, RowFits subs profiles row)
    (hparsed : AllStorable call.parsed) (hcount : call.parsed.length≤BackupDocument.maxNodes)
    (hrefers : RefersTo subs profiles call.subId call.defaultProfileId) :
    ∀ row∈(reconcile digest call store).1.rows, RowFits subs profiles row := by
  intro row hrow
  rw [reconcile_rows,mem_append] at hrow
  rcases hrow with hkept | hadded
  · obtain ⟨old,hold,hfate⟩ := mem_filterMap.mp hkept
    have hfits := hrows old hold
    unfold MergeCall.fate at hfate
    split at hfate
    · split at hfate
      next item hentry =>
        rw [← Option.some.inj hfate]
        unfold MergeCall.written
        split
        · exact hfits
        · have hrefers' : RefersTo subs profiles call.subId old.tuningProfileId :=
            { hrefers with profile := hfits.profile }
          exact rowFits_of_mem_items hparsed hcount hrefers' (identity_of_entryFor hentry).1
            hfits.fits.id hfits.fits.note
      · rw [actOn_some hfate]
        exact hfits.stale row.stale
    · rw [← Option.some.inj hfate]
      exact hfits
  · obtain ⟨hid,item,hitem,-,hnew⟩ := mem_newRows hadded
    obtain ⟨⟨node,-,hclamped⟩,-⟩ := exists_of_mem_items hitem
    rw [hnew]
    refine rowFits_of_mem_items hparsed hcount hrefers hitem (by omega) ?_
    rw [hclamped]
    exact length_clampText_le 512 _

theorem length_newRows_le (rows : List RawNode) (lastId : ℕ) (items : List (RawNode × ℕ)) :
    (call.newRows rows lastId items).length ≤ items.length := by
  induction items generalizing lastId with
  | nil => exact le_rfl
  | cons item rest ih =>
    unfold MergeCall.newRows
    split
    · exact (ih lastId).trans (Nat.le_succ _)
    · exact Nat.succ_le_succ (ih (lastId+1))

theorem length_reconcile_le :
    (reconcile digest call store).1.rows.length ≤ store.rows.length+call.parsed.length := by
  have hents := @length_putRows_le _ _ _ identity
    ((call.parsed.map Subtype.val).map clampNodeFields)
  have hitems : call.items.length=call.entries.length := length_zipIdx
  have hold := length_filterMap_le (call.fate digest store.settings store.rows) store.rows
  have hnew := @length_newRows_le call store.rows store.lastId call.items
  rw [length_map,length_map] at hents
  rw [reconcile_rows,length_append]
  calc _ ≤ store.rows.length+call.entries.length := by omega
    _ ≤ _ := Nat.add_le_add_left hents _

theorem shrinkKey_not_exported (subId : ℕ) : shrinkKey subId∉settingsKeys := by
  intro hmem
  have hall : ∀ key∈settingsKeys, key.toList.take 20 ≠ "subscription_shrink:".toList := by
    decide +kernel
  refine hall _ hmem ?_
  unfold shrinkKey
  rw [String.toList_append]
  rfl

end Merge

section Refresh

/-! ### The rows at every point of a refresh -/

variable {subs profiles : List ℕ} {most : ℕ} {settings : String → Option String} {s t : FeedStore}

/-- Every row fits, there are at most so many, and the exported settings are those given. -/
structure Carries (subs profiles : List ℕ) (most : ℕ) (settings : String → Option String)
    (store : FeedStore) : Prop where
  rows : ∀ row ∈ store.rows, RowFits subs profiles row
  count : store.rows.length ≤ most
  settings : ∀ key ∈ settingsKeys, store.settings key = settings key

section

variable (h : Carries subs profiles most settings s)

include h

theorem Carries.withActive (id : ℕ) : Carries subs profiles most settings (withActive id s) where
  rows := h.rows
  count := h.count
  settings key hkey := by
    have hother : key ≠ "active_node_id" := by
      rintro rfl
      exact absurd hkey (by decide)
    exact (if_neg hother).trans (h.settings key hkey)

theorem Carries.withoutNode (id : ℤ) : Carries subs profiles most settings (withoutNode id s) where
  rows row hrow := h.rows row (mem_of_mem_filter hrow)
  count := (length_filter_le _ _).trans h.count
  settings := h.settings

theorem Carries.withNode {row : RawNode}
    (hrow : RowFits subs profiles row) (ht : withNode row s=some t) :
    Carries subs profiles most settings t := by
  unfold FeedRefresh.withNode at ht
  split at ht
  · cases ht
    refine ⟨fun other hother => ?_,?_,h.settings⟩
    · rcases mem_of_mem_replaceRow hother with rfl | hold
      · exact hrow
      · exact h.rows other hold
    · exact (length_map _).trans_le h.count
  · cases ht

end

theorem undisturbed_carries :
    Undisturbed (Carries subs profiles most settings) (RowFits subs profiles) where
  withActive id hs := hs.withActive id
  withoutNode id hs := hs.withoutNode id
  withNode hrow hs ht := hs.withNode hrow ht

/-- Wherever a refresh of a storable feed stops, every row fits, no
more rows were added than the feed has nodes, and the exported settings are what they were. -/
theorem refresh_carries {digest : List Identity → String} {subId : ℕ}
    {feed : List {node : RawNode // node.normalize=node}} {defaultProfileId : Option ℕ}
    (hrows : ∀ row∈s.rows, RowFits subs profiles row) (hfeed : AllStorable (feed.take maxNodes))
    (hmost : s.rows.length+(feed.take maxNodes).length ≤ most)
    (hrefers : RefersTo subs profiles subId defaultProfileId) :
    Prog.Meets (fun answer => answer.feed=feed ∧ answer.defaultProfileId=defaultProfileId)
      (refresh digest subId) s (Carries subs profiles most s.settings)
      (Carries subs profiles most s.settings) fun _ t => Carries subs profiles most s.settings t := by
  have hstart : Carries subs profiles most s.settings s := ⟨hrows,by omega,fun _ _ => rfl⟩
  refine undisturbed_carries.refresh hstart hrows fun fetched answer hfetched hanswer => ?_
  rw [hfetched.1,hanswer.2]
  have hcount : (feed.take maxNodes).length≤BackupDocument.maxNodes :=
    (length_take_le maxNodes feed).trans (by decide)
  refine ⟨rowFits_reconcile hrows hfeed hcount hrefers,length_reconcile_le.trans hmost,?_⟩
  intro key hkey
  have hother : key≠shrinkKey subId := by
    rintro rfl
    exact shrinkKey_not_exported subId hkey
  exact if_neg hother

end Refresh

end PiGwPanel.StorableNodes
