import PiGwPanel.JsText
import PiGwPanel.RoutingRules

/-!
# Saving routing rules without duplicates

Both `_clean_rules` of the API and `toRoutingIn` of the interface keep the first rule
of each type, value, action and dataset. A copy that is dropped could decide no flow
when the first copy is enabled. The enabled flag is not part of what makes two rules
copies, so a disabled rule can take an enabled one with it.
-/

namespace PiGwPanel.DuplicateRules

open Models PyText RoutingRules List

section KeepFirst

variable {α κ : Type} [DecidableEq κ] (key : α → Option κ) {p : α → Bool}

/-- The loop: items without a key and items with a key seen before are left out. -/
def keepFirst : (seen : List κ) → List α → List α
  | _, [] => []
  | seen, item :: rest =>
    match key item with
    | none => keepFirst seen rest
    | some k => if k ∈ seen then keepFirst seen rest else item :: keepFirst (k :: seen) rest

/-- The first item with the property has a key, and one nobody had before. -/
def FirstIsNew (p : α → Bool) (seen : List κ) (items : List α) : Prop :=
  ∀ front item back, items = front ++ item :: back → p item = true → (∀ other ∈ front, p other = false) →
    key item ≠ none ∧ (∀ k ∈ seen, key item ≠ some k) ∧ ∀ other ∈ front, key other ≠ key item

variable {key}

theorem find?_keepFirst {seen : List κ} {items : List α} (h : FirstIsNew key p seen items) :
    (keepFirst key seen items).find? p=items.find? p := by
  induction items generalizing seen with
  | nil => rfl
  | cons item rest ih =>
    cases hp : p item with
    | true =>
      obtain ⟨hkey,hseen,-⟩ := h [] item rest rfl hp (by simp)
      obtain ⟨k,hk⟩ := Option.ne_none_iff_exists'.mp hkey
      have hnew : k∉seen := fun hmem => hseen k hmem hk
      rw [keepFirst,hk]
      dsimp only
      rw [if_neg hnew,find?_cons_of_pos hp,find?_cons_of_pos hp]
    | false =>
      have hrest (more : List κ) (hmore : ∀ k∈more, k∈seen ∨ key item=some k) :
          FirstIsNew key p more rest := by
        intro front found back hsplit hfound hfront
        obtain ⟨hkey,hseen,hothers⟩ := h (item::front) found back (by rw [hsplit]; rfl) hfound
          (forall_mem_cons.mpr ⟨hp,hfront⟩)
        obtain ⟨hfst,hothers⟩ := forall_mem_cons.mp hothers
        refine ⟨hkey,fun k hk heq => ?_,hothers⟩
        rcases hmore k hk with hk | hk
        · exact hseen k hk heq
        · exact hfst (hk.trans heq.symm)
      rw [find?_cons_of_neg (by simp [hp]),keepFirst]
      cases hk : key item with
      | none => exact ih (hrest seen fun _ h => .inl h)
      | some k =>
        dsimp only
        split_ifs with hseen
        · exact ih (hrest seen fun _ h => .inl h)
        · rw [find?_cons_of_neg (by simp [hp])]
          refine ih (hrest _ fun other hother => ?_)
          rcases mem_cons.mp hother with rfl | hother
          · exact .inr hk
          · exact .inl hother

end KeepFirst

/-- What two copies of a rule share. -/
abbrev RuleKey := RuleType × String × Action × String

/-- `datasetOf`: only geo rules read a dataset. -/
def datasetOf (rule : RoutingRule) : String :=
  if rule.type = .geoip ∨ rule.type = .geosite then rule.dataset else ""

/-- The key of `_clean_rules`; a rule without a value has none. -/
def apiKey (rule : RoutingRule) : Option RuleKey :=
  if stripText rule.value = "" then none
  else some (rule.type, stripText rule.value, rule.action, rule.dataset)

/-- `_clean_rules`. -/
def cleanRules (rules : List RoutingRule) : List RoutingRule :=
  (keepFirst apiKey [] rules).zipIdx.map fun entry =>
    { entry.1 with id := none, position := entry.2 }

/-- The key of `toRoutingIn` on a row with a trimmed value. -/
def rowKey (row : RoutingRule) : Option RuleKey :=
  if row.value = "" then none else some (row.type, row.value, row.action, datasetOf row)

/-- A row as it is sent. -/
def trimmedRow (row : RoutingRule) : RoutingRule := { row with value := JsText.trim row.value }

/-- The rules and the number of dropped duplicates of `toRoutingIn`. -/
def toRoutingIn (rows : List RoutingRule) : List RoutingRule × ℕ :=
  let filled := (rows.map trimmedRow).filter fun row => row.value ≠ ""
  let kept := keepFirst rowKey [] (rows.map trimmedRow)
  (kept.map fun row => { row with dataset := datasetOf row }, filled.length - kept.length)

section Decision

/-! ### First match

What a token of a rule covers is xray's business and stays a parameter. -/

variable {F : Type} (covers : RuleType → String → String → F → Bool) (flow : F)

/-- The rule is enabled and one of its tokens covers the flow. -/
def catches (rule : RoutingRule) : Bool :=
  rule.enabled && (split rule.value).any fun token => covers rule.type (datasetOf rule) token flow

/-- The action of the first enabled rule that covers the flow. -/
def decision (defaultAction : Action) (rules : List RoutingRule) : Action :=
  ((rules.find? (catches covers flow)).map RoutingRule.action).getD defaultAction

/-- The rule that decides the flow is no copy of a disabled one ahead of it. -/
def NoDisabledCopy (key : RoutingRule → Option RuleKey) (rules : List RoutingRule) : Prop :=
  ∀ front rule back, rules = front ++ rule :: back → catches covers flow rule = true →
    (∀ other ∈ front, catches covers flow other = false) →
    ∀ other ∈ front, key other = key rule → other.enabled = true

variable {covers flow}

/-- Rules that catch the same flows for the same actions decide alike. -/
theorem decision_congr {β : Type} {f g : β → RoutingRule} (defaultAction : Action) (items : List β)
    (haction : ∀ item, (f item).action=(g item).action)
    (hcatches : ∀ item, catches covers flow (f item)=catches covers flow (g item)) :
    decision covers flow defaultAction (items.map f) =
      decision covers flow defaultAction (items.map g) := by
  have hcomp : catches covers flow ∘ f=catches covers flow ∘ g := funext hcatches
  simp only [decision,find?_map,hcomp,Option.map_map,Function.comp_def,haction]

/-- Copies of an enabled rule catch what it catches. -/
theorem decision_keepFirst {key : RoutingRule → Option RuleKey} {rules : List RoutingRule}
    (defaultAction : Action) (hblank : ∀ rule, key rule=none → catches covers flow rule=false)
    (hsame : ∀ a b k, key a=some k → key b=some k → a.enabled=true →
      catches covers flow b=true → catches covers flow a=true)
    (h : NoDisabledCopy covers flow key rules) :
    decision covers flow defaultAction (keepFirst key [] rules) =
      decision covers flow defaultAction rules := by
  unfold decision
  rw [find?_keepFirst]
  intro front rule back hsplit hrule hfront
  have hkey : key rule≠none := fun hnone => by simp [hblank rule hnone] at hrule
  refine ⟨hkey,by simp,fun other hother heq => ?_⟩
  obtain ⟨k,hk⟩ := Option.ne_none_iff_exists'.mp hkey
  have hon := h front rule back hsplit hrule hfront other hother heq
  have hcatch := hsame other rule k (heq.trans hk) hk hon hrule
  rw [hfront other hother] at hcatch
  cases hcatch

/-- Removing duplicates changes no decision, unless the rule that decides is a copy of a disabled
one; the rules the API stores are in the order of their positions. -/
theorem decision_without_duplicates (covers : RuleType → String → String → F → Bool) (flow : F)
    (defaultAction : Action) (rules : List RoutingRule) : (NoDisabledCopy covers flow apiKey rules →
      decision covers flow defaultAction (byPosition (cleanRules rules)) =
        decision covers flow defaultAction rules) ∧
    (NoDisabledCopy covers flow rowKey (rules.map trimmedRow) →
      decision covers flow defaultAction (toRoutingIn rules).1 =
        decision covers flow defaultAction (rules.map trimmedRow)) := by
  have hempty (rule : RoutingRule) (h : split rule.value=[]) : catches covers flow rule=false := by
    simp [catches,h]
  refine ⟨fun hapi => ?_,fun hrows => ?_⟩
  · have hsorted : byPosition (cleanRules rules)=cleanRules rules := by
      refine StableFirstMatch.sortByKey_of_pairwise _ (pairwise_map.mpr ?_)
      have hplaces : ((keepFirst apiKey [] rules).zipIdx.map Prod.snd).Pairwise (·<·) := by
        rw [zipIdx_map_snd]
        exact pairwise_lt_range'
      exact (pairwise_map.mp hplaces).imp fun h => Int.ofNat_le.mpr h.le
    rw [hsorted]
    refine (decision_congr (g := Prod.fst) defaultAction _ ?_ ?_).trans ?_
    · exact fun _ => rfl
    · exact fun _ => rfl
    rw [zipIdx_map_fst]
    refine decision_keepFirst defaultAction (fun rule h => hempty rule ?_) ?_ hapi
    · unfold apiKey at h
      split_ifs at h with hblank
      rw [split,← stripParts_stripText,hblank]
      decide
    · intro a b k ha hb hon hcatch
      unfold apiKey at ha hb
      split_ifs at ha hb
      obtain ⟨htype,hval,-,hdataset⟩ :
          b.type=a.type ∧ stripText b.value=stripText a.value ∧ b.action=a.action ∧
            b.dataset=a.dataset := by
        simpa only [Prod.mk.injEq] using Option.some.inj (hb.trans ha.symm)
      have htokens : split b.value=split a.value := by
        rw [split,← stripParts_stripText,hval,stripParts_stripText]
        rfl
      simp only [catches,datasetOf,htokens,htype,hdataset,Bool.and_eq_true] at hcatch ⊢
      exact ⟨hon,hcatch.2⟩
  · refine (decision_congr (g := id) defaultAction _ ?_ ?_).trans ?_
    · exact fun _ => rfl
    · intro row
      simp only [catches,datasetOf,id]
      split_ifs <;> rfl
    rw [map_id]
    refine decision_keepFirst defaultAction (fun row h => hempty row ?_) ?_ hrows
    · unfold rowKey at h
      split_ifs at h with hblank
      rw [hblank]
      decide
    · intro a b k ha hb hon hcatch
      unfold rowKey at ha hb
      split_ifs at ha hb
      obtain ⟨htype,hval,-,hdataset⟩ : b.type=a.type ∧ b.value=a.value ∧
          b.action=a.action ∧ datasetOf b=datasetOf a := by
        simpa only [Prod.mk.injEq] using Option.some.inj (hb.trans ha.symm)
      simp only [catches,hval,htype,hdataset,Bool.and_eq_true] at hcatch ⊢
      exact ⟨hon,hcatch.2⟩

end Decision

/-- A rule about one name. -/
def nameRule (enabled : Bool) (value : String) : RoutingRule :=
  { id := none, position := 0, type := .domain, value := value, action := .proxy
    enabled := enabled }

/-- An enabled rule goes with its disabled copy, in the API and in the interface. -/
theorem enabled_rule_dropped :
    let rules := [nameRule false "example.org", nameRule true "example.org"]
    let covers := fun (_ : RuleType) (_ token name : String) => decide (token = name)
    decision covers "example.org" .direct rules = .proxy ∧
    decision covers "example.org" .direct (byPosition (cleanRules rules)) = .direct ∧
    decision covers "example.org" .direct (rules.map trimmedRow) = .proxy ∧
    decision covers "example.org" .direct (toRoutingIn rules).1 = .direct := by
  decide +kernel

/-- Copies of an enabled rule are dropped without a trace, also beside a disabled rule. -/
theorem decision_without_duplicates_sample :
    let rules := [nameRule false "other.org", nameRule true " example.org",
      nameRule true "example.org"]
    let covers := fun (_ : RuleType) (_ token name : String) => decide (token = name)
    decision covers "example.org" .direct (byPosition (cleanRules rules)) =
      decision covers "example.org" .direct rules ∧
    decision covers "example.org" .direct (toRoutingIn rules).1 =
      decision covers "example.org" .direct (rules.map trimmedRow) := by
  intro rules covers
  have hcopy {key : RoutingRule → Option RuleKey} {rules : List RoutingRule}
      (h : ∀ rule∈rules, catches covers "example.org" rule=true →
        ∀ other∈rules, key other=key rule → other.enabled=true) :
      NoDisabledCopy covers "example.org" key rules := by
    rintro front rule back rfl hrule - other hother
    exact h rule (by simp) hrule other (mem_append_left _ hother)
  have hboth := decision_without_duplicates covers "example.org" .direct rules
  exact ⟨hboth.1 (hcopy (by decide +kernel)),hboth.2 (hcopy (by decide +kernel))⟩

end PiGwPanel.DuplicateRules
