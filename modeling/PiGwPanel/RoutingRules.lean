import PiGwPanel.Models
import PiGwPanel.PyText
import PiGwPanel.StableFirstMatch

/-!
# Translation of stored routing rules into xray field rules

`xray_config/routing.py` turns the enabled rules, in position order, into
`routing.rules` entries between the built-in private-range rule and the
catch-all of the default action.
-/

namespace PiGwPanel.RoutingRules

open Models PyText StableFirstMatch

/-- A port condition: the builder writes a number, user rules write text. -/
inductive PortSpec where
  | number (port : ℕ)
  | text (ports : String)
  deriving DecidableEq, Repr

/-- One entry of `routing.rules`; a condition that is not emitted is `none`. -/
structure FieldRule where
  inboundTag : Option (List String) := none
  source : Option (List String) := none
  ip : Option (List String) := none
  domain : Option (List String) := none
  port : Option PortSpec := none
  network : Option String := none
  protocol : Option (List String) := none
  outboundTag : String
  deriving DecidableEq, Repr

/-- `_split`: trimmed, non-empty tokens of a multi-value. -/
def split (value : String) : List String := stripParts (fun c => c = ',' || c = '\n') value

/-- `EXT_FILES`: the data file an `ext:` reference of a dataset names. -/
def extFile (dataset : String) (type : String) : Except String String :=
  if dataset = "ru" then .ok (type ++ "_ru.dat") else .error (pyRepr dataset)

/-- Tokens of a geo rule: the stock files under xray's own names, others through `ext:`. -/
def geoTokens (type dataset : String) (tokens : List String) : Except String (List String) := do
  if dataset = "" then pure (tokens.map fun token => type ++ ":" ++ token)
  else do
    let file ← extFile dataset type
    pure (tokens.map fun token => "ext:" ++ file ++ ":" ++ token)

/-- `_rule_to_field`. -/
def ruleToField (r : RoutingRule) : Except String FieldRule :=
  match r.type with
  | .device => .ok { outboundTag := r.action.tag, source := some (split r.value) }
  | .geoip => do
    let tokens ← geoTokens "geoip" r.dataset (split r.value)
    pure { outboundTag := r.action.tag, ip := some tokens }
  | .ip => .ok { outboundTag := r.action.tag, ip := some (split r.value) }
  | .geosite => do
    let tokens ← geoTokens "geosite" r.dataset (split r.value)
    pure { outboundTag := r.action.tag, domain := some tokens }
  | .domain => .ok { outboundTag := r.action.tag, domain := some (split r.value) }
  | .port => .ok { outboundTag := r.action.tag,
                   port := some (.text (",".intercalate (split r.value))) }
  | .unknown type => .error ("unknown routing rule type: " ++ pyRepr type)

/-- The built-in rule for private destinations. -/
def privateRule : FieldRule := { ip := some ["geoip:private"], outboundTag := "direct" }

/-- The catch-all of the default action. -/
def catchAll (action : Action) : FieldRule :=
  { network := some "tcp,udp", outboundTag := action.tag }

/-- `sorted(rules, key=position)`, a stable sort. -/
def byPosition (rules : List RoutingRule) : List RoutingRule :=
  sortByKey (fun r => r.position) rules

/-- `rules_to_xray`. -/
def rulesToXray (rules : List RoutingRule) (defaultAction : Action) :
    Except String (List FieldRule) := do
  let fields ← ((byPosition rules).filter fun r => r.enabled).mapM ruleToField
  pure (privateRule :: fields ++ [catchAll defaultAction])

theorem ruleToField_eq_ok {r : RoutingRule} {field : FieldRule} (h : ruleToField r = .ok field) :
    field.inboundTag=none ∧ field.outboundTag=r.action.tag := by
  have geo {type : String} {make : List String → FieldRule}
      (hmake : ∀ tokens, (make tokens).inboundTag=none ∧ (make tokens).outboundTag=r.action.tag)
      (hg : (do pure (make (← geoTokens type r.dataset (split r.value))))=Except.ok field) :
      field.inboundTag=none ∧ field.outboundTag=r.action.tag := by
    cases ht : geoTokens type r.dataset (split r.value) with
    | error e =>
      rw [ht] at hg
      cases hg
    | ok tokens =>
      rw [ht] at hg
      cases hg
      exact hmake tokens
  unfold ruleToField at h
  cases ht : r.type with
  | device | ip | domain | port =>
    rw [ht] at h
    cases h
    exact ⟨rfl,rfl⟩
  | geoip | geosite =>
    rw [ht] at h
    exact geo (fun _ => ⟨rfl,rfl⟩) h
  | unknown type =>
    rw [ht] at h
    cases h

theorem exists_of_mem_mapM {rules : List RoutingRule} {fields : List FieldRule}
    (h : rules.mapM ruleToField = .ok fields) {field : FieldRule} (hf : field∈fields) :
    ∃ r∈rules, ruleToField r = .ok field := by
  induction rules generalizing fields with
  | nil =>
    cases h
    cases hf
  | cons r rest ih =>
    rw [List.mapM_cons] at h
    cases hr : ruleToField r with
    | error e =>
      rw [hr] at h
      cases h
    | ok first =>
      cases hrest : rest.mapM ruleToField with
      | error e =>
        rw [hr,hrest] at h
        cases h
      | ok others =>
        rw [hr,hrest] at h
        cases h
        rcases List.mem_cons.mp hf with rfl | hf
        · exact ⟨r,by simp,hr⟩
        · obtain ⟨r',hr',hfield⟩ := ih hrest hf
          exact ⟨r',by simp [hr'],hfield⟩

end PiGwPanel.RoutingRules
