import Mathlib.Data.Prod.Lex
import PiGwPanel.Models
import PiGwPanel.PyText
import PiGwPanel.StableFirstMatch

/-!
# The configuration store

The SQLite tables that define the gateway's configuration. What the schema
enforces about a table is a field of the store: primary keys and unique indexes
hold in every state, so an insert that would break one has no store to return.
Reads order their rows as the source's `ORDER BY` clauses do.
-/

namespace PiGwPanel.ConfigStore

open Models PyText StableFirstMatch

/-- A parsed JSON value. -/
inductive Json where
  | null
  | bool (value : Bool)
  | num (value : ℤ)
  | str (value : String)
  | arr (items : List Json)
  | obj (fields : List (String × Json))

/-- A node feed on record. -/
structure Subscription where
  id : ℕ
  (name url : String)
  injection : Json := .obj []
  intervalSec : ℤ := 0
  enabled : Bool := true
  defaultProfileId : Option ℕ := none
  (lastFetched lastStatus lastPath lastError : Option String := none)
  (upBytes downBytes totalBytes expireAt : Option ℕ := none)
  lastSkipped : Json := .obj []

/-- `mac.strip().lower()`: the form a hardware address is stored in. -/
def plainMac (mac : String) : String := (stripText mac).toLower

/-- A pinned device. Both writers of the table trim the address and lower-case the MAC. -/
structure Reservation where
  (mac ip name : String)
  createdAt : ℕ
  mac_plain : plainMac mac = mac
  ip_plain : stripText ip = ip

/-- The first id an SQLite `INTEGER` column cannot hold. -/
def rowIdLimit : ℕ := 2 ^ 63

/-- The columns of `uq_nodes_identity`. -/
structure NodeIdentity where
  subscriptionId : Option ℕ
  address : String
  port : ℕ
  (uuid path sni shortId : String)
  deriving DecidableEq

/-- What makes a node a duplicate of another. -/
def nodeIdentity (node : Node) : NodeIdentity :=
  ⟨node.subscriptionId, node.address, node.port, node.uuid, node.path, node.sni, node.shortId⟩

/-- Ids as a primary key column can hold them. -/
def LegalIds (ids : List ℕ) : Prop := ids.Nodup ∧ ∀ id ∈ ids, id < rowIdLimit

instance (ids : List ℕ) : Decidable (LegalIds ids) :=
  inferInstanceAs (Decidable (_ ∧ _))

/-- What the schema enforces about the table `nodes`. -/
def LegalNodes (nodes : List Node) : Prop :=
  LegalIds (nodes.map Node.id) ∧ (nodes.map nodeIdentity).Nodup

instance (nodes : List Node) : Decidable (LegalNodes nodes) :=
  inferInstanceAs (Decidable (LegalIds _ ∧ _))

/-- What the schema enforces about the table `dhcp_reservations`. -/
def LegalReservations (reservations : List Reservation) : Prop :=
  (reservations.map Reservation.mac).Nodup ∧ (reservations.map Reservation.ip).Nodup

instance (reservations : List Reservation) : Decidable (LegalReservations reservations) :=
  inferInstanceAs (Decidable (_ ∧ _))

/-- The tables of one store. -/
structure Store where
  nodes : List Node
  subscriptions : List Subscription
  profiles : List TuningProfile
  rules : List RoutingRule
  reservations : List Reservation
  settings : String → Option String
  nodes_legal : LegalNodes nodes
  subscriptions_legal : LegalIds (subscriptions.map Subscription.id)
  profiles_legal : LegalIds (profiles.map TuningProfile.id)
  rules_legal : (rules.map RoutingRule.position).Nodup
  reservations_legal : LegalReservations reservations

/-- `get_setting`. -/
def Store.getSetting (store : Store) (key : String) : Option String := store.settings key

/-- `get_setting(key) or default`. -/
def Store.settingOr (store : Store) (key fallback : String) : String :=
  orDefault ((store.getSetting key).getD "") fallback

/-- The `ORDER BY position, id` of the node table. -/
def nodeOrder (node : Node) : ℕ ×ₗ ℕ := toLex (node.position, node.id)

/-- `list_nodes`. -/
def Store.listNodes (store : Store) : List Node :=
  (sortByKey nodeOrder store.nodes).map Node.normalize

/-- `list_subscriptions`. -/
def Store.listSubscriptions (store : Store) : List Subscription :=
  sortByKey Subscription.id store.subscriptions

/-- `list_profiles`. -/
def Store.listProfiles (store : Store) : List TuningProfile :=
  sortByKey TuningProfile.id store.profiles

/-- `get_profile`. -/
def Store.getProfile (store : Store) (id : ℤ) : Option TuningProfile :=
  store.profiles.find? fun profile => (profile.id : ℤ) = id

/-- `get_routing`. -/
def Store.getRouting (store : Store) : List RoutingRule :=
  sortByKey RoutingRule.position store.rules

/-- `list_reservations`. -/
def Store.listReservations (store : Store) : List Reservation :=
  sortByKey Reservation.ip store.reservations

/-- `get_default_profile`; a stored id that is no number raises. -/
def Store.getDefaultProfile (store : Store) : Except String (Option TuningProfile) :=
  match store.getSetting "default_profile_id" with
  | none => .ok none
  | some "" => .ok none
  | some text => (intOrRaise text).map store.getProfile

end PiGwPanel.ConfigStore
