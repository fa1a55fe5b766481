import GatewayFeed.Kind

/-!
The items of the six datasets. A field that the control plane leaves out is zero, empty or false.
-/

namespace GatewayFeed

/-- Where an item of an incremental notification comes from. -/
structure Event where
  eventId : String
  timestamp : Int64
  type : String
  tenantId : Int32
  tenantDomain : String
  deriving DecidableEq, Repr

/-- Texts by name, sorted by name, each name once. -/
structure Attributes where
  entries : List (String × String)
  sorted : entries.Pairwise (fun a b => a.1 < b.1)
  deriving DecidableEq, Repr

structure Subscription where
  subscriptionId : Int64
  policyId : String
  apiId : Int64
  appId : Int64
  subscriptionState : String
  event : Option Event
  deriving DecidableEq, Repr

structure Application where
  uuid : String
  id : Int64
  name : String
  subName : String
  policy : String
  tokenType : String
  groupIds : List String
  attributes : Attributes
  event : Option Event
  deriving DecidableEq, Repr

structure KeyMapping where
  applicationId : Int64
  consumerKey : String
  keyType : String
  keyManager : String
  event : Option Event
  deriving DecidableEq, Repr

structure Api where
  apiId : Int64
  provider : String
  name : String
  version : String
  context : String
  policy : String
  apiType : String
  isDefaultVersion : Bool
  event : Option Event
  deriving DecidableEq, Repr

structure ApplicationPolicy where
  id : Int64
  tenantId : Int64
  name : String
  quotaType : String
  event : Option Event
  deriving DecidableEq, Repr

structure SubscriptionPolicy where
  id : Int64
  tenantId : Int64
  name : String
  quotaType : String
  graphQLMaxComplexity : Int64
  graphQLMaxDepth : Int64
  rateLimitCount : Int64
  rateLimitTimeUnit : String
  stopOnQuotaReach : Bool
  event : Option Event
  deriving DecidableEq, Repr

namespace Attributes

/-- Puts a name at its place, instead of one that is there already. -/
def insertEntry (key value : String) : List (String × String) → List (String × String)
  | [] => [(key, value)]
  | e :: rest =>
    if key < e.1 then (key, value) :: e :: rest
    else if e.1 < key then e :: insertEntry key value rest
    else (key, value) :: rest

theorem key_of_mem_insertEntry {key value : String} {e : String × String} :
    ∀ {es : List (String × String)}, e ∈ insertEntry key value es → e.1 = key ∨ e ∈ es
  | [], h => by simp [insertEntry] at h; simp [h]
  | a :: rest, h => by
    unfold insertEntry at h
    split at h
    · rcases List.mem_cons.1 h with rfl | h
      · exact .inl rfl
      · exact .inr h
    split at h
    · rcases List.mem_cons.1 h with rfl | h
      · exact .inr (List.mem_cons_self ..)
      · exact (key_of_mem_insertEntry h).imp_right (List.mem_cons_of_mem _)
    · rcases List.mem_cons.1 h with rfl | h
      · exact .inl rfl
      · exact .inr (List.mem_cons_of_mem _ h)

theorem key_eq_of_not_lt {a b : String} (h : ¬ a < b) (h' : ¬ b < a) : a = b :=
  String.le_antisymm (String.not_lt.1 h') (String.not_lt.1 h)

theorem pairwise_insertEntry (key value : String) :
    ∀ {es : List (String × String)}, es.Pairwise (fun a b => a.1 < b.1) →
      (insertEntry key value es).Pairwise (fun a b => a.1 < b.1)
  | [], _ => by simp [insertEntry]
  | a :: rest, h => by
    obtain ⟨ha, hr⟩ := List.pairwise_cons.1 h
    unfold insertEntry
    split
    · rename_i hlt
      refine List.pairwise_cons.2 ⟨fun b hb => ?_, h⟩
      rcases List.mem_cons.1 hb with rfl | hb
      · exact hlt
      · exact String.lt_trans hlt (ha b hb)
    split
    · rename_i hlt
      refine List.pairwise_cons.2 ⟨fun b hb => ?_, pairwise_insertEntry key value hr⟩
      rcases key_of_mem_insertEntry hb with hk | hb
      · exact hk ▸ hlt
      · exact ha b hb
    · rename_i h1 h2
      refine List.pairwise_cons.2 ⟨fun b hb => ?_, hr⟩
      exact key_eq_of_not_lt h1 h2 ▸ ha b hb

def empty : Attributes := ⟨[], .nil⟩

def insert (m : Attributes) (key value : String) : Attributes :=
  ⟨insertEntry key value m.entries, pairwise_insertEntry key value m.sorted⟩

/-- Of several entries with one name the last counts. -/
def ofList (es : List (String × String)) : Attributes :=
  es.foldl (fun m e => m.insert e.1 e.2) empty

end Attributes

/-- The type of a kind's items. -/
def Kind.Item : Kind → Type
  | .subscriptions => Subscription
  | .applications => Application
  | .keyMappings => KeyMapping
  | .apis => Api
  | .applicationPolicies => ApplicationPolicy
  | .subscriptionPolicies => SubscriptionPolicy

instance (k : Kind) : DecidableEq k.Item := by
  cases k <;> unfold Kind.Item <;> infer_instance

end GatewayFeed
