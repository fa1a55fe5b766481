import GatewayFeed.Collection

/-!
What a gateway knows: for each kind the items that were last loaded, or nothing if it was never
loaded. An empty list is something else than nothing.
-/

namespace GatewayFeed

structure Snapshot where
  slot : (k : Kind) → Option (List k.Item)

/-- How much a snapshot holds of one kind. -/
structure SlotSummary where
  kind : Kind
  populated : Bool
  size : Nat
  deriving DecidableEq, Repr

namespace Snapshot

@[ext] theorem ext {s t : Snapshot} (h : ∀ k, s.slot k = t.slot k) : s = t := by
  cases s; cases t; congr; funext k; exact h k

def empty : Snapshot := ⟨fun _ => none⟩

def set (s : Snapshot) (c : Collection) : Snapshot where
  slot k := if h : c.kind = k then some (h ▸ c.items) else s.slot k

def setAll (s : Snapshot) (cs : List Collection) : Snapshot := cs.foldl set s

def get (s : Snapshot) (k : Kind) : Option Collection := (s.slot k).map (⟨k, ·⟩)

def isPopulated (s : Snapshot) (k : Kind) : Bool := (s.slot k).isSome

/-- Number of populated slots. -/
def populated (s : Snapshot) : Nat := (Kind.all.filter s.isPopulated).length

def missing (s : Snapshot) : List Kind := Kind.all.filter fun k => !s.isPopulated k

def summary (s : Snapshot) : List SlotSummary :=
  Kind.all.map fun k => ⟨k, s.isPopulated k, ((s.slot k).map List.length).getD 0⟩

theorem slot_set_self (s : Snapshot) (c : Collection) : (s.set c).slot c.kind = some c.items := by
  simp [set]

theorem slot_set_of_ne (s : Snapshot) {c : Collection} {k : Kind} (h : c.kind ≠ k) :
    (s.set c).slot k = s.slot k := by
  simp [set, h]

/-- The first item of a kind that passes a test. -/
def find (s : Snapshot) (k : Kind) (p : k.Item → Bool) : Option k.Item :=
  (s.slot k).bind (List.find? p)

def findSubscription (s : Snapshot) (apiId appId : Int64) : Option Subscription :=
  s.find .subscriptions fun (x : Subscription) => x.apiId = apiId && x.appId = appId

def findApplication (s : Snapshot) (id : Int64) : Option Application :=
  s.find .applications fun (x : Application) => x.id = id

def findKeyMapping (s : Snapshot) (consumerKey : String) : Option KeyMapping :=
  s.find .keyMappings fun (x : KeyMapping) => x.consumerKey = consumerKey

def findApi (s : Snapshot) (context version : String) : Option Api :=
  s.find .apis fun (x : Api) => x.context = context && x.version = version

def findApplicationPolicy (s : Snapshot) (name : String) : Option ApplicationPolicy :=
  s.find .applicationPolicies fun (x : ApplicationPolicy) => x.name = name

def findSubscriptionPolicy (s : Snapshot) (name : String) : Option SubscriptionPolicy :=
  s.find .subscriptionPolicies fun (x : SubscriptionPolicy) => x.name = name

end Snapshot

end GatewayFeed
