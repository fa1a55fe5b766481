/-!
The closed list of datasets that a gateway needs, and where the control plane serves each.
-/

namespace GatewayFeed

inductive Kind where
  | subscriptions
  | applications
  | keyMappings
  | apis
  | applicationPolicies
  | subscriptionPolicies
  deriving DecidableEq, Repr

namespace Kind

/-- Every kind, in the order in which lists of kinds are given. -/
def all : List Kind :=
  [subscriptions, applications, keyMappings, apis, applicationPolicies, subscriptionPolicies]

theorem mem_all (k : Kind) : k ∈ all := by cases k <;> decide

theorem nodup_all : all.Nodup := by decide

def name : Kind → String
  | subscriptions => "subscriptions"
  | applications => "applications"
  | keyMappings => "application-key-mappings"
  | apis => "apis"
  | applicationPolicies => "application-policies"
  | subscriptionPolicies => "subscription-policies"

def ofName? (s : String) : Option Kind := all.find? (·.name = s)

/-- Position in `all`. -/
def rank (k : Kind) : Nat := all.idxOf k

end Kind

/-- A dataset of the control plane: its name in reports and metrics, the last part of its path,
and the kind of its items. -/
structure Endpoint where
  name : String
  path : String
  kind : Kind
  deriving DecidableEq, Repr

namespace Endpoint

def ofKind (k : Kind) : Endpoint := ⟨k.name, k.name, k⟩

def all : List Endpoint := Kind.all.map ofKind

def pathPrefix : List Char := "/internal/data/v1/".toList

/-- A base address without the slashes at its end. -/
def withoutSlashes (base : List Char) : List Char := (base.reverse.dropWhile (· = '/')).reverse

def url (e : Endpoint) (base : String) : String :=
  String.ofList (withoutSlashes base.toList ++ pathPrefix ++ e.path.toList)

end Endpoint

end GatewayFeed
