import GatewayFeed.Proofs.Item.Reading
import GatewayFeed.Proofs.Json.Members

/-! What the members of an item say about its fields. A field has the value of the first of its names
that has one, where null is none, and is zero if no name has; but every known member must be null or
of its field's type, also those that do not count. -/

namespace GatewayFeed

open Json (Written)
open Json.Written (nullable?)

variable {α : Type}

def Json.Written.isNull : Written → Bool
  | .null => true
  | _ => false

namespace Members

/-- The value under the first of some names that has one. -/
def value? (ms : Members) (names : List String) : Option Written :=
  names.findSome? fun name => (ms.lookup name).filter fun v => !v.isNull

def read (ms : Members) (f : Written → Option α) (zero : α) (names : List String) : α :=
  ((ms.value? names).bind f).getD zero

def int64 (ms : Members) (names : List String) : Int64 := ms.read Written.int64? 0 names

def int32 (ms : Members) (names : List String) : Int32 := ms.read Written.int32? 0 names

def text (ms : Members) (names : List String) : String := ms.read Written.text? "" names

def flag (ms : Members) (names : List String) : Bool := ms.read Written.flag? false names

def texts (ms : Members) (names : List String) : List String := ms.read Written.texts? [] names

def attributes (ms : Members) (names : List String) : Attributes :=
  ms.read Written.attributes? .empty names

end Members

/-- No known name is repeated, and under every known name stands null or a value of its type. -/
structure Shape.Accepts (s : Shape FieldType) (typed : FieldType → Written → Bool) (ms : Members) :
    Prop where
  unique : (s.knownNames ms).Nodup
  typed : ∀ m ∈ ms, ∀ fd ∈ s.field? m.1, m.2.isNull = true ∨ typed fd.type m.2 = true

instance (s : Shape FieldType) (typed : FieldType → Written → Bool) (ms : Members) :
    Decidable (s.Accepts typed ms) :=
  decidable_of_iff ((s.knownNames ms).Nodup ∧
    ∀ m ∈ ms, ∀ fd ∈ s.field? m.1, m.2.isNull = true ∨ typed fd.type m.2 = true)
    ⟨fun h => ⟨h.1, h.2⟩, fun h => ⟨h.1, h.2⟩⟩

/-- Whether a value is of a type that holds no values itself. -/
def FieldType.isPlain : FieldType → Written → Bool
  | int64, v => v.int64?.isSome
  | int32, v => v.int32?.isSome
  | text, v => v.text?.isSome
  | flag, v => v.flag?.isSome
  | texts, v => v.texts?.isSome
  | attributes, v => v.attributes?.isSome
  | event, _ => false

def Event.ofMembers (ms : Members) : Event where
  eventId := ms.text ["eventId"]
  timestamp := ms.int64 ["timestamp", "timeStamp"]
  type := ms.text ["type"]
  tenantId := ms.int32 ["tenantId"]
  tenantDomain := ms.text ["tenantDomain"]

/-- An event, in either form of a record. -/
def Json.Written.event? (v : Written) : Option Event :=
  (Event.shape.members? v).bind fun ms =>
    if Event.shape.Accepts FieldType.isPlain ms then some (Event.ofMembers ms) else none

def FieldType.isTyped : FieldType → Written → Bool
  | event, v => v.event?.isSome
  | t, v => t.isPlain v

namespace Members

/-- Null and absence alike are no event. -/
def event? (ms : Members) : Option Event := (ms.value? ["event"]).bind Written.event?

def subscription (ms : Members) : Subscription where
  subscriptionId := ms.int64 ["subscriptionId"]
  policyId := ms.text ["policyId"]
  apiId := ms.int64 ["apiId"]
  appId := ms.int64 ["appId", "applicationId"]
  subscriptionState := ms.text ["subscriptionState"]
  event := ms.event?

def application (ms : Members) : Application where
  uuid := ms.text ["uuid"]
  id := ms.int64 ["id", "applicationId"]
  name := ms.text ["name", "applicationName"]
  subName := ms.text ["subName", "subscriber"]
  policy := ms.text ["policy", "applicationPolicy"]
  tokenType := ms.text ["tokenType"]
  groupIds := ms.texts ["groupIds"]
  attributes := ms.attributes ["attributes"]
  event := ms.event?

def keyMapping (ms : Members) : KeyMapping where
  applicationId := ms.int64 ["applicationId"]
  consumerKey := ms.text ["consumerKey"]
  keyType := ms.text ["keyType"]
  keyManager := ms.text ["keyManager"]
  event := ms.event?

def api (ms : Members) : Api where
  apiId := ms.int64 ["apiId"]
  provider := ms.text ["provider"]
  name := ms.text ["name"]
  version := ms.text ["version"]
  context := ms.text ["context"]
  policy := ms.text ["policy"]
  apiType := ms.text ["apiType"]
  isDefaultVersion := ms.flag ["isDefaultVersion"]
  event := ms.event?

def applicationPolicy (ms : Members) : ApplicationPolicy where
  id := ms.int64 ["id"]
  tenantId := ms.int64 ["tenantId"]
  name := ms.text ["name"]
  quotaType := ms.text ["quotaType"]
  event := ms.event?

def subscriptionPolicy (ms : Members) : SubscriptionPolicy where
  id := ms.int64 ["id", "policyId"]
  tenantId := ms.int64 ["tenantId"]
  name := ms.text ["name"]
  quotaType := ms.text ["quotaType"]
  graphQLMaxComplexity := ms.int64 ["graphQLMaxComplexity"]
  graphQLMaxDepth := ms.int64 ["graphQLMaxDepth"]
  rateLimitCount := ms.int64 ["rateLimitCount"]
  rateLimitTimeUnit := ms.text ["rateLimitTimeUnit"]
  stopOnQuotaReach := ms.flag ["stopOnQuotaReach"]
  event := ms.event?

def item (ms : Members) : (k : Kind) → k.Item
  | .subscriptions => ms.subscription
  | .applications => ms.application
  | .keyMappings => ms.keyMapping
  | .apis => ms.api
  | .applicationPolicies => ms.applicationPolicy
  | .subscriptionPolicies => ms.subscriptionPolicy

end Members

/-- Whether the members of an item can be decoded. -/
def Kind.Accepts (k : Kind) (ms : Members) : Prop := k.shape.Accepts FieldType.isTyped ms

instance (k : Kind) (ms : Members) : Decidable (k.Accepts ms) :=
  inferInstanceAs (Decidable (k.shape.Accepts FieldType.isTyped ms))

end GatewayFeed
