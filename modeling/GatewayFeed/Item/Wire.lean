import GatewayFeed.Item
import GatewayFeed.Json.Record

/-!
Items as JSON. One table per kind lists the fields that are read, some of them older spellings of
others; a value counts under its first spelling that is present and not null. Items are written
with the first spellings, and without an event if they have none.
-/

namespace GatewayFeed

inductive FieldType where
  | int64
  | int32
  | text
  | flag
  | texts
  | attributes
  | event
  deriving DecidableEq, Repr

inductive FieldValue where
  | int64 (n : Int64)
  | int32 (n : Int32)
  | text (s : String)
  | flag (b : Bool)
  | texts (ts : List String)
  | attributes (m : Attributes)
  | event (e : Event)
  deriving DecidableEq

/-- What was read for an item: `none` for null. -/
abbrev ItemRecord := Record (Option FieldValue)

namespace ItemRecord

/-- The value under the first of some keys that has one. -/
def value? (r : ItemRecord) (keys : List String) : Option FieldValue :=
  keys.findSome? fun k => (r.lookup k).join

def int64 (r : ItemRecord) (keys : List String) : Int64 :=
  match r.value? keys with
  | some (.int64 n) => n
  | _ => 0

def int32 (r : ItemRecord) (keys : List String) : Int32 :=
  match r.value? keys with
  | some (.int32 n) => n
  | _ => 0

def text (r : ItemRecord) (keys : List String) : String :=
  match r.value? keys with
  | some (.text s) => s
  | _ => ""

def flag (r : ItemRecord) (keys : List String) : Bool :=
  match r.value? keys with
  | some (.flag b) => b
  | _ => false

def texts (r : ItemRecord) (keys : List String) : List String :=
  match r.value? keys with
  | some (.texts ts) => ts
  | _ => []

def attributes (r : ItemRecord) (keys : List String) : Attributes :=
  match r.value? keys with
  | some (.attributes m) => m
  | _ => .empty

def event? (r : ItemRecord) : Option Event :=
  match r.value? ["event"] with
  | some (.event e) => some e
  | _ => none

end ItemRecord

def Event.shape : Shape FieldType where
  name := "EventWire"
  fields := [⟨"eventId", .text⟩, ⟨"timestamp", .int64⟩, ⟨"timeStamp", .int64⟩, ⟨"type", .text⟩,
    ⟨"tenantId", .int32⟩, ⟨"tenantDomain", .text⟩]
  partialArray := false

def Event.ofRecord (r : ItemRecord) : Event where
  eventId := r.text ["eventId"]
  timestamp := r.int64 ["timestamp", "timeStamp"]
  type := r.text ["type"]
  tenantId := r.int32 ["tenantId"]
  tenantDomain := r.text ["tenantDomain"]

def Event.toRecord (e : Event) : Record FieldValue :=
  [("eventId", .text e.eventId), ("timestamp", .int64 e.timestamp), ("type", .text e.type),
    ("tenantId", .int32 e.tenantId), ("tenantDomain", .text e.tenantDomain)]

namespace Kind

def shape : Kind → Shape FieldType
  | subscriptions => {
      name := "SubscriptionWire"
      fields := [⟨"subscriptionId", .int64⟩, ⟨"policyId", .text⟩, ⟨"apiId", .int64⟩,
        ⟨"appId", .int64⟩, ⟨"applicationId", .int64⟩, ⟨"subscriptionState", .text⟩,
        ⟨"event", .event⟩]
      partialArray := false }
  | applications => {
      name := "ApplicationWire"
      fields := [⟨"uuid", .text⟩, ⟨"id", .int64⟩, ⟨"applicationId", .int64⟩, ⟨"name", .text⟩,
        ⟨"applicationName", .text⟩, ⟨"subName", .text⟩, ⟨"subscriber", .text⟩, ⟨"policy", .text⟩,
        ⟨"applicationPolicy", .text⟩, ⟨"tokenType", .text⟩, ⟨"groupIds", .texts⟩,
        ⟨"attributes", .attributes⟩, ⟨"event", .event⟩]
      partialArray := false }
  | keyMappings => {
      name := "ApplicationKeyMapping"
      fields := [⟨"applicationId", .int64⟩, ⟨"consumerKey", .text⟩, ⟨"keyType", .text⟩,
        ⟨"keyManager", .text⟩, ⟨"event", .event⟩]
      partialArray := true }
  | apis => {
      name := "Api"
      fields := [⟨"apiId", .int64⟩, ⟨"provider", .text⟩, ⟨"name", .text⟩, ⟨"version", .text⟩,
        ⟨"context", .text⟩, ⟨"policy", .text⟩, ⟨"apiType", .text⟩, ⟨"isDefaultVersion", .flag⟩,
        ⟨"event", .event⟩]
      partialArray := true }
  | applicationPolicies => {
      name := "ApplicationPolicy"
      fields := [⟨"id", .int64⟩, ⟨"tenantId", .int64⟩, ⟨"name", .text⟩, ⟨"quotaType", .text⟩,
        ⟨"event", .event⟩]
      partialArray := true }
  | subscriptionPolicies => {
      name := "SubscriptionPolicyWire"
      fields := [⟨"id", .int64⟩, ⟨"policyId", .int64⟩, ⟨"tenantId", .int64⟩, ⟨"name", .text⟩,
        ⟨"quotaType", .text⟩, ⟨"graphQLMaxComplexity", .int64⟩, ⟨"graphQLMaxDepth", .int64⟩,
        ⟨"rateLimitCount", .int64⟩, ⟨"rateLimitTimeUnit", .text⟩, ⟨"stopOnQuotaReach", .flag⟩,
        ⟨"event", .event⟩]
      partialArray := false }

def itemOfRecord (r : ItemRecord) : (k : Kind) → k.Item
  | subscriptions =>
    { subscriptionId := r.int64 ["subscriptionId"]
      policyId := r.text ["policyId"]
      apiId := r.int64 ["apiId"]
      appId := r.int64 ["appId", "applicationId"]
      subscriptionState := r.text ["subscriptionState"]
      event := r.event? : Subscription }
  | applications =>
    { uuid := r.text ["uuid"]
      id := r.int64 ["id", "applicationId"]
      name := r.text ["name", "applicationName"]
      subName := r.text ["subName", "subscriber"]
      policy := r.text ["policy", "applicationPolicy"]
      tokenType := r.text ["tokenType"]
      groupIds := r.texts ["groupIds"]
      attributes := r.attributes ["attributes"]
      event := r.event? : Application }
  | keyMappings =>
    { applicationId := r.int64 ["applicationId"]
      consumerKey := r.text ["consumerKey"]
      keyType := r.text ["keyType"]
      keyManager := r.text ["keyManager"]
      event := r.event? : KeyMapping }
  | apis =>
    { apiId := r.int64 ["apiId"]
      provider := r.text ["provider"]
      name := r.text ["name"]
      version := r.text ["version"]
      context := r.text ["context"]
      policy := r.text ["policy"]
      apiType := r.text ["apiType"]
      isDefaultVersion := r.flag ["isDefaultVersion"]
      event := r.event? : Api }
  | applicationPolicies =>
    { id := r.int64 ["id"]
      tenantId := r.int64 ["tenantId"]
      name := r.text ["name"]
      quotaType := r.text ["quotaType"]
      event := r.event? : ApplicationPolicy }
  | subscriptionPolicies =>
    { id := r.int64 ["id", "policyId"]
      tenantId := r.int64 ["tenantId"]
      name := r.text ["name"]
      quotaType := r.text ["quotaType"]
      graphQLMaxComplexity := r.int64 ["graphQLMaxComplexity"]
      graphQLMaxDepth := r.int64 ["graphQLMaxDepth"]
      rateLimitCount := r.int64 ["rateLimitCount"]
      rateLimitTimeUnit := r.text ["rateLimitTimeUnit"]
      stopOnQuotaReach := r.flag ["stopOnQuotaReach"]
      event := r.event? : SubscriptionPolicy }

def eventMember : Option Event → Record FieldValue
  | none => []
  | some e => [("event", .event e)]

def recordOfItem : (k : Kind) → k.Item → Record FieldValue
  | subscriptions, (s : Subscription) =>
    [("subscriptionId", .int64 s.subscriptionId), ("policyId", .text s.policyId),
      ("apiId", .int64 s.apiId), ("appId", .int64 s.appId),
      ("subscriptionState", .text s.subscriptionState)] ++ eventMember s.event
  | applications, (a : Application) =>
    [("uuid", .text a.uuid), ("id", .int64 a.id), ("name", .text a.name),
      ("subName", .text a.subName), ("policy", .text a.policy), ("tokenType", .text a.tokenType),
      ("groupIds", .texts a.groupIds), ("attributes", .attributes a.attributes)]
      ++ eventMember a.event
  | keyMappings, (m : KeyMapping) =>
    [("applicationId", .int64 m.applicationId), ("consumerKey", .text m.consumerKey),
      ("keyType", .text m.keyType), ("keyManager", .text m.keyManager)] ++ eventMember m.event
  | apis, (a : Api) =>
    [("apiId", .int64 a.apiId), ("provider", .text a.provider), ("name", .text a.name),
      ("version", .text a.version), ("context", .text a.context), ("policy", .text a.policy),
      ("apiType", .text a.apiType), ("isDefaultVersion", .flag a.isDefaultVersion)]
      ++ eventMember a.event
  | applicationPolicies, (p : ApplicationPolicy) =>
    [("id", .int64 p.id), ("tenantId", .int64 p.tenantId), ("name", .text p.name),
      ("quotaType", .text p.quotaType)] ++ eventMember p.event
  | subscriptionPolicies, (p : SubscriptionPolicy) =>
    [("id", .int64 p.id), ("tenantId", .int64 p.tenantId), ("name", .text p.name),
      ("quotaType", .text p.quotaType), ("graphQLMaxComplexity", .int64 p.graphQLMaxComplexity),
      ("graphQLMaxDepth", .int64 p.graphQLMaxDepth), ("rateLimitCount", .int64 p.rateLimitCount),
      ("rateLimitTimeUnit", .text p.rateLimitTimeUnit),
      ("stopOnQuotaReach", .flag p.stopOnQuotaReach)] ++ eventMember p.event

end Kind

namespace FieldType

open Json (Reader)

/-- Values of every type but events, which hold values themselves. -/
def readPlain : FieldType → Reader FieldValue
  | int64 => return .int64 (← Reader.int64)
  | int32 => return .int32 (← Reader.int32)
  | text => return .text (← Reader.text)
  | flag => return .flag (← Reader.flag)
  | texts => return .texts ((← Reader.list (Reader.nullable Reader.text)).map (·.getD ""))
  | attributes => do
    let es ← Reader.map (Reader.nullable Reader.text)
    return .attributes (.ofList (es.map fun e => (e.1, e.2.getD "")))
  | event => Reader.wrongType (.record Event.shape.name)

def readEvent : Reader Event := do
  return .ofRecord (← Reader.record Event.shape fun t => Reader.nullable t.readPlain)

def read : FieldType → Reader FieldValue
  | event => return .event (← readEvent)
  | t => t.readPlain

end FieldType

open Json in
def Kind.readItem (k : Kind) : Reader k.Item := do
  return k.itemOfRecord (← Reader.record k.shape fun t => Reader.nullable t.read)

/-- Values of every type but events. -/
def FieldValue.plainJson : FieldValue → Json
  | .int64 n => .integer n.toInt
  | .int32 n => .integer n.toInt
  | .text s => .text s
  | .flag b => .flag b
  | .texts ts => .array (ts.map .text)
  | .attributes m => .object (m.entries.map fun e => (e.1, .text e.2))
  | .event _ => .null

def Event.toJson (e : Event) : Json := .ofMembers (e.toRecord.map fun m => (m.1, m.2.plainJson))

def FieldValue.toJson : FieldValue → Json
  | .event e => e.toJson
  | v => v.plainJson

def Kind.itemJson (k : Kind) (x : k.Item) : Json :=
  .ofMembers ((k.recordOfItem x).map fun m => (m.1, m.2.toJson))

end GatewayFeed
