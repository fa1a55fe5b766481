import GatewayFeed.Proofs.Item.Printed

/-! Every collection is decoded again from its JSON text. An item is printed with all its first names,
in the order of the names, and none of them twice. -/

namespace GatewayFeed

open Json (Written)

section

variable {α : Type} {j : FieldValue → Json} {r : Record FieldValue}

/-- The members of a record whose values are printed by `j`. -/
def Members.ofRecord (j : FieldValue → Json) (r : Record FieldValue) : Members :=
  .ofJson (r.map fun m => (m.1, j m.2))

theorem Members.names_ofRecord : (ofRecord j r).map (·.1) = r.map (·.1) := by
  simp [ofRecord, ofJson, Function.comp_def]

theorem Members.lookup_ofRecord (name : String) :
    (ofRecord j r).lookup name = (r.lookup name).map fun v => (j v).written := by
  induction r with
  | nil => rfl
  | cons m r ih =>
    change List.lookup name ((m.1, (j m.2).written) :: ofRecord j r) = _
    rw [List.lookup_cons, List.lookup_cons, ih]
    split <;> rfl

theorem Members.read_ofRecord {name : String} {names : List String} {v : FieldValue} (f : Written → Option α)
    (zero : α) {x : α} (hv : r.lookup name = some v) (hnull : (j v).written.isNull = false)
    (hx : f (j v).written = some x) : (ofRecord j r).read f zero (name :: names) = x := by
  have hvalue : (ofRecord j r).value? (name :: names) = some (j v).written := by
    rw [value?, List.findSome?_cons, lookup_ofRecord, hv]
    simp [Option.filter, hnull]
  rw [read, hvalue, Option.bind_some, hx, Option.getD_some]

theorem Shape.accepts_ofRecord {s : Shape FieldType} {typed : FieldType → Written → Bool}
    (hn : (r.map (·.1)).Nodup) (htype : ∀ m ∈ r, (s.field? m.1).map (·.type) = some m.2.type)
    (htyped : ∀ m ∈ r, typed m.2.type (j m.2).written = true) : s.Accepts typed (Members.ofRecord j r) where
  unique := by
    rw [knownNames, Members.names_ofRecord]
    exact hn.filter _
  typed m hm fd hfd := by
    obtain ⟨m', hm', rfl⟩ := List.mem_map.1 hm
    obtain ⟨m'', hm'', rfl⟩ := List.mem_map.1 hm'
    have ht := htype m'' hm''
    rw [show s.field? m''.1 = some fd from hfd, Option.map_some] at ht
    have hfits := htyped m'' hm''
    rw [← Option.some.inj ht] at hfits
    exact .inr hfits

end

/-- Members say what the values of a record are. -/
structure Members.Say (ms : Members) (r : Record FieldValue) : Prop where
  int64 : ∀ {name names n}, r.lookup name = some (.int64 n) → ms.int64 (name :: names) = n
  int32 : ∀ {name names n}, r.lookup name = some (.int32 n) → ms.int32 (name :: names) = n
  text : ∀ {name names s}, r.lookup name = some (.text s) → ms.text (name :: names) = s
  flag : ∀ {name names b}, r.lookup name = some (.flag b) → ms.flag (name :: names) = b
  texts : ∀ {name names ts}, r.lookup name = some (.texts ts) → ms.texts (name :: names) = ts
  attributes : ∀ {name names m}, r.lookup name = some (.attributes m) → ms.attributes (name :: names) = m

theorem Members.say_ofRecord {j : FieldValue → Json} (hj : ∀ v, v.type ≠ .event → j v = v.plainJson)
    (r : Record FieldValue) : (ofRecord j r).Say r where
  int64 {_ _ n} h := by
    have hv := hj (.int64 n) nofun
    exact read_ofRecord Written.int64? 0 h (by rw [hv]; rfl) (by rw [hv]; exact Json.int64?_written _)
  int32 {_ _ n} h := by
    have hv := hj (.int32 n) nofun
    exact read_ofRecord Written.int32? 0 h (by rw [hv]; rfl) (by rw [hv]; exact Json.int32?_written _)
  text {_ _ s} h := by
    have hv := hj (.text s) nofun
    exact read_ofRecord Written.text? "" h (by rw [hv]; rfl) (by rw [hv]; exact Json.text?_written _)
  flag {_ _ b} h := by
    have hv := hj (.flag b) nofun
    exact read_ofRecord Written.flag? false h (by rw [hv]; rfl) (by rw [hv]; rfl)
  texts {_ _ ts} h := by
    have hv := hj (.texts ts) nofun
    exact read_ofRecord Written.texts? [] h (by rw [hv]; rfl) (by rw [hv]; exact Json.texts?_written _)
  attributes {_ _ m} h := by
    have hv := hj (.attributes m) nofun
    exact read_ofRecord Written.attributes? .empty h (by rw [hv]; rfl)
      (by rw [hv]; exact Json.attributes?_written _)

/-- The members of a printed record, in any order. -/
theorem Members.perm_ofRecord {j : FieldValue → Json} {r : Record FieldValue} (hn : (r.map (·.1)).Nodup) :
    (ofJson (Json.sortedMembers (r.map fun m => (m.1, j m.2)))).Perm (ofRecord j r) := by
  refine (Json.sortedMembers_perm ?_).map _
  simpa [Function.comp_def] using hn

namespace Event

theorem ofMembers_toRecord (e : Event) : ofMembers (.ofRecord FieldValue.plainJson e.toRecord) = e := by
  have h := Members.say_ofRecord (fun _ _ => rfl) e.toRecord
  obtain ⟨eventId, timestamp, type, tenantId, tenantDomain⟩ := e
  rw [ofMembers, mk.injEq]
  exact ⟨h.text rfl, h.int64 rfl, h.text rfl, h.int32 rfl, h.text rfl⟩

theorem typed_toRecord (e : Event) :
    ∀ m ∈ e.toRecord, (shape.field? m.1).map (·.type) = some m.2.type ∧ m.2.type ≠ .event := by
  simp only [toRecord, List.forall_mem_cons, List.not_mem_nil, false_imp_iff, implies_true, and_true]
  exact ⟨⟨rfl, nofun⟩, ⟨rfl, nofun⟩, ⟨rfl, nofun⟩, ⟨rfl, nofun⟩, ⟨rfl, nofun⟩⟩

theorem nodup_toRecord (e : Event) : (e.toRecord.map (·.1)).Nodup := by
  change (["eventId", "timestamp", "type", "tenantId", "tenantDomain"] : List String).Nodup
  decide

theorem event?_written (e : Event) : e.toJson.written.event? = some e := by
  have haccepts : shape.Accepts FieldType.isPlain (.ofRecord FieldValue.plainJson e.toRecord) :=
    Shape.accepts_ofRecord e.nodup_toRecord (fun m hm => (e.typed_toRecord m hm).1)
      fun m hm => FieldValue.isPlain_written (e.typed_toRecord m hm).2
  have hperm := (Members.perm_ofRecord (j := FieldValue.plainJson) e.nodup_toRecord).filter
    fun m => shape.knows m.1
  rw [toJson, Json.ofMembers, Written.event?, Json.members?_written, Option.bind_some,
    decoded_of_perm hperm, if_pos haccepts, ofMembers_toRecord]

end Event

namespace FieldValue

theorem isTyped_written (v : FieldValue) : v.type.isTyped v.toJson.written = true := by
  cases v with
  | event e =>
    change (Written.event? e.toJson.written).isSome = true
    rw [Event.event?_written]
    rfl
  | int64 n => exact isPlain_written (v := .int64 n) nofun
  | int32 n => exact isPlain_written (v := .int32 n) nofun
  | text s => exact isPlain_written (v := .text s) nofun
  | flag b => exact isPlain_written (v := .flag b) nofun
  | texts ts => exact isPlain_written (v := .texts ts) nofun
  | attributes m => exact isPlain_written (v := .attributes m) nofun

end FieldValue

theorem Members.event?_ofRecord {r : Record FieldValue} {e : Option Event}
    (h : r.lookup "event" = e.map .event) : (ofRecord FieldValue.toJson r).event? = e := by
  have hlookup := lookup_ofRecord (j := FieldValue.toJson) (r := r) "event"
  rw [h] at hlookup
  cases e with
  | none => simp [event?, value?, hlookup]
  | some e =>
    have hwritten : (FieldValue.toJson (.event e)).written.event? = some e := e.event?_written
    have hvalue : (ofRecord FieldValue.toJson r).value? ["event"] =
        some (FieldValue.toJson (.event e)).written := by
      rw [value?, List.findSome?_cons, hlookup]
      rfl
    rw [event?, hvalue, Option.bind_some, hwritten]

namespace Kind

theorem typed_recordOfItem (k : Kind) (x : k.Item) :
    ∀ m ∈ k.recordOfItem x, (k.shape.field? m.1).map (·.type) = some m.2.type := by
  have hevent : ∀ e : Option Event, ∀ m ∈ eventMember e,
      (k.shape.field? m.1).map (·.type) = some m.2.type := by
    intro e
    cases e with
    | none => nofun
    | some e =>
      intro m hm
      obtain rfl := List.mem_singleton.1 hm
      cases k <;> rfl
  cases k with
  | subscriptions =>
    refine List.forall_mem_append.2 ⟨?_, hevent _⟩
    simp only [List.forall_mem_cons]
    exact ⟨rfl, rfl, rfl, rfl, rfl, nofun⟩
  | applications =>
    refine List.forall_mem_append.2 ⟨?_, hevent _⟩
    simp only [List.forall_mem_cons]
    exact ⟨rfl, rfl, rfl, rfl, rfl, rfl, rfl, rfl, nofun⟩
  | keyMappings =>
    refine List.forall_mem_append.2 ⟨?_, hevent _⟩
    simp only [List.forall_mem_cons]
    exact ⟨rfl, rfl, rfl, rfl, nofun⟩
  | apis =>
    refine List.forall_mem_append.2 ⟨?_, hevent _⟩
    simp only [List.forall_mem_cons]
    exact ⟨rfl, rfl, rfl, rfl, rfl, rfl, rfl, rfl, nofun⟩
  | applicationPolicies =>
    refine List.forall_mem_append.2 ⟨?_, hevent _⟩
    simp only [List.forall_mem_cons]
    exact ⟨rfl, rfl, rfl, rfl, nofun⟩
  | subscriptionPolicies =>
    refine List.forall_mem_append.2 ⟨?_, hevent _⟩
    simp only [List.forall_mem_cons]
    exact ⟨rfl, rfl, rfl, rfl, rfl, rfl, rfl, rfl, rfl, nofun⟩

/-- No name is printed twice. -/
theorem nodup_recordOfItem (k : Kind) (x : k.Item) : ((k.recordOfItem x).map (·.1)).Nodup := by
  cases k with
  | subscriptions =>
    obtain ⟨_, _, _, _, _, event⟩ := x
    cases event <;> simp [recordOfItem, eventMember]
  | applications =>
    obtain ⟨_, _, _, _, _, _, _, _, event⟩ := x
    cases event <;> simp [recordOfItem, eventMember]
  | keyMappings =>
    obtain ⟨_, _, _, _, event⟩ := x
    cases event <;> simp [recordOfItem, eventMember]
  | apis =>
    obtain ⟨_, _, _, _, _, _, _, _, event⟩ := x
    cases event <;> simp [recordOfItem, eventMember]
  | applicationPolicies =>
    obtain ⟨_, _, _, _, event⟩ := x
    cases event <;> simp [recordOfItem, eventMember]
  | subscriptionPolicies =>
    obtain ⟨_, _, _, _, _, _, _, _, _, event⟩ := x
    cases event <;> simp [recordOfItem, eventMember]

theorem accepts_recordOfItem (k : Kind) (x : k.Item) :
    k.Accepts (.ofRecord FieldValue.toJson (k.recordOfItem x)) :=
  Shape.accepts_ofRecord (k.nodup_recordOfItem x) (k.typed_recordOfItem x)
    fun m _ => m.2.isTyped_written

theorem item_recordOfItem (k : Kind) (x : k.Item) :
    (Members.ofRecord FieldValue.toJson (k.recordOfItem x)).item k = x := by
  have hplain : ∀ v : FieldValue, v.type ≠ .event → v.toJson = v.plainJson := by
    intro v hv
    cases v <;> first | rfl | exact absurd rfl hv
  have h := Members.say_ofRecord hplain (k.recordOfItem x)
  cases k with
  | subscriptions =>
    obtain ⟨_, _, _, _, _, event⟩ := x
    change Members.subscription _ = _
    rw [Members.subscription, Subscription.mk.injEq]
    exact ⟨h.int64 rfl, h.text rfl, h.int64 rfl, h.int64 rfl, h.text rfl,
      Members.event?_ofRecord (by cases event <;> rfl)⟩
  | applications =>
    obtain ⟨_, _, _, _, _, _, _, _, event⟩ := x
    change Members.application _ = _
    rw [Members.application, Application.mk.injEq]
    exact ⟨h.text rfl, h.int64 rfl, h.text rfl, h.text rfl, h.text rfl, h.text rfl, h.texts rfl,
      h.attributes rfl,
      Members.event?_ofRecord (by cases event <;> rfl)⟩
  | keyMappings =>
    obtain ⟨_, _, _, _, event⟩ := x
    change Members.keyMapping _ = _
    rw [Members.keyMapping, KeyMapping.mk.injEq]
    exact ⟨h.int64 rfl, h.text rfl, h.text rfl, h.text rfl,
      Members.event?_ofRecord (by cases event <;> rfl)⟩
  | apis =>
    obtain ⟨_, _, _, _, _, _, _, _, event⟩ := x
    change Members.api _ = _
    rw [Members.api, Api.mk.injEq]
    exact ⟨h.int64 rfl, h.text rfl, h.text rfl, h.text rfl, h.text rfl, h.text rfl, h.text rfl,
      h.flag rfl,
      Members.event?_ofRecord (by cases event <;> rfl)⟩
  | applicationPolicies =>
    obtain ⟨_, _, _, _, event⟩ := x
    change Members.applicationPolicy _ = _
    rw [Members.applicationPolicy, ApplicationPolicy.mk.injEq]
    exact ⟨h.int64 rfl, h.int64 rfl, h.text rfl, h.text rfl,
      Members.event?_ofRecord (by cases event <;> rfl)⟩
  | subscriptionPolicies =>
    obtain ⟨_, _, _, _, _, _, _, _, _, event⟩ := x
    change Members.subscriptionPolicy _ = _
    rw [Members.subscriptionPolicy, SubscriptionPolicy.mk.injEq]
    exact ⟨h.int64 rfl, h.int64 rfl, h.text rfl, h.text rfl, h.int64 rfl, h.int64 rfl, h.int64 rfl,
      h.text rfl, h.flag rfl,
      Members.event?_ofRecord (by cases event <;> rfl)⟩

theorem itemMeaning_written (k : Kind) (x : k.Item) : k.itemMeaning (k.itemJson x).written = some x := by
  have hperm := (Members.perm_ofRecord (j := FieldValue.toJson) (k.nodup_recordOfItem x)).filter
    fun m => k.shape.knows m.1
  rw [itemMeaning_eq, itemJson, Json.ofMembers, Json.members?_written, Option.bind_some,
    decoded_of_perm hperm, if_pos (k.accepts_recordOfItem x), item_recordOfItem]

end Kind

namespace Json

theorem isExact_ofMembers {r : Record FieldValue} {j : FieldValue → Json} (hn : (r.map (·.1)).Nodup)
    (h : ∀ v, (j v).isExact = true) : (ofMembers (r.map fun m => (m.1, j m.2))).isExact = true := by
  rw [ofMembers, isExact, membersExact_iff]
  intro m hm
  have hmem := (sortedMembers_perm (by simpa [Function.comp_def] using hn)).mem_iff.1 hm
  obtain ⟨m', -, rfl⟩ := List.mem_map.1 hmem
  exact h m'.2

end Json

theorem FieldValue.isExact_toJson (v : FieldValue) : v.toJson.isExact = true := by
  cases v with
  | event e => exact Json.isExact_ofMembers e.nodup_toRecord isExact_plainJson
  | texts ts => exact isExact_plainJson (.texts ts)
  | attributes m => exact isExact_plainJson (.attributes m)
  | int64 n => rfl
  | int32 n => rfl
  | text s => rfl
  | flag b => rfl

theorem Kind.isExact_itemJson (k : Kind) (x : k.Item) : (k.itemJson x).isExact = true :=
  Json.isExact_ofMembers (k.nodup_recordOfItem x) FieldValue.isExact_toJson

namespace Collection

theorem isExact_toJson (c : Collection) : c.toJson.isExact = true := by
  simp [toJson, Json.isExact, Json.membersExact_iff, Json.areExact_iff, Kind.isExact_itemJson]

theorem itemsMeaning_written (c : Collection) : c.kind.itemsMeaning c.toJson.written = some c.items := by
  change c.kind.itemsMeaning (.object [⟨[], .ofText "list", [],
    ⟨[], Json.written (.array (c.items.map c.kind.itemJson)), []⟩⟩] []) = _
  rw [itemsMeaning_list, Json.list?_written, List.mapM_map]
  have hitems := mapM_some (g := id) c.items fun x _ => c.kind.itemMeaning_written x
  rw [List.map_id] at hitems
  exact hitems

theorem decode_compact (c : Collection) : decode c.kind (Utf8.encode c.toJson.compact) = .ok c := by
  have hbytes : c.toJson.written.bytes = Utf8.encode c.toJson.compact := by
    rw [Json.bytes_written _ c.isExact_toJson, Utf8.encode, Json.compact, String.toList_ofList]
  have hdecode := toOption_decode c.kind [] c.toJson.written []
  rw [Json.Blanks.bytes_nil, List.nil_append, List.append_nil, hbytes, itemsMeaning_written] at hdecode
  exact eq_ok_of_toOption hdecode

/-- Every collection is decoded from its text again, so that collections of a kind differ if and only if
their texts do. -/
theorem decode_toJson : (∀ c : Collection, decode c.kind (Utf8.encode c.toJson.compact) = .ok c) ∧
    ∀ k, Function.Injective fun items : List k.Item => (⟨k, items⟩ : Collection).toJson.compact := by
  refine ⟨decode_compact, fun k items items' h => ?_⟩
  have hitems := decode_compact ⟨k, items⟩
  have hitems' := decode_compact ⟨k, items'⟩
  have htext : (⟨k, items⟩ : Collection).toJson.compact = (⟨k, items'⟩ : Collection).toJson.compact := h
  rw [htext, hitems'] at hitems
  cases hitems
  rfl

end Collection

end GatewayFeed
