import GatewayFeed.Proofs.Item.Fields

/-! The reader of items goes by their members: it accepts those that no known name is repeated in and
that are typed, and gives the item that they say. -/

namespace GatewayFeed

open Json (Written)
open Json.Written (nullable?)

variable {α : Type}

theorem Json.Written.isSome_nullable? (f : Written → Option α) (v : Written) :
    (nullable? f v).isSome = true ↔ v.isNull = true ∨ (f v).isSome = true := by
  cases v <;> simp [nullable?, isNull]

section

variable {s : Shape FieldType} {g : FieldType → Written → Option FieldValue} {ms : Members}

/-- Members are collected exactly if they are accepted. -/
theorem Shape.isSome_collect_iff (s : Shape FieldType) (ms : Members) {typed : FieldType → Written → Bool}
    (hg : ∀ t v, (g t v).isSome = typed t v) :
    (s.collect (fun t => nullable? (g t)) [] ms).isSome = true ↔ s.Accepts typed ms := by
  have hnull : ∀ (t : FieldType) (v : Written),
      (nullable? (g t) v).isSome = true ↔ v.isNull = true ∨ typed t v = true := by
    intro t v
    rw [Json.Written.isSome_nullable?, hg]
  rw [isSome_collect]
  simp only [hnull, List.map_nil, List.not_mem_nil, not_false_eq_true, implies_true, true_and]
  exact ⟨fun h => ⟨h.1, h.2⟩, fun h => ⟨h.1, h.2⟩⟩

variable {r : ItemRecord} {t : FieldType} {names : List String}

/-- The value that counts for a field is that of the member that counts. -/
theorem value?_of_collect (h : s.collect (fun t => nullable? (g t)) [] ms = some r)
    (hnames : ∀ name ∈ names, (s.field? name).map (·.type) = some t) :
    r.value? names = (ms.value? names).bind (g t) := by
  have htyped := (Shape.isSome_collect s (fun t => nullable? (g t)) [] ms).1 (by rw [h]; rfl)
  induction names with
  | nil => rfl
  | cons name names ih =>
    obtain ⟨fd, hfd, rfl⟩ := Option.map_eq_some_iff.1 (hnames name List.mem_cons_self)
    have hrest := ih fun n hn => hnames n (List.mem_cons_of_mem _ hn)
    have hlookup := Shape.lookup_collect h hfd
    unfold ItemRecord.value? Members.value? at hrest ⊢
    rw [List.findSome?_cons, List.findSome?_cons, hlookup]
    cases hv : ms.lookup name with
    | none => simpa using hrest
    | some v =>
      have hsome := htyped.2.2 (name, v) (mem_of_lookup hv) fd hfd
      rw [Json.Written.isSome_nullable?] at hsome
      by_cases hn : v.isNull = true
      · have hfilter : (some v).filter (fun v => !v.isNull) = none := by simp [Option.filter, hn]
        have hnull : nullable? (g fd.type) v = some none := by
          cases v <;> first | rfl | cases hn
        rw [hfilter, Option.bind_some, hnull]
        simpa using hrest
      · have hfilter : (some v).filter (fun v => !v.isNull) = some v := by simp [Option.filter, hn]
        obtain ⟨x, hx⟩ := Option.isSome_iff_exists.1 (hsome.resolve_left hn)
        have hnull : nullable? (g fd.type) v = some (some x) := by
          cases v <;> first | exact absurd rfl hn | simp [nullable?, hx]
        rw [hfilter, Option.bind_some, hnull]
        simp [hx]

theorem value?_eq_map (h : s.collect (fun t => nullable? (g t)) [] ms = some r)
    (hnames : ∀ name ∈ names, (s.field? name).map (·.type) = some t) {f : Written → Option α}
    {wrap : α → FieldValue} (hg : ∀ v, g t v = (f v).map wrap) :
    r.value? names = ((ms.value? names).bind f).map wrap := by
  rw [value?_of_collect h hnames, Option.map_bind]
  congr 1
  funext v
  exact hg v

end

/-- The fields of a record, by its members. -/
structure ItemRecord.Reads (s : Shape FieldType) (r : ItemRecord) (ms : Members) : Prop where
  int64 : ∀ names, (∀ name ∈ names, (s.field? name).map (·.type) = some .int64) →
    r.int64 names = ms.int64 names
  int32 : ∀ names, (∀ name ∈ names, (s.field? name).map (·.type) = some .int32) →
    r.int32 names = ms.int32 names
  text : ∀ names, (∀ name ∈ names, (s.field? name).map (·.type) = some .text) →
    r.text names = ms.text names
  flag : ∀ names, (∀ name ∈ names, (s.field? name).map (·.type) = some .flag) →
    r.flag names = ms.flag names
  texts : ∀ names, (∀ name ∈ names, (s.field? name).map (·.type) = some .texts) →
    r.texts names = ms.texts names
  attributes : ∀ names, (∀ name ∈ names, (s.field? name).map (·.type) = some .attributes) →
    r.attributes names = ms.attributes names

theorem ItemRecord.reads_of_collect {s : Shape FieldType} {g : FieldType → Written → Option FieldValue}
    (hg : ∀ t, t ≠ .event → g t = t.plainMeaning) {r : ItemRecord} {ms : Members}
    (h : s.collect (fun t => nullable? (g t)) [] ms = some r) : r.Reads s ms where
  int64 names hnames := by
    have hv := value?_eq_map h hnames fun v => congrFun (hg .int64 (by decide)) v
    unfold ItemRecord.int64 Members.int64 Members.read
    rw [hv]
    cases (ms.value? names).bind Written.int64? <;> rfl
  int32 names hnames := by
    have hv := value?_eq_map h hnames fun v => congrFun (hg .int32 (by decide)) v
    unfold ItemRecord.int32 Members.int32 Members.read
    rw [hv]
    cases (ms.value? names).bind Written.int32? <;> rfl
  text names hnames := by
    have hv := value?_eq_map h hnames fun v => congrFun (hg .text (by decide)) v
    unfold ItemRecord.text Members.text Members.read
    rw [hv]
    cases (ms.value? names).bind Written.text? <;> rfl
  flag names hnames := by
    have hv := value?_eq_map h hnames fun v => congrFun (hg .flag (by decide)) v
    unfold ItemRecord.flag Members.flag Members.read
    rw [hv]
    cases (ms.value? names).bind Written.flag? <;> rfl
  texts names hnames := by
    have hv := value?_eq_map h hnames fun v => congrFun (hg .texts (by decide)) v
    unfold ItemRecord.texts Members.texts Members.read
    rw [hv]
    cases (ms.value? names).bind Written.texts? <;> rfl
  attributes names hnames := by
    have hv := value?_eq_map h hnames fun v => congrFun (hg .attributes (by decide)) v
    unfold ItemRecord.attributes Members.attributes Members.read
    rw [hv]
    cases (ms.value? names).bind Written.attributes? <;> rfl

namespace FieldType

theorem isSome_plainMeaning (t : FieldType) (v : Written) : (t.plainMeaning v).isSome = t.isPlain v := by
  cases t <;> simp [plainMeaning, isPlain]

theorem eventMeaning_eq (v : Written) : eventMeaning v = v.event? := by
  have hdistinct : Event.shape.Distinct := by decide
  rw [eventMeaning, Shape.record?_eq_collect hdistinct, Written.event?, Option.map_bind]
  congr 1
  funext ms
  have hiff := Shape.isSome_collect_iff Event.shape ms isSome_plainMeaning
  cases hr : Event.shape.collect (fun t => nullable? t.plainMeaning) [] ms with
  | none =>
    have hacc : ¬ Event.shape.Accepts isPlain ms := fun h => by simpa [hr] using hiff.2 h
    simp [hr, hacc]
  | some r =>
    have hacc : Event.shape.Accepts isPlain ms := hiff.1 (by rw [hr]; rfl)
    have hreads := ItemRecord.reads_of_collect (fun _ _ => rfl) hr
    have hevent : Event.ofRecord r = Event.ofMembers ms := by
      unfold Event.ofRecord Event.ofMembers
      simp (disch := decide) only [hreads.text, hreads.int64, hreads.int32]
    simp [hr, hacc, hevent]

theorem isSome_meaning (t : FieldType) (v : Written) : (t.meaning v).isSome = t.isTyped v := by
  cases t with
  | event => simp [meaning, isTyped, eventMeaning_eq]
  | int64 => exact isSome_plainMeaning .int64 v
  | int32 => exact isSome_plainMeaning .int32 v
  | text => exact isSome_plainMeaning .text v
  | flag => exact isSome_plainMeaning .flag v
  | texts => exact isSome_plainMeaning .texts v
  | attributes => exact isSome_plainMeaning .attributes v

end FieldType

namespace Kind

theorem itemOfRecord_eq {k : Kind} {r : ItemRecord} {ms : Members}
    (h : k.shape.collect (fun t => nullable? t.meaning) [] ms = some r) :
    k.itemOfRecord r = ms.item k := by
  have hplain : ∀ t : FieldType, t ≠ .event → t.meaning = t.plainMeaning := by
    intro t ht
    cases t <;> first | exact absurd rfl ht | rfl
  have hreads := ItemRecord.reads_of_collect hplain h
  have hevent : r.event? = ms.event? := by
    have hv : r.value? ["event"] = ((ms.value? ["event"]).bind Written.event?).map .event :=
      value?_eq_map (t := .event) h (by cases k <;> decide) fun v =>
        congrArg (Option.map FieldValue.event) (FieldType.eventMeaning_eq v)
    unfold ItemRecord.event? Members.event?
    rw [hv]
    cases (ms.value? ["event"]).bind Written.event? <;> rfl
  cases k with
  | subscriptions =>
    simp (disch := decide) only [itemOfRecord, Members.item, Members.subscription,
      hreads.int64, hreads.text, hevent]
    rfl
  | applications =>
    simp (disch := decide) only [itemOfRecord, Members.item, Members.application,
      hreads.int64, hreads.text, hreads.texts, hreads.attributes, hevent]
    rfl
  | keyMappings =>
    simp (disch := decide) only [itemOfRecord, Members.item, Members.keyMapping,
      hreads.int64, hreads.text, hevent]
    rfl
  | apis =>
    simp (disch := decide) only [itemOfRecord, Members.item, Members.api,
      hreads.int64, hreads.text, hreads.flag, hevent]
    rfl
  | applicationPolicies =>
    simp (disch := decide) only [itemOfRecord, Members.item, Members.applicationPolicy,
      hreads.int64, hreads.text, hevent]
    rfl
  | subscriptionPolicies =>
    simp (disch := decide) only [itemOfRecord, Members.item, Members.subscriptionPolicy,
      hreads.int64, hreads.text, hreads.flag, hevent]
    rfl

/-- An item is decoded exactly if its members are accepted, and its fields are what they say. -/
theorem itemMeaning_eq (k : Kind) (v : Written) :
    k.itemMeaning v = (k.shape.members? v).bind fun ms =>
      if k.Accepts ms then some (ms.item k) else none := by
  have hdistinct : k.shape.Distinct := by cases k <;> decide
  rw [itemMeaning, Shape.record?_eq_collect hdistinct, Option.map_bind]
  congr 1
  funext ms
  have hiff := Shape.isSome_collect_iff k.shape ms FieldType.isSome_meaning
  cases hr : k.shape.collect (fun t => nullable? t.meaning) [] ms with
  | none =>
    have hacc : ¬ k.Accepts ms := fun h => by simpa [hr] using hiff.2 h
    simp [hr, hacc]
  | some r =>
    have hacc : k.Accepts ms := hiff.1 (by rw [hr]; rfl)
    simp [hr, hacc, itemOfRecord_eq hr]

end Kind

end GatewayFeed
