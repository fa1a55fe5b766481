import GatewayFeed.Proofs.Item.FieldReading

/-! Neither the order of members nor those with unknown names say anything about an item. -/

namespace GatewayFeed

open Json (Written)

variable {ms ms' : Members}

/-- The members with known names. -/
def Shape.known {τ : Type} (s : Shape τ) (ms : Members) : Members := ms.filter fun m => s.knows m.1

theorem Shape.knownNames_eq {τ : Type} (s : Shape τ) (ms : Members) :
    s.knownNames ms = (s.known ms).map (·.1) := by
  rw [knownNames, known, List.filter_map]
  rfl

theorem Shape.Accepts.of_perm {s : Shape FieldType} {typed : FieldType → Written → Bool}
    (hperm : (s.known ms).Perm (s.known ms')) (h : s.Accepts typed ms) : s.Accepts typed ms' where
  unique := by
    have hn := h.unique
    rw [knownNames_eq] at hn ⊢
    exact (hperm.map _).nodup_iff.1 hn
  typed m hm fd hfd := by
    have hknown : m ∈ s.known ms' :=
      List.mem_filter.2 ⟨hm, by rw [knows, Option.mem_def.1 hfd]; rfl⟩
    exact h.typed m (List.mem_filter.1 (hperm.mem_iff.2 hknown)).1 fd hfd

theorem Shape.lookup_known {τ : Type} {s : Shape τ} {name : String} (h : s.knows name = true) (ms : Members) :
    (s.known ms).lookup name = ms.lookup name := lookup_filter h

/-- Where no known name is repeated, a permutation of the known members keeps what stands under each. -/
theorem Shape.Accepts.lookup_eq {s : Shape FieldType} {typed : FieldType → Written → Bool}
    (h : s.Accepts typed ms) (hperm : (s.known ms).Perm (s.known ms')) {name : String}
    (hname : s.knows name = true) : ms.lookup name = ms'.lookup name := by
  have hn := h.unique
  rw [knownNames_eq] at hn
  rw [← lookup_known hname ms, ← lookup_known hname ms']
  exact lookup_perm hperm hn name

namespace Members

theorem value?_congr {names : List String} (h : ∀ name ∈ names, ms.lookup name = ms'.lookup name) :
    ms.value? names = ms'.value? names := by
  unfold value?
  induction names with
  | nil => rfl
  | cons name names ih =>
    rw [List.findSome?_cons, List.findSome?_cons, h name List.mem_cons_self,
      ih fun n hn => h n (List.mem_cons_of_mem _ hn)]

/-- An item depends on what stands under the known names only. -/
theorem item_congr {k : Kind} (h : ∀ name, k.shape.knows name = true → ms.lookup name = ms'.lookup name) :
    ms.item k = ms'.item k := by
  have hvalue : ∀ names, (∀ name ∈ names, k.shape.knows name = true) → ms.value? names = ms'.value? names :=
    fun names hnames => value?_congr fun name hname => h name (hnames name hname)
  cases k with
  | subscriptions =>
    simp (disch := decide) only [item, subscription, int64, text, read, event?, hvalue]
    rfl
  | applications =>
    simp (disch := decide) only [item, application, int64, text, texts, attributes, read, event?, hvalue]
    rfl
  | keyMappings =>
    simp (disch := decide) only [item, keyMapping, int64, text, read, event?, hvalue]
    rfl
  | apis =>
    simp (disch := decide) only [item, api, int64, text, flag, read, event?, hvalue]
    rfl
  | applicationPolicies =>
    simp (disch := decide) only [item, applicationPolicy, int64, text, read, event?, hvalue]
    rfl
  | subscriptionPolicies =>
    simp (disch := decide) only [item, subscriptionPolicy, int64, text, flag, read, event?, hvalue]
    rfl

theorem event_congr (h : ∀ name, Event.shape.knows name = true → ms.lookup name = ms'.lookup name) :
    Event.ofMembers ms = Event.ofMembers ms' := by
  have hvalue : ∀ names, (∀ name ∈ names, Event.shape.knows name = true) →
      ms.value? names = ms'.value? names :=
    fun names hnames => value?_congr fun name hname => h name (hnames name hname)
  simp (disch := decide) only [Event.ofMembers, int64, int32, text, read, hvalue]

end Members

/-- What can be decoded of an item, and what it decodes to, is the same in any order. -/
theorem Kind.decoded_of_perm {k : Kind} (hperm : (k.shape.known ms).Perm (k.shape.known ms')) :
    (if k.Accepts ms then some (ms.item k) else none) =
      if k.Accepts ms' then some (ms'.item k) else none := by
  by_cases h : k.Accepts ms
  · have h' : k.Accepts ms' := Shape.Accepts.of_perm hperm h
    rw [if_pos h, if_pos h', Members.item_congr fun name => Shape.Accepts.lookup_eq h hperm]
  · have h' : ¬ k.Accepts ms' := fun h' => h (Shape.Accepts.of_perm hperm.symm h')
    rw [if_neg h, if_neg h']

theorem Event.decoded_of_perm (hperm : (Event.shape.known ms).Perm (Event.shape.known ms')) :
    (if Event.shape.Accepts FieldType.isPlain ms then some (Event.ofMembers ms) else none) =
      if Event.shape.Accepts FieldType.isPlain ms' then some (Event.ofMembers ms') else none := by
  by_cases h : Event.shape.Accepts FieldType.isPlain ms
  · have h' := Shape.Accepts.of_perm hperm h
    rw [if_pos h, if_pos h', Members.event_congr fun name => Shape.Accepts.lookup_eq h hperm]
  · have h' : ¬ Event.shape.Accepts FieldType.isPlain ms' := fun h' => h (Shape.Accepts.of_perm hperm.symm h')
    rw [if_neg h, if_neg h']

end GatewayFeed
