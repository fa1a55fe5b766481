import GatewayFeed.Proofs.Item.Objects
import GatewayFeed.Proofs.Item.Taken
import GatewayFeed.Proofs.Store.History

/-! Looking items up. A lookup finds the first item of the payload that was published last for its kind whose
members have the wanted keys, in the order of the payload. -/

namespace GatewayFeed

open Json (Written Blanks Padded Spelling)

/-- A payload, and what it was decoded to. -/
structure DecodedPayload where
  kind : Kind
  payload : List UInt8
  items : List kind.Item
  decoded : Collection.decode kind payload = .ok ⟨kind, items⟩

namespace DecodedPayload

def collection (x : DecodedPayload) : Collection := ⟨x.kind, x.items⟩

/-- The last one of a kind. -/
def last? (k : Kind) (xs : List DecodedPayload) : Option DecodedPayload :=
  (xs.filter (·.kind = k)).getLast?

theorem last?_collections (k : Kind) (xs : List DecodedPayload) :
    ((xs.map collection).filter (·.kind = k)).getLast? = (last? k xs).map collection := by
  rw [last?, List.filter_map, List.getLast?_map]
  rfl

theorem kind_of_last? {k : Kind} {xs : List DecodedPayload} {x : DecodedPayload} (h : last? k xs = some x) :
    x.kind = k := by
  simpa using (List.mem_filter.1 (List.mem_of_getLast? h)).2

theorem last?_eq_none_iff {k : Kind} {xs : List DecodedPayload} :
    last? k xs = none ↔ ∀ x ∈ xs, x.kind ≠ k := by
  simp [last?]

end DecodedPayload

namespace Snapshot

/-- The lookups that a snapshot answers, with their keys. -/
inductive Lookup where
  | subscription (apiId appId : Int64)
  | application (id : Int64)
  | keyMapping (consumerKey : String)
  | api (context version : String)
  | applicationPolicy (name : String)
  | subscriptionPolicy (name : String)
  deriving DecidableEq, Repr

namespace Lookup

def kind : Lookup → Kind
  | subscription .. => .subscriptions
  | application _ => .applications
  | keyMapping _ => .keyMappings
  | api .. => .apis
  | applicationPolicy _ => .applicationPolicies
  | subscriptionPolicy _ => .subscriptionPolicies

def answer : (q : Lookup) → Snapshot → Option q.kind.Item
  | subscription apiId appId, s => s.findSubscription apiId appId
  | application id, s => s.findApplication id
  | keyMapping consumerKey, s => s.findKeyMapping consumerKey
  | api context version, s => s.findApi context version
  | applicationPolicy name, s => s.findApplicationPolicy name
  | subscriptionPolicy name, s => s.findSubscriptionPolicy name

/-- Whether members have the wanted keys. A key that is missing or null is zero or empty, unless an older
name has it. -/
def Matches : Lookup → Members → Prop
  | subscription apiId appId, ms =>
    ms.int64 ["apiId"] = apiId ∧ ms.int64 ["appId", "applicationId"] = appId
  | application id, ms => ms.int64 ["id", "applicationId"] = id
  | keyMapping consumerKey, ms => ms.text ["consumerKey"] = consumerKey
  | api context version, ms => ms.text ["context"] = context ∧ ms.text ["version"] = version
  | applicationPolicy name, ms => ms.text ["name"] = name
  | subscriptionPolicy name, ms => ms.text ["name"] = name

instance : (q : Lookup) → DecidablePred q.Matches
  | subscription .., _ | api .., _ => inferInstanceAs (Decidable (_ ∧ _))
  | application _, _ | keyMapping _, _ | applicationPolicy _, _ | subscriptionPolicy _, _ =>
    inferInstanceAs (Decidable (_ = _))

/-- Every lookup goes through the items of its kind, and looks at keys that their members give. -/
theorem exists_test (q : Lookup) : ∃ p : q.kind.Item → Bool,
    (∀ s : Snapshot, q.answer s = s.find q.kind p) ∧ ∀ ms : Members, p (ms.item q.kind) = decide (q.Matches ms) := by
  cases q with
  | subscription apiId appId => exact ⟨_, fun _ => rfl, fun ms => (Bool.decide_and ..).symm⟩
  | application id => exact ⟨_, fun _ => rfl, fun ms => rfl⟩
  | keyMapping consumerKey => exact ⟨_, fun _ => rfl, fun ms => rfl⟩
  | api context version => exact ⟨_, fun _ => rfl, fun ms => (Bool.decide_and ..).symm⟩
  | applicationPolicy name => exact ⟨_, fun _ => rfl, fun ms => rfl⟩
  | subscriptionPolicy name => exact ⟨_, fun _ => rfl, fun ms => rfl⟩

variable {q : Lookup} {s t : Snapshot}

theorem answer_of_none (h : s.get q.kind = none) : q.answer s = none := by
  obtain ⟨p, hanswer, -⟩ := q.exists_test
  rw [hanswer, find, Option.map_eq_none_iff.1 h, Option.bind_none]

/-- The answer depends on the items of one kind only. -/
theorem answer_congr (h : s.get q.kind = t.get q.kind) : q.answer s = q.answer t := by
  obtain ⟨p, hanswer, -⟩ := q.exists_test
  have hslot : s.slot q.kind = t.slot q.kind :=
    Option.map_injective (fun x y hxy => by cases hxy; rfl) h
  rw [hanswer, hanswer, find, find, hslot]

/-- The first item whose members match. -/
theorem answer_of_members {mss : List Members}
    (h : s.get q.kind = some ⟨q.kind, mss.map (·.item q.kind)⟩) :
    q.answer s = (mss.find? (q.Matches ·)).map (·.item q.kind) := by
  obtain ⟨p, hanswer, hp⟩ := q.exists_test
  obtain ⟨items, hslot, hitems⟩ := Option.map_eq_some_iff.1 h
  cases hitems
  rw [hanswer, find, hslot, Option.bind_some, List.find?_map]
  congr 2
  funext ms
  exact hp ms

end Lookup

end Snapshot

/-- What printed objects under `list` are decoded to. -/
def DecodedPayload.ofPrinted (k : Kind) (os : List (List (String × Json)))
    (h : ∀ ms ∈ os.map Members.ofJson, k.Accepts ms) : DecodedPayload where
  kind := k
  payload := Collection.objectsPayload (os.map fun ms => ⟨[], .printed ms, []⟩) []
  items := (os.map Members.ofJson).map (·.item k)
  decoded := Collection.decode_objects_of_accepted (WrittenObject.forall₂_view_printed os) h []

/-- Objects under `list` are carried by their members. -/
theorem Kind.carries_objects (k : Kind) {os : List (Padded WrittenObject)} {mss : List Members}
    (h : List.Forall₂ (fun p ms => p.value.view? = some ms) os mss) (closing : Blanks) :
    k.Carries (Collection.objectsPayload os closing) mss := by
  refine ⟨[], Collection.objectsDocument os closing, [], by simp [Collection.objectsPayload], ?_⟩
  have hnamed : ∀ v : Written, Collection.listShape.members?
      (.object [⟨[], .ofText "list", [], ⟨[], v, []⟩⟩] []) = some [("list", v)] := by
    intro v
    simp [Shape.members?, Json.Member.named?, Spelling.text?_ofText]
  rw [listed?, Collection.objectsDocument, hnamed, Option.bind_some, List.lookup_cons_self, Option.bind_some,
    Written.list?, List.mapM_map]
  induction h with
  | nil => rfl
  | @cons p ms _ _ hview _ ih =>
    have hmembers : k.shape.members? p.value.written = some ms := hview
    rw [List.mapM_cons, ih, Function.comp_apply, hmembers]
    rfl

namespace DecodedPayload

def bronze : List (String × Json) := [("policyId", .text "Bronze"), ("apiId", .integer 0), ("appId", .integer 7)]

/-- The keys are those of `bronze`: the first is null, and the second has its older name. -/
def gold : List (String × Json) :=
  [("policyId", .text "Gold"), ("apiId", .null), ("appId", .null), ("applicationId", .integer 7)]

def silver : List (String × Json) := [("policyId", .text "Silver"), ("appId", .integer 7)]

def oneBronze : DecodedPayload := .ofPrinted .subscriptions [bronze] (by decide +kernel)

def goldAndSilver : DecodedPayload := .ofPrinted .subscriptions [gold, silver] (by decide +kernel)

def noApis : DecodedPayload := .ofPrinted .apis [] nofun

end DecodedPayload

namespace Desk

variable {before after : List Act} {d₀ d : Desk} {xs : List DecodedPayload}

/-- A store to which only decoded payloads were published shows the last one of every kind. -/
theorem get_of_decoded (h : run {} before = some d)
    (hxs : before.flatMap Act.published = xs.map DecodedPayload.collection) (k : Kind) :
    d.memory.snapshot.get k = (DecodedPayload.last? k xs).map DecodedPayload.collection := by
  rw [get_run apart_new h, hxs, DecodedPayload.last?_collections]
  exact Option.or_none

/-- The answer is that of the payload published last for the kind. -/
theorem answer_of_last? (h : run {} before = some d)
    (hxs : before.flatMap Act.published = xs.map DecodedPayload.collection) {q : Snapshot.Lookup}
    {x : DecodedPayload} (hx : DecodedPayload.last? q.kind xs = some x) {mss : List Members}
    (hcarries : q.kind.Carries x.payload mss) :
    q.answer d.memory.snapshot = (mss.find? (q.Matches ·)).map (·.item q.kind) := by
  have hget := get_of_decoded h hxs q.kind
  have hkind := DecodedPayload.kind_of_last? hx
  rw [hx, Option.map_some] at hget
  obtain ⟨k, payload, items, hdecode⟩ := x
  obtain rfl : k = q.kind := hkind
  obtain ⟨-, rfl⟩ := (Collection.carries_of_decode hdecode).2 mss hcarries
  exact Snapshot.Lookup.answer_of_members hget

theorem answer_of_last?_eq_none (h : run {} before = some d)
    (hxs : before.flatMap Act.published = xs.map DecodedPayload.collection) {q : Snapshot.Lookup}
    (hx : DecodedPayload.last? q.kind xs = none) : q.answer d.memory.snapshot = none := by
  refine Snapshot.Lookup.answer_of_none ?_
  rw [get_of_decoded h hxs, hx, Option.map_none]

/-- Every lookup in the current snapshot finds the first item of the payload that was published last for its
kind whose members have the wanted keys, and nothing exactly if there is none or nothing was published for the
kind. What is published for other kinds does not change the answer, and whoever holds an older snapshot gets
the answers that it gave. -/
theorem lookup_in_last_published (h₀ : run {} before = some d₀) (h : d₀.run after = some d)
    (hxs : (before ++ after).flatMap Act.published = xs.map DecodedPayload.collection)
    (q : Snapshot.Lookup) :
    (∀ x, DecodedPayload.last? q.kind xs = some x → (∃ mss, q.kind.Carries x.payload mss) ∧
      ∀ mss, q.kind.Carries x.payload mss →
        q.answer d.memory.snapshot = (mss.find? (q.Matches ·)).map (·.item q.kind)) ∧
    (q.answer d.memory.snapshot = none ↔ (∀ x ∈ xs, x.kind ≠ q.kind) ∨
      ∃ x mss, DecodedPayload.last? q.kind xs = some x ∧ q.kind.Carries x.payload mss ∧
        ∀ ms ∈ mss, ¬ q.Matches ms) ∧
    ((∀ a ∈ after, ∀ c ∈ a.published, c.kind ≠ q.kind) →
      q.answer d.memory.snapshot = q.answer d₀.memory.snapshot) ∧
    ∀ r ∈ d₀.views, q.answer (d.memory.shows r) = q.answer (d₀.memory.shows r) := by
  have hrun : run {} (before ++ after) = some d := foldlM_append h₀ h
  have hcarried : ∀ x, DecodedPayload.last? q.kind xs = some x → ∃ mss, q.kind.Carries x.payload mss := by
    intro x hx
    obtain ⟨k, payload, items, hdecode⟩ := x
    obtain rfl : k = q.kind := DecodedPayload.kind_of_last? hx
    exact (Collection.carries_of_decode hdecode).1
  have hanswer : ∀ x, DecodedPayload.last? q.kind xs = some x → ∀ mss, q.kind.Carries x.payload mss →
      q.answer d.memory.snapshot = (mss.find? (q.Matches ·)).map (·.item q.kind) :=
    fun x hx mss hmss => answer_of_last? hrun hxs hx hmss
  refine ⟨fun x hx => ⟨hcarried x hx, hanswer x hx⟩, ⟨fun hnone => ?_, ?_⟩, fun hother => ?_, fun r hr => ?_⟩
  · cases hx : DecodedPayload.last? q.kind xs with
    | none => exact .inl (DecodedPayload.last?_eq_none_iff.1 hx)
    | some x =>
      obtain ⟨mss, hmss⟩ := hcarried x hx
      rw [hanswer x hx mss hmss, Option.map_eq_none_iff, List.find?_eq_none] at hnone
      exact .inr ⟨x, mss, rfl, hmss, fun ms hms => by simpa using hnone ms hms⟩
  · rintro (hnever | ⟨x, mss, hx, hmss, hno⟩)
    · exact answer_of_last?_eq_none hrun hxs (DecodedPayload.last?_eq_none_iff.2 hnever)
    · rw [hanswer x hx mss hmss, Option.map_eq_none_iff, List.find?_eq_none]
      exact fun ms hms => by simpa using hno ms hms
  · refine Snapshot.Lookup.answer_congr ?_
    have hempty : (after.flatMap Act.published).filter (·.kind = q.kind) = [] := by
      rw [List.filter_eq_nil_iff]
      intro c hc
      obtain ⟨a, ha, hca⟩ := List.mem_flatMap.1 hc
      simpa using hother a ha c hca
    rw [get_run (apart_new.run h₀) h, hempty]
    rfl
  · rw [shows_view_run (apart_new.run h₀) h hr]

theorem lookup_among_equal_keys :
    ∃ d₀ d, run {} [.publish [DecodedPayload.oneBronze.collection]] = some d₀ ∧
      d₀.run [.publish [DecodedPayload.goldAndSilver.collection, DecodedPayload.noApis.collection]] = some d ∧
      (∃ x, d.memory.snapshot.findSubscription 0 7 = some x ∧ x.policyId = "Gold") ∧
      d.memory.snapshot.findSubscription 7 0 = none ∧ d.memory.snapshot.findApplication 7 = none ∧
      (d.memory.shows 1).findSubscription 0 7 = (d₀.memory.shows 1).findSubscription 0 7 := by
  let before : List Act := [.publish [DecodedPayload.oneBronze.collection]]
  let after : List Act := [.publish [DecodedPayload.goldAndSilver.collection, DecodedPayload.noApis.collection]]
  have hsome : (run {} (before ++ after)).isSome = true := rfl
  obtain ⟨d, hd⟩ := Option.isSome_iff_exists.1 hsome
  obtain ⟨d₀, h₀, h⟩ : ∃ d₀, run {} before = some d₀ ∧ d₀.run after = some d := foldlM_append_eq_some hd
  have hviews : (run {} before).map (·.views) = some [1] := rfl
  rw [h₀, Option.map_some] at hviews
  have hobjects := WrittenObject.forall₂_view_printed [DecodedPayload.gold, DecodedPayload.silver]
  have hcarries := Kind.carries_objects .subscriptions hobjects []
  have hxs : (before ++ after).flatMap Act.published =
      [DecodedPayload.oneBronze, .goldAndSilver, .noApis].map DecodedPayload.collection := rfl
  obtain ⟨hlast, -, -, hkept⟩ := lookup_in_last_published h₀ h hxs (.subscription 0 7)
  obtain ⟨-, hnone, -, -⟩ := lookup_in_last_published h₀ h hxs (.subscription 7 0)
  obtain ⟨-, hnever, -, -⟩ := lookup_in_last_published h₀ h hxs (.application 7)
  refine ⟨d₀, d, h₀, h, ⟨(Members.ofJson DecodedPayload.gold).subscription, ?_, by decide +kernel⟩,
    hnone.2 (.inr ⟨_, _, rfl, hcarries, by decide +kernel⟩), hnever.2 (.inl (by decide)), hkept 1 ?_⟩
  · refine ((hlast _ rfl).2 _ hcarries).trans ?_
    rw [List.map_cons, List.find?_cons_of_pos (by decide +kernel)]
    rfl
  · rw [Option.some.inj hviews]
    exact List.mem_singleton_self 1

end Desk

end GatewayFeed
