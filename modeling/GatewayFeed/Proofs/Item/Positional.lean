import GatewayFeed.Proofs.Item.Objects

/-! Records as arrays. An array has the values of a record in the order of its fields; it is read as the
object that has them under the keys of these fields, wherever in a payload it stands. -/

namespace GatewayFeed

open Json (Written Blanks Padded Member Spelling)
open Json.Written (keyed? positional? record? nullable?)

variable {τ ν : Type}

namespace Shape

/-- Members that have the values of an array under the keys of the first fields, in any spelling. -/
structure Assigns (s : Shape τ) (ms : List (Member Written)) (ps : List (Padded Written)) : Prop where
  keys : ms.map (·.key.text?) = (s.fields.take ps.length).map fun fd => some fd.key
  values : ms.map (·.value.value) = ps.map (·.value)

/-- How many values the array form of a record may have. -/
def Fits (s : Shape τ) (n : Nat) : Prop :=
  n = s.fields.length ∨ (s.partialArray = true ∧ n < s.fields.length)

theorem fits_iff (s : Shape τ) (n : Nat) :
    s.Fits n ↔ n = s.fields.length ∨ (s.partialArray = true ∧ n ≤ s.fields.length) := by
  unfold Fits
  constructor
  · rintro (h | ⟨hpartial, h⟩)
    · exact .inl h
    · exact .inr ⟨hpartial, Nat.le_of_lt h⟩
  · rintro (h | ⟨hpartial, h⟩)
    · exact .inl h
    · exact (Nat.eq_or_lt_of_le h).imp_right fun h => ⟨hpartial, h⟩

theorem members?_array (s : Shape τ) (ps : List (Padded Written)) (closing : Blanks) (h : s.Fits ps.length) :
    s.members? (.array ps closing) = some ((s.fields.map (·.key)).zip (ps.map (·.value))) :=
  if_pos ((s.fits_iff ps.length).1 h)

theorem members?_array_of_not_fits (s : Shape τ) (ps : List (Padded Written)) (closing : Blanks)
    (h : ¬ s.Fits ps.length) : s.members? (.array ps closing) = none :=
  if_neg fun hlen => h ((s.fits_iff ps.length).2 hlen)

theorem mapM_named?_of_keys {keys : List String} {ms : List (Member Written)}
    (h : ms.map (·.key.text?) = (keys.take ms.length).map some) :
    ms.mapM Member.named? = some (keys.zip (ms.map (·.value.value))) := by
  induction ms generalizing keys with
  | nil => simp
  | cons m ms ih =>
    cases keys with
    | nil => simp at h
    | cons key keys =>
      simp only [List.map_cons, List.length_cons, List.take_succ_cons, List.cons.injEq] at h
      simp [List.mapM_cons, Json.Member.named?, h.1, ih h.2]

theorem members?_of_assigns {s : Shape τ} {ms : List (Member Written)} {ps : List (Padded Written)}
    (h : s.Assigns ms ps) (closing : Blanks) :
    s.members? (.object ms closing) = some ((s.fields.map (·.key)).zip (ps.map (·.value))) := by
  have hlen : ms.length = ps.length := by simpa using congrArg List.length h.values
  have hkeys : ms.map (·.key.text?) = ((s.fields.map (·.key)).take ms.length).map some := by
    rw [h.keys, hlen, ← List.map_take, List.map_map]
    rfl
  rw [members?, mapM_named?_of_keys hkeys, h.values]

variable {s : Shape τ} (f : τ → Written → Option ν)

/-- The two forms of a record mean the same, field by field. -/
theorem record?_of_assigns (hs : s.Distinct) {ms : List (Member Written)} {ps : List (Padded Written)}
    (h : s.Assigns ms ps) (hfits : s.Fits ps.length) (closing closing' : Blanks) :
    record? s f (.array ps closing) = record? s f (.object ms closing') := by
  rw [record?_eq_collect hs, record?_eq_collect hs, s.members?_array ps closing hfits,
    members?_of_assigns h closing']

theorem record?_of_not_fits (hs : s.Distinct) {ps : List (Padded Written)} (h : ¬ s.Fits ps.length)
    (closing : Blanks) : record? s f (.array ps closing) = none := by
  rw [record?_eq_collect hs, s.members?_array_of_not_fits ps closing h]
  rfl

/-- The places in a record where a field's value may stand: after its key in an object, with any members
around it, and at its position in an array. -/
inductive Place (s : Shape τ) (name : String) : (Written → Written) → Prop where
  | keyed (pre post : List (Member Written)) (before : Blanks) (key : Spelling)
      (afterKey beforeValue after closing : Blanks) (h : key.text? = some name) :
      Place s name fun v => .object (pre ++ ⟨before, key, afterKey, ⟨beforeValue, v, after⟩⟩ :: post) closing
  | positional (pre post : List (Padded Written)) (before after closing : Blanks)
      (h : (s.fields.map (·.key))[pre.length]? = some name) :
      Place s name fun v => .array (pre ++ ⟨before, v, after⟩ :: post) closing

variable {f}

theorem keyed?_congr {key : Spelling} {v v' : Written}
    (h : ∀ name fd, key.text? = some name → s.field? name = some fd → f fd.type v = f fd.type v')
    (pre post : List (Member Written)) (before afterKey beforeValue after : Blanks) (seen : Record ν) :
    keyed? s f seen (pre ++ ⟨before, key, afterKey, ⟨beforeValue, v, after⟩⟩ :: post) =
      keyed? s f seen (pre ++ ⟨before, key, afterKey, ⟨beforeValue, v', after⟩⟩ :: post) := by
  induction pre generalizing seen with
  | nil =>
    simp only [List.nil_append, keyed?]
    cases hk : key.text? with
    | none => rfl
    | some name =>
      cases hfd : s.field? name with
      | none => simp [hfd]
      | some fd => simp [hfd, h name fd hk hfd]
  | cons m pre ih => simp only [List.cons_append, keyed?, ih]

theorem positional?_congr {fds : List (Field τ)} {v v' : Written} (pre post : List (Padded Written))
    (h : ∀ fd, fds[pre.length]? = some fd → f fd.type v = f fd.type v') (before after : Blanks)
    (seen : Record ν) :
    positional? s f fds seen (pre ++ ⟨before, v, after⟩ :: post) =
      positional? s f fds seen (pre ++ ⟨before, v', after⟩ :: post) := by
  induction pre generalizing fds seen with
  | nil =>
    cases fds with
    | nil => rfl
    | cons fd fds => simp only [List.nil_append, positional?, h fd rfl]
  | cons p pre ih =>
    cases fds with
    | nil => rfl
    | cons fd fds =>
      have hlater : ∀ fd, fds[pre.length]? = some fd → f fd.type v = f fd.type v' :=
        fun fd hfd => h fd (by simpa using hfd)
      have hrest := fun x => ih hlater (seen ++ [(fd.key, x)])
      simp only [List.cons_append, positional?, hrest]

/-- A record means the same with another value in a place if the field's type takes both alike. -/
theorem Place.congr {name : String} {c : Written → Written} (hc : s.Place name c) {v v' : Written}
    (h : ∀ fd ∈ s.fields, fd.key = name → f fd.type v = f fd.type v') :
    record? s f (c v) = record? s f (c v') := by
  cases hc with
  | keyed pre post before key afterKey beforeValue after closing hkey =>
    refine keyed?_congr (fun name' fd hname hfd => h fd (List.mem_of_find?_eq_some hfd) ?_) pre post _ _ _ _ _
    obtain rfl := Option.some.inj (hkey.symm.trans hname)
    simpa using List.find?_some hfd
  | positional pre post before after closing hkey =>
    refine positional?_congr pre post (fun fd hfd => h fd (List.mem_of_getElem? hfd) ?_) _ _ _
    rw [List.getElem?_map, hfd] at hkey
    exact Option.some.inj hkey

theorem mem_of_mapM {α β : Type} {f : α → Option β} {xs : List α} {ys : List β} (h : xs.mapM f = some ys)
    {x : α} (hx : x ∈ xs) : ∃ y ∈ ys, f x = some y := by
  induction xs generalizing ys with
  | nil => cases hx
  | cons a xs ih =>
    rw [List.mapM_cons] at h
    obtain ⟨y, hy, h⟩ := Option.bind_eq_some_iff.1 h
    obtain ⟨ys, hys, h⟩ := Option.bind_eq_some_iff.1 h
    obtain rfl := Option.some.inj h
    rcases List.mem_cons.1 hx with rfl | hx
    · exact ⟨y, List.mem_cons_self, hy⟩
    · obtain ⟨z, hz, hfz⟩ := ih hys hx
      exact ⟨z, List.mem_cons_of_mem _ hz, hfz⟩

theorem Place.mem_of_members? {name : String} {c : Written → Written} (hc : s.Place name c) {v : Written}
    {ms : Members} (h : s.members? (c v) = some ms) : (name, v) ∈ ms := by
  cases hc with
  | keyed pre post before key afterKey beforeValue after closing hkey =>
    obtain ⟨m, hm, hnamed⟩ := mem_of_mapM h (List.mem_append_right pre List.mem_cons_self)
    rw [Json.Member.named?, hkey] at hnamed
    obtain rfl := Option.some.inj hnamed
    exact hm
  | positional pre post before after closing hkey =>
    rw [members?] at h
    split at h
    · obtain rfl := Option.some.inj h
      refine List.mem_iff_getElem?.2 ⟨pre.length, ?_⟩
      simp [List.getElem?_zip_eq_some, hkey]
    · cases h

/-- A record is refused with a value in a place that the field's type does not take. -/
theorem Place.eq_none {name : String} {c : Written → Written} (hc : s.Place name c) (hs : s.Distinct)
    {v : Written} {fd : Field τ} (hfd : s.field? name = some fd) (h : f fd.type v = none) :
    record? s f (c v) = none := by
  rw [record?_eq_collect hs]
  cases hms : s.members? (c v) with
  | none => rfl
  | some ms =>
    rw [Option.bind_some, Option.eq_none_iff_forall_ne_some]
    intro r hr
    have htyped := ((s.isSome_collect f [] ms).1 (by rw [hr]; rfl)).2.2 _ (hc.mem_of_members? hms) fd hfd
    simp [h] at htyped

end Shape

namespace Collection

/-- The places in a payload where an item may stand. -/
inductive ItemPlace : (Written → Written) → Prop where
  | intro {list : Written → Written} (h : listShape.Place "list" list) (pre post : List (Padded Written))
      (before after closing : Blanks) :
      ItemPlace fun v => list (.array (pre ++ ⟨before, v, after⟩ :: post) closing)

/-- The places in a payload where the event of an item may stand. -/
inductive EventPlace (k : Kind) : (Written → Written) → Prop where
  | intro {item event : Written → Written} (hitem : ItemPlace item) (h : k.shape.Place "event" event) :
      EventPlace k fun v => item (event v)

end Collection

namespace Kind

variable {k : Kind} {c : Written → Written} {v v' : Written}

theorem distinct_shape (k : Kind) : k.shape.Distinct := by cases k <;> decide

theorem field?_event (k : Kind) : k.shape.field? "event" = some ⟨"event", .event⟩ := by cases k <;> decide

theorem itemsMeaning_congr (hc : Collection.ItemPlace c) (h : k.itemMeaning v = k.itemMeaning v') :
    k.itemsMeaning (c v) = k.itemsMeaning (c v') := by
  obtain ⟨hlist, pre, post, before, after, closing⟩ := hc
  refine congrArg (fun r => Option.bind r fun r => r.lookup "list") (hlist.congr fun fd _ _ => ?_)
  simp [Written.list?, h]

theorem itemsMeaning_eq_none (hc : Collection.ItemPlace c) (h : k.itemMeaning v = none) :
    k.itemsMeaning (c v) = none := by
  obtain ⟨hlist, pre, post, before, after, closing⟩ := hc
  have hnone : Written.list? k.itemMeaning (.array (pre ++ ⟨before, v, after⟩ :: post) closing) = none := by
    simp [Written.list?, h]
  have hrecord := hlist.eq_none (f := fun _ => Written.list? k.itemMeaning) (by decide)
    (show Collection.listShape.field? "list" = some ⟨"list", ()⟩ by decide) hnone
  rw [itemsMeaning, hrecord]
  rfl

theorem meaning_event (k : Kind) {fd : Field FieldType} (hfd : fd ∈ k.shape.fields) (hkey : fd.key = "event")
    (v : Written) :
    nullable? fd.type.meaning v = (nullable? FieldType.eventMeaning v).map (Option.map .event) := by
  have hfield := Shape.field?_of_mem k.distinct_shape hfd
  rw [hkey, k.field?_event] at hfield
  obtain rfl := Option.some.inj hfield
  cases v with
  | null => rfl
  | _ => simp [nullable?, FieldType.meaning, Function.comp_def]

theorem itemMeaning_congr (hc : k.shape.Place "event" c)
    (h : nullable? FieldType.eventMeaning v = nullable? FieldType.eventMeaning v') :
    k.itemMeaning (c v) = k.itemMeaning (c v') := by
  refine congrArg (Option.map fun r => k.itemOfRecord r) (hc.congr fun fd hfd hkey => ?_)
  rw [k.meaning_event hfd hkey, k.meaning_event hfd hkey, h]

theorem itemMeaning_eq_none (hc : k.shape.Place "event" c)
    (h : nullable? FieldType.eventMeaning v = none) : k.itemMeaning (c v) = none := by
  have hnone := k.meaning_event (List.mem_of_find?_eq_some k.field?_event) rfl v
  rw [h] at hnone
  rw [itemMeaning, hc.eq_none k.distinct_shape k.field?_event hnone]
  rfl

/-- Only these kinds have items that an array may hold without their last fields. -/
theorem partialArray_iff (k : Kind) :
    k.shape.partialArray = true ↔ k ∈ [keyMappings, apis, applicationPolicies] := by
  cases k <;> decide

end Kind

section

variable {k : Kind} {ms : List (Member Written)} {ps : List (Padded Written)} {v v' : Written}

theorem Kind.itemMeaning_array (h : k.shape.Assigns ms ps) (hfits : k.shape.Fits ps.length)
    (closing closing' : Blanks) :
    k.itemMeaning (.array ps closing) = k.itemMeaning (.object ms closing') := by
  rw [itemMeaning, itemMeaning, Shape.record?_of_assigns _ k.distinct_shape h hfits closing closing']

theorem Kind.itemMeaning_array_of_not_fits (h : ¬ k.shape.Fits ps.length) (closing : Blanks) :
    k.itemMeaning (.array ps closing) = none := by
  rw [itemMeaning, Shape.record?_of_not_fits _ k.distinct_shape h closing]
  rfl

theorem Event.fits_iff (n : Nat) : Event.shape.Fits n ↔ n = Event.shape.fields.length := by
  simp [Shape.Fits, Event.shape]

theorem FieldType.eventMeaning_array (h : Event.shape.Assigns ms ps)
    (hlen : ps.length = Event.shape.fields.length) (closing closing' : Blanks) :
    nullable? eventMeaning (.array ps closing) = nullable? eventMeaning (.object ms closing') := by
  have hrecord := Shape.record?_of_assigns (fun t => nullable? t.plainMeaning) (by decide) h
    ((Event.fits_iff _).2 hlen) closing closing'
  exact congrArg (fun r => (r.map Event.ofRecord).map some) hrecord

theorem FieldType.eventMeaning_array_of_length_ne (hlen : ps.length ≠ Event.shape.fields.length)
    (closing : Blanks) : nullable? eventMeaning (.array ps closing) = none := by
  have hrecord := Shape.record?_of_not_fits (fun t => nullable? t.plainMeaning) (by decide)
    (fun h => hlen ((Event.fits_iff _).1 h)) closing
  exact congrArg (fun r => (r.map Event.ofRecord).map some) hrecord

end

namespace Collection

/-- A payload with blanks around its value. -/
def payload (before : Blanks) (v : Written) (after : Blanks) : List UInt8 :=
  before.bytes ++ (v.bytes ++ after.bytes)

theorem toOption_decode_congr {k : Kind} {v v' : Written} (h : k.itemsMeaning v = k.itemsMeaning v')
    (before after : Blanks) :
    (decode k (payload before v after)).toOption = (decode k (payload before v' after)).toOption := by
  rw [payload, payload, toOption_decode, toOption_decode, h]

theorem decode_eq_error {k : Kind} {v : Written} (h : k.itemsMeaning v = none) (before after : Blanks) :
    ∃ f, decode k (payload before v after) = .error f := by
  refine error_of_toOption ?_
  rw [payload, toOption_decode, h]
  rfl

/-- An item, an event and the payload itself decode from the values of their fields in an array as from the
object with these values, wherever they stand. Fields at the end may be left out of an array for key
mappings, APIs and application policies only, and no array may be longer than there are fields. -/
theorem decode_positional (k : Kind) (before after : Blanks) :
    (∀ place, ItemPlace place → ∀ ps closing ms closing', k.shape.Assigns ms ps →
      ps.length = k.shape.fields.length ∨
        (k ∈ [.keyMappings, .apis, .applicationPolicies] ∧ ps.length < k.shape.fields.length) →
      (decode k (payload before (place (.array ps closing)) after)).toOption =
        (decode k (payload before (place (.object ms closing')) after)).toOption) ∧
    (∀ place, ItemPlace place → ∀ ps closing,
      (k ∈ [.subscriptions, .applications, .subscriptionPolicies] ∧ ps.length < k.shape.fields.length) ∨
        k.shape.fields.length < ps.length →
      ∃ f, decode k (payload before (place (.array ps closing)) after) = .error f) ∧
    (∀ place, EventPlace k place → ∀ ps closing ms closing', Event.shape.Assigns ms ps →
      ps.length = Event.shape.fields.length →
      (decode k (payload before (place (.array ps closing)) after)).toOption =
        (decode k (payload before (place (.object ms closing')) after)).toOption) ∧
    (∀ place, EventPlace k place → ∀ ps closing, ps.length ≠ Event.shape.fields.length →
      ∃ f, decode k (payload before (place (.array ps closing)) after) = .error f) ∧
    ∀ p closing ms closing', listShape.Assigns ms [p] →
      (decode k (payload before (.array [p] closing) after)).toOption =
        (decode k (payload before (.object ms closing') after)).toOption := by
  have hpartial := k.partialArray_iff
  refine ⟨?items, ?refusedItems, ?events, ?refusedEvents, ?payloads⟩
  case items =>
    intro place hplace ps closing ms closing' hassigns hlen
    have hfits : k.shape.Fits ps.length := hlen.imp_right fun h => ⟨hpartial.2 h.1, h.2⟩
    have hitem := Kind.itemMeaning_array hassigns hfits closing closing'
    exact toOption_decode_congr (Kind.itemsMeaning_congr hplace hitem) before after
  case refusedItems =>
    intro place hplace ps closing hlen
    have hfits : ¬ k.shape.Fits ps.length := by
      rintro (hfull | ⟨hpart, hless⟩)
      · omega
      · rcases hlen with ⟨hwhole, -⟩ | hmore
        · rw [hpartial] at hpart
          cases k <;> simp at hpart hwhole
        · omega
    have hitem := Kind.itemMeaning_array_of_not_fits hfits closing
    exact decode_eq_error (Kind.itemsMeaning_eq_none hplace hitem) before after
  case events =>
    rintro _ ⟨hitem, hevent⟩ ps closing ms closing' hassigns hlen
    have hmeaning := FieldType.eventMeaning_array hassigns hlen closing closing'
    exact toOption_decode_congr (Kind.itemsMeaning_congr hitem (Kind.itemMeaning_congr hevent hmeaning))
      before after
  case refusedEvents =>
    rintro _ ⟨hitem, hevent⟩ ps closing hlen
    have hmeaning := FieldType.eventMeaning_array_of_length_ne hlen closing
    exact decode_eq_error (Kind.itemsMeaning_eq_none hitem (Kind.itemMeaning_eq_none hevent hmeaning))
      before after
  case payloads =>
    intro p closing ms closing' hassigns
    refine toOption_decode_congr ?_ before after
    rw [Kind.itemsMeaning, Kind.itemsMeaning,
      Shape.record?_of_assigns _ (by decide) hassigns (.inl rfl) closing closing']

/-- A payload with one item. -/
def oneItem (v : Written) : Written :=
  .object ([] ++ ⟨[], .ofText "list", [], ⟨[], .array ([] ++ ⟨[], v, []⟩ :: []) [], []⟩⟩ :: []) []

theorem itemPlace_oneItem : ItemPlace oneItem :=
  .intro (.keyed [] [] [] _ [] [] [] [] (Spelling.text?_ofText "list")) [] [] [] [] []

/-- A payload whose only item has nothing but an event. -/
def oneEvent (v : Written) : Written :=
  oneItem (.object ([] ++ ⟨[], .ofText "event", [], ⟨[], v, []⟩⟩ :: []) [])

theorem eventPlace_oneEvent (k : Kind) : EventPlace k oneEvent :=
  @EventPlace.intro k oneItem _ itemPlace_oneItem
    (.keyed [] [] [] _ [] [] [] [] (Spelling.text?_ofText "event"))

def policyValues : List Json := [.integer 7, .integer 1, .text "gold"]

def policyMembers : List (String × Json) :=
  [("id", .integer 7), ("tenantId", .integer 1), ("name", .text "gold")]

def policy : ApplicationPolicy := ⟨7, 1, "gold", "", none⟩

def eventValues : List Json := [.text "e1", .null, .integer 9, .text "create", .integer 1, .text "carbon.super"]

def eventMembers : List (String × Json) :=
  [("eventId", .text "e1"), ("timestamp", .null), ("timeStamp", .integer 9), ("type", .text "create"),
    ("tenantId", .integer 1), ("tenantDomain", .text "carbon.super")]

theorem decode_short_policy :
    (decode .applicationPolicies (payload [] (oneItem (Json.array policyValues).written) [])).toOption =
      (decode .applicationPolicies (payload [] (oneItem (Json.object policyMembers).written) [])).toOption ∧
    (decode .applicationPolicies (payload [] (oneItem (Json.object policyMembers).written) [])).toOption =
      some ⟨.applicationPolicies, [policy]⟩ ∧
    (∃ f, decode .subscriptionPolicies (payload [] (oneItem (Json.array policyValues).written) []) = .error f) ∧
    (decode .apis (payload [] (oneEvent (Json.array eventValues).written) [])).toOption =
      (decode .apis (payload [] (oneEvent (Json.object eventMembers).written) [])).toOption ∧
    (∃ f, decode .apis (payload [] (oneEvent (Json.array policyValues).written) []) = .error f) ∧
    (decode .apis (payload [] (Json.array [.array []]).written [])).toOption =
      (decode .apis (payload [] (Json.object [("list", .array [])]).written [])).toOption := by
  obtain ⟨hitems, -, -, -, -⟩ := decode_positional .applicationPolicies [] []
  obtain ⟨-, hrefused, -, -, -⟩ := decode_positional .subscriptionPolicies [] []
  obtain ⟨-, -, hevents, hrefusedEvents, hpayloads⟩ := decode_positional .apis [] []
  refine ⟨hitems _ itemPlace_oneItem _ [] _ [] ⟨by decide +kernel, rfl⟩ (by decide +kernel), by decide +kernel,
    hrefused _ itemPlace_oneItem _ [] (by decide +kernel),
    hevents _ (eventPlace_oneEvent .apis) _ [] _ [] ⟨by decide +kernel, rfl⟩ rfl,
    hrefusedEvents _ (eventPlace_oneEvent .apis) _ [] (by decide +kernel),
    hpayloads _ [] _ [] ⟨by decide +kernel, rfl⟩⟩

end Collection

end GatewayFeed
