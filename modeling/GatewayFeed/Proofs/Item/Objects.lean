import GatewayFeed.Proofs.Item.Order
import GatewayFeed.Proofs.Json.Printed

/-! The items of a payload, given as objects: which of them decode, and to what. -/

namespace GatewayFeed

open Json (Written Blanks Padded Member Spelling)

/-- An object as it is written, with whatever members. -/
structure WrittenObject where
  members : List (Member Written)
  closing : Blanks

/-- Members by name, as they are printed. -/
def Members.ofJson (ms : List (String × Json)) : Members := ms.map fun m => (m.1, m.2.written)

namespace WrittenObject

def written (o : WrittenObject) : Written := .object o.members o.closing

/-- The members by name. A key that denotes no text spoils the object. -/
def view? (o : WrittenObject) : Option Members := o.members.mapM Member.named?

theorem view?_eq_none_iff {o : WrittenObject} : o.view? = none ↔ ∃ m ∈ o.members, m.key.text? = none := by
  rw [view?, mapM_eq_none_iff]
  simp only [Member.named?, Option.map_eq_none_iff]

/-- An object as it is printed. -/
def printed (ms : List (String × Json)) : WrittenObject := ⟨Json.writtenMembers ms, []⟩

theorem view?_printed (ms : List (String × Json)) : (printed ms).view? = some (.ofJson ms) := by
  change (Json.writtenMembers ms).mapM Member.named? = _
  induction ms with
  | nil => rfl
  | cons m ms ih =>
    rw [Json.writtenMembers, List.mapM_cons, ih, Member.named?, Spelling.text?_ofText]
    rfl

theorem forall₂_view_printed (os : List (List (String × Json))) :
    List.Forall₂ (fun (p : Padded WrittenObject) ms => p.value.view? = some ms)
      (os.map fun ms => ⟨[], .printed ms, []⟩) (os.map Members.ofJson) := by
  rw [List.forall₂_map_left_iff, List.forall₂_map_right_iff, List.forall₂_same]
  exact fun ms _ => view?_printed ms

end WrittenObject

namespace Collection

/-- The document that has objects under `list`. -/
def objectsDocument (os : List (Padded WrittenObject)) (closing : Blanks) : Written :=
  .object [⟨[], .ofText "list", [],
    ⟨[], .array (os.map fun p => ⟨p.before, p.value.written, p.after⟩) closing, []⟩⟩] []

def objectsPayload (os : List (Padded WrittenObject)) (closing : Blanks) : List UInt8 :=
  (objectsDocument os closing).bytes

theorem itemsMeaning_list (k : Kind) (v : Written) :
    k.itemsMeaning (.object [⟨[], .ofText "list", [], ⟨[], v, []⟩⟩] []) = v.list? k.itemMeaning := by
  have hfield : listShape.field? "list" = some ⟨"list", ()⟩ := by decide
  simp only [Kind.itemsMeaning, Written.record?, Written.keyed?, Spelling.text?_ofText, Option.bind_some,
    hfield]
  cases v.list? k.itemMeaning <;> rfl

theorem toOption_decode_objects (k : Kind) (os : List (Padded WrittenObject)) (closing : Blanks) :
    (decode k (objectsPayload os closing)).toOption =
      (os.mapM fun p => k.itemMeaning p.value.written).map fun items => ⟨k, items⟩ := by
  have hdecode := toOption_decode k [] (objectsDocument os closing) []
  rw [Json.Blanks.bytes_nil, List.nil_append, List.append_nil] at hdecode
  rw [objectsPayload, hdecode, objectsDocument, itemsMeaning_list, Written.list?, List.mapM_map]
  rfl

theorem error_of_toOption {ε α : Type} {r : Except ε α} (h : r.toOption = none) : ∃ e, r = .error e := by
  cases r with
  | error e => exact ⟨e, rfl⟩
  | ok y => cases h

/-- An object is an item if its keys denote texts and its members are accepted. -/
theorem itemMeaning_object {k : Kind} {o : WrittenObject} {ms : Members} (h : o.view? = some ms) :
    k.itemMeaning o.written = if k.Accepts ms then some (ms.item k) else none := by
  rw [Kind.itemMeaning_eq, show k.shape.members? o.written = some ms from h, Option.bind_some]

theorem itemMeaning_object_of_none {k : Kind} {o : WrittenObject} (h : o.view? = none) :
    k.itemMeaning o.written = none := by
  rw [Kind.itemMeaning_eq, show k.shape.members? o.written = none from h, Option.bind_none]

theorem decode_objects_of_refused {k : Kind} {os : List (Padded WrittenObject)} {p : Padded WrittenObject}
    (hp : p ∈ os) (h : k.itemMeaning p.value.written = none) (closing : Blanks) :
    ∃ f, decode k (objectsPayload os closing) = .error f := by
  refine error_of_toOption ?_
  rw [toOption_decode_objects, Option.map_eq_none_iff, mapM_eq_none_iff]
  exact ⟨p, hp, h⟩

theorem decode_objects_of_accepted {k : Kind} {os : List (Padded WrittenObject)} {mss : List Members}
    (hviews : List.Forall₂ (fun p ms => p.value.view? = some ms) os mss) (h : ∀ ms ∈ mss, k.Accepts ms)
    (closing : Blanks) : decode k (objectsPayload os closing) = .ok ⟨k, mss.map (·.item k)⟩ := by
  have hitems : os.mapM (fun p => k.itemMeaning p.value.written) = some (mss.map (·.item k)) := by
    induction hviews with
    | nil => rfl
    | cons hview _ ih =>
      obtain ⟨hms, hmss⟩ := List.forall_mem_cons.1 h
      rw [List.mapM_cons, itemMeaning_object hview, if_pos hms, ih hmss]
      rfl
  refine eq_ok_of_toOption ?_
  rw [toOption_decode_objects, hitems, Option.map_some]

/-- Objects of which each has members by name. -/
theorem exists_views {os : List (Padded WrittenObject)} {q : Members → Prop}
    (h : ∀ p ∈ os, ∃ ms, p.value.view? = some ms ∧ q ms) :
    ∃ mss, List.Forall₂ (fun p ms => p.value.view? = some ms) os mss ∧ ∀ ms ∈ mss, q ms := by
  induction os with
  | nil => exact ⟨[], .nil, nofun⟩
  | cons p os ih =>
    obtain ⟨⟨ms, hms, hq⟩, hos⟩ := List.forall_mem_cons.1 h
    obtain ⟨mss, hmss, hqs⟩ := ih hos
    exact ⟨ms :: mss, .cons hms hmss, List.forall_mem_cons.2 ⟨hq, hqs⟩⟩

/-- Items given as objects decode exactly if every key denotes a text, known or not, no known name is repeated
and what stands under each is null or of its type, even where it does not count; then every field is what its
names say. Neither the order of the members nor those with unknown names make a difference. -/
theorem decode_objects (k : Kind) (os : List (Padded WrittenObject)) (closing : Blanks) :
    ((∃ p ∈ os, (∃ m ∈ p.value.members, m.key.text? = none) ∨ ∃ ms, p.value.view? = some ms ∧ ¬ k.Accepts ms) →
      ∃ f, decode k (objectsPayload os closing) = .error f) ∧
    ((∀ p ∈ os, ∃ ms, p.value.view? = some ms ∧ k.Accepts ms) →
      ∃ mss, List.Forall₂ (fun p ms => p.value.view? = some ms) os mss ∧
        decode k (objectsPayload os closing) = .ok ⟨k, mss.map (·.item k)⟩) ∧
    ∀ os' closing', List.Forall₂ (fun p p' => Option.Rel (fun ms ms' => (k.shape.known ms).Perm (k.shape.known ms'))
        p.value.view? p'.value.view?) os os' →
      (decode k (objectsPayload os closing)).toOption = (decode k (objectsPayload os' closing')).toOption := by
  refine ⟨?_, fun haccepted => ?_, fun os' closing' hperm => ?_⟩
  · rintro ⟨p, hp, hkey | ⟨ms, hms, hrefused⟩⟩
    · exact decode_objects_of_refused hp (itemMeaning_object_of_none (WrittenObject.view?_eq_none_iff.2 hkey)) closing
    · exact decode_objects_of_refused hp ((itemMeaning_object hms).trans (if_neg hrefused)) closing
  · obtain ⟨mss, hviews, hmss⟩ := exists_views haccepted
    exact ⟨mss, hviews, decode_objects_of_accepted hviews hmss closing⟩
  · rw [toOption_decode_objects, toOption_decode_objects]
    congr 1
    induction hperm with
    | nil => rfl
    | @cons p p' _ _ hp _ ih =>
      have hitem : k.itemMeaning p.value.written = k.itemMeaning p'.value.written := by
        generalize hv : p.value.view? = x at hp
        generalize hv' : p'.value.view? = x' at hp
        cases hp with
        | none => rw [itemMeaning_object_of_none hv, itemMeaning_object_of_none hv']
        | some hms => rw [itemMeaning_object hv, itemMeaning_object hv', Kind.decoded_of_perm hms]
      rw [List.mapM_cons, List.mapM_cons, hitem, ih]

end Collection

namespace WrittenObject

/-- The older name counts, since the first one is null. -/
def olderName : WrittenObject :=
  printed [("appId", .null), ("note", .array [.object []]), ("applicationId", .integer 7)]

def olderNameFirst : WrittenObject := printed [("applicationId", .integer 7), ("appId", .null)]

/-- The older name does not count, but is no integer. -/
def mistypedOlderName : WrittenObject := printed [("appId", .integer 7), ("applicationId", .text "7")]

/-- The first half of a surrogate pair. -/
def highSurrogate : Spelling :=
  let digit (n : Nat) (h : n < 16) : Json.HexDigit := ⟨⟨n, h⟩, false⟩
  [.unit (digit 0xD (by decide)) (digit 8 (by decide)) (digit 0 (by decide)) (digit 0 (by decide))]

/-- An unknown key that is half a surrogate pair. -/
def unpairedKey : WrittenObject := ⟨[⟨[], highSurrogate, [], ⟨[], .number (.ofInt 1), []⟩⟩], []⟩

end WrittenObject

namespace Collection

theorem decode_older_name :
    (∃ f, decode .subscriptions (objectsPayload [⟨[], .mistypedOlderName, []⟩] []) = .error f) ∧
    (∃ x : Subscription, decode .subscriptions (objectsPayload [⟨[], .olderName, []⟩] []) =
      .ok ⟨.subscriptions, [x]⟩ ∧ x.appId = 7) ∧
    (decode .subscriptions (objectsPayload [⟨[], .olderName, []⟩] [])).toOption =
      (decode .subscriptions (objectsPayload [⟨[], .olderNameFirst, []⟩] [])).toOption := by
  obtain ⟨herror, -, -⟩ := decode_objects .subscriptions [⟨[], .mistypedOlderName, []⟩] []
  obtain ⟨-, hok, hperm⟩ := decode_objects .subscriptions [⟨[], .olderName, []⟩] []
  have haccepted : ∀ p ∈ [(⟨[], .olderName, []⟩ : Padded WrittenObject)],
      ∃ ms, p.value.view? = some ms ∧ Kind.subscriptions.Accepts ms := by
    intro p hp
    obtain rfl := List.mem_singleton.1 hp
    exact ⟨_, WrittenObject.view?_printed _, by decide +kernel⟩
  refine ⟨herror ⟨_, List.mem_singleton_self _, .inr ⟨_, WrittenObject.view?_printed _, by decide +kernel⟩⟩, ?_,
    hperm _ [] (.cons ?_ .nil)⟩
  · obtain ⟨mss, hviews, hdecode⟩ := hok haccepted
    cases hviews with
    | cons hview hnil =>
      cases hnil
      cases (WrittenObject.view?_printed _).symm.trans hview
      exact ⟨_, hdecode, by decide +kernel⟩
  · rw [WrittenObject.olderName, WrittenObject.olderNameFirst, WrittenObject.view?_printed,
      WrittenObject.view?_printed]
    refine .some ?_
    simp [Members.ofJson, Shape.known, Shape.knows, Shape.field?, Kind.shape]
    exact .swap _ _ _

/-- An unknown key is passed over only if it denotes a text. -/
theorem decode_unpaired_key :
    objectsPayload [⟨[], .unpairedKey, []⟩] [] = Utf8.encode "\x7b\"list\":[\x7b\"\\ud800\":1\x7d]\x7d" ∧
    (∀ m ∈ WrittenObject.unpairedKey.members, ∀ name, m.key.text? = some name →
      Kind.subscriptions.shape.knows name = false) ∧
    ∃ f, decode .subscriptions (objectsPayload [⟨[], .unpairedKey, []⟩] []) = .error f := by
  have hkey : ∃ m ∈ WrittenObject.unpairedKey.members, m.key.text? = none :=
    ⟨_, List.mem_singleton_self _, by decide⟩
  refine ⟨by decide +kernel, ?_, decode_objects_of_refused (List.mem_singleton_self _)
    (itemMeaning_object_of_none (WrittenObject.view?_eq_none_iff.2 hkey)) []⟩
  intro m hm name hname
  obtain rfl := List.mem_singleton.1 hm
  have hnone : WrittenObject.highSurrogate.text? = none := by decide
  cases hnone.symm.trans hname

end Collection

end GatewayFeed
