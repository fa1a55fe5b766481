import GatewayFeed.Proofs.Item.FieldReading
import GatewayFeed.Proofs.Json.Taken

/-! What stands in a payload that was decoded: a document with a list, whose items are told by their members,
in the order in which they are written. -/

namespace GatewayFeed

open Json (Written Blanks)

namespace Json.Reader

theorem takes_readPlain (t : FieldType) : Takes t.readPlain := by
  cases t with
  | int64 => exact takes_int64.map _
  | int32 => exact takes_int32.map _
  | text => exact takes_text.map _
  | flag => exact takes_flag.map _
  | texts => exact takes_text.nullable.list.map _
  | attributes => exact takes_text.nullable.entries.map _
  | event =>
    intro bs x rest h
    cases (read?_wrongType ..).symm.trans h

theorem takes_read (t : FieldType) : Takes t.read := by
  cases t with
  | event => exact ((Takes.record _ fun t => (takes_readPlain t).nullable).map _).map _
  | int64 => exact takes_readPlain .int64
  | int32 => exact takes_readPlain .int32
  | text => exact takes_readPlain .text
  | flag => exact takes_readPlain .flag
  | texts => exact takes_readPlain .texts
  | attributes => exact takes_readPlain .attributes

theorem takes_readItem (k : Kind) : Takes k.readItem :=
  (Takes.record _ fun t => (takes_read t).nullable).map _

theorem takes_readItems (k : Kind) : Takes (Collection.readItems k) := by
  intro bs items rest h
  obtain ⟨r, t, hrecord, hlist⟩ := exists_of_read?_bind h
  obtain rfl : t = rest := by
    split at hlist
    · cases hlist
      rfl
    · cases hlist
  exact Takes.record _ (fun _ => (takes_readItem k).list) bs r t hrecord

end Json.Reader

namespace Kind

/-- The items of a document by their members. -/
def listed? (k : Kind) (v : Written) : Option (List Members) :=
  (Collection.listShape.members? v).bind fun ms =>
    (ms.lookup "list").bind fun items => items.list? k.shape.members?

/-- A payload holds items of these members, in this order. -/
def Carries (k : Kind) (payload : List UInt8) (mss : List Members) : Prop :=
  ∃ (before : Blanks) (v : Written) (after : Blanks),
    payload = before.bytes ++ (v.bytes ++ after.bytes) ∧ k.listed? v = some mss

variable {k : Kind} {items : List k.Item}

/-- A list means items exactly if each of them can be told by its members and is accepted. -/
theorem list?_itemMeaning {v : Written} (h : v.list? k.itemMeaning = some items) :
    ∃ mss, v.list? k.shape.members? = some mss ∧ (∀ ms ∈ mss, k.Accepts ms) ∧ items = mss.map (·.item k) := by
  cases v with
  | array ps closing =>
    simp only [Written.list?] at h ⊢
    induction ps generalizing items with
    | nil =>
      cases h
      exact ⟨[], rfl, by simp, rfl⟩
    | cons p ps ih =>
      rw [List.mapM_cons] at h
      obtain ⟨x, hx, h⟩ := Option.bind_eq_some_iff.1 h
      obtain ⟨xs, hxs, h⟩ := Option.bind_eq_some_iff.1 h
      obtain ⟨mss, hmss, haccepts, rfl⟩ := ih hxs
      cases h
      rw [itemMeaning_eq] at hx
      obtain ⟨ms, hms, hx⟩ := Option.bind_eq_some_iff.1 hx
      split at hx
      · rename_i hms'
        cases hx
        refine ⟨ms :: mss, ?_, List.forall_mem_cons.2 ⟨hms', haccepts⟩, rfl⟩
        rw [List.mapM_cons, hms, hmss]
        rfl
      · cases hx
  | _ => cases h

theorem exists_of_itemsMeaning {v : Written} (h : k.itemsMeaning v = some items) :
    ∃ mss, k.listed? v = some mss ∧ (∀ ms ∈ mss, k.Accepts ms) ∧ items = mss.map (·.item k) := by
  have hdistinct : Collection.listShape.Distinct := by decide
  rw [itemsMeaning, Shape.record?_eq_collect hdistinct] at h
  obtain ⟨r, hr, hlookup⟩ := Option.bind_eq_some_iff.1 h
  obtain ⟨ms, hms, hcollect⟩ := Option.bind_eq_some_iff.1 hr
  rw [Shape.lookup_collect hcollect (show Collection.listShape.field? "list" = some ⟨"list", ()⟩ by decide)]
    at hlookup
  obtain ⟨l, hl, hlist⟩ := Option.bind_eq_some_iff.1 hlookup
  obtain ⟨mss, hmss, h⟩ := list?_itemMeaning hlist
  exact ⟨mss, by rw [listed?, hms, Option.bind_some, hl, Option.bind_some, hmss], h⟩

end Kind

namespace Collection

variable {k : Kind} {payload : List UInt8} {items : List k.Item}

/-- Only a document is decoded. -/
theorem exists_of_decode (h : decode k payload = .ok ⟨k, items⟩) :
    ∃ (before : Blanks) (v : Written) (after : Blanks), payload = before.bytes ++ (v.bytes ++ after.bytes) := by
  unfold decode at h
  cases hd : Json.Reader.document (readItems k) payload with
  | error e =>
    rw [hd] at h
    cases h
  | ok xs => exact Json.Reader.exists_of_document (Json.Reader.takes_readItems k) hd

theorem itemsMeaning_of_decode {before after : Blanks} {v : Written}
    (h : decode k (before.bytes ++ (v.bytes ++ after.bytes)) = .ok ⟨k, items⟩) :
    k.itemsMeaning v = some items := by
  have hdecode := toOption_decode k before v after
  rw [h] at hdecode
  obtain ⟨xs, hxs, he⟩ := Option.map_eq_some_iff.1 hdecode.symm
  cases he
  exact hxs

/-- What a payload is decoded to is what the members of its items say. -/
theorem carries_of_decode (h : decode k payload = .ok ⟨k, items⟩) :
    (∃ mss, k.Carries payload mss) ∧
    ∀ mss, k.Carries payload mss → (∀ ms ∈ mss, k.Accepts ms) ∧ items = mss.map (·.item k) := by
  refine ⟨?_, ?_⟩
  · obtain ⟨before, v, after, rfl⟩ := exists_of_decode h
    obtain ⟨mss, hmss, -⟩ := Kind.exists_of_itemsMeaning (itemsMeaning_of_decode h)
    exact ⟨mss, before, v, after, rfl, hmss⟩
  · rintro mss ⟨before, v, after, rfl, hmss⟩
    obtain ⟨mss', hmss', h⟩ := Kind.exists_of_itemsMeaning (itemsMeaning_of_decode h)
    rw [hmss] at hmss'
    cases hmss'
    exact h

end Collection

end GatewayFeed
