import GatewayFeed.Proofs.Cycle.Slots
import GatewayFeed.Proofs.Item.Objects
import GatewayFeed.Proofs.Json.Enclosed

/-! A payload that was cut off does not decode, wherever it was cut, so that a cycle keeps what its slot held.
The payload is a record, which sees its own end: had the front part been complete, nothing but blanks could
follow it. -/

namespace GatewayFeed

open Json (Reader)

namespace Json.Reader

theorem read?_readPlain_nil (t : FieldType) : read? t.readPlain [] = none := by cases t <;> rfl

theorem delimited_readPlain (t : FieldType) : Delimited t.readPlain := by
  have htexts : Delimited (nullable text) := (selfDelimiting_text.delimited rfl).nullable rfl
  cases t with
  | int64 => exact delimited_int64.map _
  | int32 => exact delimited_int32.map _
  | text => exact (selfDelimiting_text.map _).delimited rfl
  | flag => exact (selfDelimiting_flag.map _).delimited rfl
  | texts => exact ((selfDelimiting_list htexts).map _).delimited rfl
  | attributes => exact ((selfDelimiting_map htexts).map _).delimited rfl
  | event => exact .of_none (read?_wrongType _)

theorem delimited_read (t : FieldType) : Delimited t.read := by
  have hplain : ∀ t : FieldType, Delimited (nullable t.readPlain) :=
    fun t => (delimited_readPlain t).nullable (read?_readPlain_nil t)
  cases t with
  | event => exact (((selfDelimiting_record _ hplain).map _).map _).delimited rfl
  | int64 => exact delimited_readPlain .int64
  | int32 => exact delimited_readPlain .int32
  | text => exact delimited_readPlain .text
  | flag => exact delimited_readPlain .flag
  | texts => exact delimited_readPlain .texts
  | attributes => exact delimited_readPlain .attributes

theorem delimited_readItem (k : Kind) : Delimited k.readItem := by
  have hread : ∀ t : FieldType, Delimited (nullable t.read) :=
    fun t => (delimited_read t).nullable (by cases t <;> rfl)
  exact ((selfDelimiting_record _ hread).map _).delimited rfl

theorem selfDelimiting_readItems (k : Kind) : SelfDelimiting (Collection.readItems k) := by
  have hlist : Delimited (list k.readItem) := (selfDelimiting_list (delimited_readItem k)).delimited rfl
  intro bs
  refine (selfDelimiting_record _ (fun _ => hlist) bs).andThen fun r rest _ => ?_
  split
  · exact .pure _
  · exact .of_none rfl

end Json.Reader

namespace Collection

variable {k : Kind} {p q s : List UInt8} {c c' : Collection}

theorem decode_eq_ok (h : decode k p = .ok c) :
    ∃ items rest, Reader.read? (readItems k) p = some (items, rest) ∧ ∀ b ∈ rest, Reader.isBlank b = true := by
  unfold decode at h
  cases hd : Reader.document (readItems k) p with
  | error f =>
    rw [hd] at h
    cases h
  | ok items =>
    obtain ⟨rest, hread, hrest⟩ := Reader.document_eq_ok hd
    exact ⟨items, rest, hread, hrest⟩

/-- Between two payloads that decode, one the front part of the other, there are only blanks. -/
theorem isBlank_of_decode (hq : decode k q = .ok c) (hp : decode k (q ++ s) = .ok c') :
    ∀ b ∈ s, Reader.isBlank b = true := by
  obtain ⟨items, rest, hread, -⟩ := decode_eq_ok hq
  obtain ⟨items', rest', hread', hrest'⟩ := decode_eq_ok hp
  have hmore := Reader.selfDelimiting_readItems k q items rest hread trivial s
  obtain rfl : rest' = rest ++ s := by
    have hsame := hread'.symm.trans hmore
    simp only [Option.some.injEq, Prod.mk.injEq] at hsame
    exact hsame.2
  exact fun b hb => hrest' b (List.mem_append_right _ hb)

end Collection

namespace Cycle

variable {k : Kind} {q s : List UInt8} {c : Collection}

/-- A payload that does not decode leaves the slot of its dataset as it was, however the cycle ends. -/
theorem get_of_undecodable {call : Race.Call} {store : Store} {as : List Race.Act} {r : Race} {e : Ending}
    (h : (call.start store).run as = some r) (he : r.ending = some e) {f : Json.Fault}
    (hq : Collection.decode k q = .error f) (ho : r.outcome? (.ofKind k) = some (.ok q)) :
    r.store.snapshot.get k = store.snapshot.get k := by
  obtain ⟨x, -, hr, -⟩ | ⟨o, hc⟩ := Race.ending_of_run h he
  · rw [hr]
  have hok : o k = .ok q := Option.some.inj ((hc.outcome k).symm.trans ho)
  cases hres : e.result with
  | error x => rw [hc.store, hc.ending, store_conclude_of_error (hc.ending ▸ hres)]
  | ok report =>
    rw [hc.store, hc.ending, conclude_of_ok (hc.ending ▸ hres), hc.get_published, hok, slotAfter, hq]

/-- Whatever a payload that decodes is cut down to, what is left does not decode, as long as more than blanks is
gone. A cycle in which a fetch ends with what is left keeps what the slot of that dataset held. -/
theorem cut_off_payload_refused (h : Collection.decode k (q ++ s) = .ok c)
    (hs : ∃ b ∈ s, Reader.isBlank b = false) :
    (∃ f, Collection.decode k q = .error f) ∧
    ∀ (call : Race.Call) (store : Store) (as : List Race.Act) (r : Race) (e : Ending),
      (call.start store).run as = some r → r.ending = some e → r.outcome? (.ofKind k) = some (.ok q) →
        r.store.snapshot.get k = store.snapshot.get k := by
  obtain ⟨f, hf⟩ : ∃ f, Collection.decode k q = .error f := by
    cases hq : Collection.decode k q with
    | error f => exact ⟨f, rfl⟩
    | ok c' =>
      obtain ⟨b, hb, hblank⟩ := hs
      rw [Collection.isBlank_of_decode hq h b hb] at hblank
      cases hblank
  exact ⟨⟨f, hf⟩, fun call store as r e hrun he ho => get_of_undecodable hrun he hf ho⟩

/-- Two items of which the first one arrives. -/
def firstItem : List UInt8 := Utf8.encode "\x7b\"list\":[\x7b\"subscriptionId\":1\x7d"

def secondItem : List UInt8 := Utf8.encode ",\x7b\"subscriptionId\":2\x7d]\x7d "

/-- The first payload arrives, and the deadline stops all other fetches. -/
def cutOffRun : List Race.Act :=
  [.start 0, .answer 0 (.ok firstItem), .report 0, .receive, .deadline, .stop 1, .stop 2, .stop 3, .stop 4,
    .stop 5, .report 1, .report 2, .report 3, .report 4, .report 5, .receive, .receive, .receive, .receive,
    .receive, .conclude]

theorem cut_off_after_first_item :
    (∃ f, Collection.decode .subscriptions firstItem = .error f) ∧
    ∃ r e report, ((Race.Call.loadWith .single).start Race.twoSlots).run cutOffRun = some r ∧
      r.ending = some e ∧ e.result = .ok report ∧
      r.store.snapshot.get .subscriptions = some ⟨.subscriptions, []⟩ := by
  obtain ⟨c, hc⟩ : ∃ c, Collection.decode .subscriptions (firstItem ++ secondItem) = .ok c := by
    refine ⟨⟨.subscriptions, [⟨1, "", 0, 0, "", none⟩, ⟨2, "", 0, 0, "", none⟩]⟩, ?_⟩
    exact eq_ok_of_toOption (by decide +kernel)
  obtain ⟨hrefused, hslot⟩ := cut_off_payload_refused hc ⟨0x2C, by decide +kernel, by decide⟩
  obtain ⟨r, e, report, hr, he, hok⟩ := Race.exists_report
    ((Race.Call.loadWith .single).start Race.twoSlots) cutOffRun (by decide +kernel)
  have ho : ((((Race.Call.loadWith .single).start Race.twoSlots).run cutOffRun).bind
      fun r => r.outcome? (.ofKind .subscriptions)) = some (.ok firstItem) := by decide +kernel
  rw [hr] at ho
  exact ⟨hrefused, r, e, report, hr, he, hok, hslot _ _ _ r e hr he ho⟩

end Cycle

end GatewayFeed
