import GatewayFeed.Proofs.Cycle.Ending
import GatewayFeed.Proofs.Snapshot.Slots

/-! What a cycle does to the store, slot by slot. A published slot holds what the payload of its own
dataset decodes to; a slot whose dataset gave nothing keeps what it held. A cycle that fails as a
whole changes no slot. -/

namespace GatewayFeed

namespace Cycle

/-- What a slot that held `old` holds after a cycle that published, if the fetch of its dataset
ended with `o`. -/
def slotAfter (k : Kind) (old : Option Collection) (o : Outcome) : Option Collection :=
  match o with
  | .error _ => old
  | .ok payload =>
    match Collection.decode k payload with
    | .ok c => some c
    | .error _ => old

theorem collection?_or_eq_slotAfter (k : Kind) (old : Option Collection) (o : Outcome) :
    (FetchResult.collection? ⟨.ofKind k, o⟩).or old = slotAfter k old o := by
  cases o with
  | error x => rfl
  | ok p =>
    rw [FetchResult.collection?_ok, slotAfter, Endpoint.ofKind]
    cases Collection.decode k p <;> rfl

theorem conclude_of_ok {store : Store} {c : Collected} {b : Bool} {report : Report}
    (h : (conclude store c b).result = .ok report) : conclude store c b = published store c := by
  rcases conclude_cases store c b with ⟨q, -, hc⟩ | ⟨-, -, hc⟩ | ⟨-, -, hc⟩
  · rw [hc] at h
    cases h
  · rw [hc] at h
    cases h
  · exact hc

theorem store_conclude_of_error {store : Store} {c : Collected} {b : Bool} {x : LoadError}
    (h : (conclude store c b).result = .error x) : (conclude store c b).store = store := by
  rcases conclude_cases store c b with ⟨q, -, hc⟩ | ⟨-, -, hc⟩ | ⟨-, -, hc⟩
  · rw [hc]
    rfl
  · rw [hc]
    rfl
  · rw [hc] at h
    cases h

end Cycle

namespace Race

/-- An element that alone is kept is all that is kept of a list in which it occurs once. -/
theorem filterMap_eq_toList {α β : Type} {f : α → Option β} {l : List α} {a : α} (hn : l.Nodup)
    (ha : a ∈ l) (hf : ∀ b, b ≠ a → f b = none) : l.filterMap f = (f a).toList := by
  induction l with
  | nil => cases ha
  | cons b l ih =>
    rw [List.nodup_cons] at hn
    by_cases hb : b = a
    · subst hb
      have hrest : l.filterMap f = [] := by
        rw [List.filterMap_eq_nil_iff]
        exact fun c hc => hf c fun he => hn.1 (he ▸ hc)
      cases h : f b with
      | none => rw [List.filterMap_cons_none h, hrest]; rfl
      | some x => rw [List.filterMap_cons_some h, hrest]; rfl
    · rw [List.filterMap_cons_none (hf b hb)]
      refine ih hn.2 ?_
      simpa [Ne.symm hb] using ha

variable {store : Store} {o : Kind → Outcome} {r : Race} {e : Cycle.Ending}

/-- What was decoded for a kind came from its own dataset. -/
theorem Concluded.decoded_filter (h : Concluded store o r e) (k : Kind) :
    r.collected.decoded.filter (·.kind = k) =
      (FetchResult.collection? ⟨.ofKind k, o k⟩).toList := by
  have hperm := ((h.arrived.filterMap FetchResult.collection?).filter (·.kind = k))
  have hone : ((Kind.all.map fun k => (⟨.ofKind k, o k⟩ : FetchResult)).filterMap
      FetchResult.collection?).filter (·.kind = k) =
      (FetchResult.collection? ⟨.ofKind k, o k⟩).toList := by
    rw [List.filterMap_map, List.filter_filterMap, filterMap_eq_toList Kind.nodup_all (Kind.mem_all k)]
    · cases hc : FetchResult.collection? ⟨.ofKind k, o k⟩ with
      | none => simp [hc]
      | some c => simp [hc, FetchResult.kind_of_collection? hc]
    · intro j hj
      cases hc : FetchResult.collection? ⟨.ofKind j, o j⟩ with
      | none => simp [hc]
      | some c => simp [hc, FetchResult.kind_of_collection? hc, hj]
  rw [hone] at hperm
  rw [r.accounts.decoded]
  cases hc : FetchResult.collection? ⟨.ofKind k, o k⟩ with
  | none =>
    rw [hc] at hperm
    exact hperm.eq_nil
  | some c =>
    rw [hc] at hperm
    exact List.perm_singleton.1 hperm

theorem Concluded.get_published (h : Concluded store o r e) (k : Kind) :
    (Cycle.published store r.gathered).store.snapshot.get k =
      Cycle.slotAfter k (store.snapshot.get k) (o k) := by
  change (store.publish r.collected.decoded).snapshot.get k = _
  rw [Store.get_publish, h.decoded_filter, ← Cycle.collection?_or_eq_slotAfter]
  cases FetchResult.collection? ⟨.ofKind k, o k⟩ <;> rfl

end Race

namespace Cycle

/-- Whatever the control plane answers, in whatever order the results come and whenever the deadline
passes or the shutdown is triggered: a cycle that returns a report has replaced exactly the slots
whose own payload came and decodes, and one that returns an error has replaced none. -/
theorem slots_after_cycle {call : Race.Call} {store : Store} {as : List Race.Act} {r : Race}
    {e : Ending} (h : (call.start store).run as = some r) (he : r.ending = some e) :
    (∀ report, e.result = .ok report → ∀ k, ∃ o, r.outcome? (.ofKind k) = some o ∧
      r.store.snapshot.get k = slotAfter k (store.snapshot.get k) o) ∧
    (∀ x, e.result = .error x → ∀ k, r.store.snapshot.get k = store.snapshot.get k) := by
  obtain ⟨x, hx, hr, -⟩ | ⟨o, hc⟩ := Race.ending_of_run h he
  · exact ⟨fun report hok => (by rw [hx] at hok; cases hok), fun _ _ k => by rw [hr]⟩
  · refine ⟨fun report hok k => ⟨o k, hc.outcome k, ?_⟩, fun x hx k => ?_⟩
    · have hp := conclude_of_ok (hc.ending ▸ hok)
      rw [hc.store, hc.ending, hp]
      exact hc.get_published k
    · rw [hc.store, hc.ending, store_conclude_of_error (hc.ending ▸ hx)]

theorem slots_after_mixed_run :
    ∃ r e report, ((Race.Call.loadWith ⟨3, .zero, .zero⟩).start Race.twoSlots).run Race.mixedRun = some r ∧
      r.ending = some e ∧ e.result = .ok report ∧
      ∀ k, ∃ o, r.outcome? (.ofKind k) = some o ∧
        r.store.snapshot.get k = slotAfter k (Race.twoSlots.snapshot.get k) o := by
  obtain ⟨r, e, report, hr, he, hok⟩ := Race.exists_report
    ((Race.Call.loadWith ⟨3, .zero, .zero⟩).start Race.twoSlots) Race.mixedRun
    (by decide +kernel)
  exact ⟨r, e, report, hr, he, hok, (slots_after_cycle hr he).1 report hok⟩

end Cycle

end GatewayFeed
