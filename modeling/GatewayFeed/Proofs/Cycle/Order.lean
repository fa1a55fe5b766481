import GatewayFeed.Proofs.Cycle.Decision
import GatewayFeed.Proofs.Cycle.Schedule
import GatewayFeed.Proofs.Cycle.Slots

/-! What a cycle leaves behind is decided by how its fetches ended, not by the order in which the barrier
learned of it: each slot takes at most the one result of its own dataset. The results may come in any
order, and a cycle that ends as the one before it did changes nothing. -/

namespace GatewayFeed

namespace Race

variable {p : RetryPolicy} {store : Store} {es : List Endpoint}

/-- No fetch has ended when a cycle begins. -/
theorem outcome?_begin (p : RetryPolicy) (store : Store) (es : List Endpoint) (e : Endpoint) :
    (begin p store es).outcome? e = none := by
  rw [outcome?]
  cases hl : (begin p store es).workers.lookup e with
  | none => rfl
  | some w =>
    have hmem := mem_of_lookup hl
    rw [begin, List.mem_map] at hmem
    obtain ⟨e', -, heq⟩ := hmem
    cases heq
    rfl

theorem outcome?_conclude (r : Race) (e : Endpoint) : r.conclude.outcome? e = r.outcome? e := rfl

theorem outcome?_standing (hn : es.Nodup) {g : Endpoint → Worker} {seen : List Barrier.Event} {sd : Bool}
    {e : Endpoint} {x : Fetcher.Fetched} (he : e ∈ es) (hg : g e = .reported x) :
    (standing p store es g seen sd).outcome? e = some (x.result e).outcome := by
  have hkeys : (standing p store es g seen sd).workers.map (·.1) = es := by
    simp [standing, Function.comp_def]
  have hmem : (e, Worker.reported x) ∈ (standing p store es g seen sd).workers := by
    rw [← hg]
    exact List.mem_map_of_mem he
  rw [outcome?, lookup_of_mem (by rwa [hkeys]) hmem]
  rfl

end Race

namespace Cycle

/-- A cycle that no shutdown has met and that has ended with the outcomes `o` of its fetches. -/
structure Finished (store : Store) (o : Kind → Outcome) (call : Race.Call) (r : Race) (e : Ending) :
    Prop where
  run : ∃ as, (call.start store).run as = some r
  ending : r.ending = some e
  outcome : ∀ k, r.outcome? (.ofKind k) = some (o k)
  unstopped : r.shutdown = false

/-- Whether no dataset rejected the credentials. -/
def Accepted (o : Kind → Outcome) : Prop := ∀ k s, o k ≠ .error (.unauthorized s)

variable {store : Store} {o : Kind → Outcome} {call : Race.Call} {r : Race} {e : Ending}

/-- Fetches end only where there is a client. -/
theorem Finished.concluded (h : Finished store o call r e) : Race.Concluded store o r e := by
  obtain ⟨⟨as, hrun⟩, he, ho, -⟩ := h
  have hsame : (∃ o', Race.Concluded store o' r e) → Race.Concluded store o r e := by
    rintro ⟨o', hc⟩
    have heq : o' = o := funext fun k => Option.some.inj ((hc.outcome k).symm.trans (ho k))
    exact heq ▸ hc
  cases call with
  | loadWith p => exact hsame (Race.concluded_of_run hrun he)
  | load files s =>
    unfold Race.Call.start at hrun
    simp only at hrun
    split at hrun
    · cases Race.run_of_ended rfl hrun
      have hnone := Race.outcome?_begin (.ofSettings s.retries) store Endpoint.all (.ofKind .subscriptions)
      cases hnone.symm.trans (ho .subscriptions)
    · exact hsame (Race.concluded_of_run hrun he)

/-- Without a rejection and a shutdown a cycle publishes. -/
theorem Finished.published (h : Finished store o call r e) (ho : Accepted o) :
    e = published store r.gathered := by
  have hnone : r.gathered.rejection = none := by
    change r.collected.rejection = none
    rw [r.accounts.rejection, List.findSome?_eq_none_iff]
    intro x hx
    obtain ⟨k, -, rfl⟩ := List.mem_map.1 (h.concluded.arrived.mem_iff.1 hx)
    exact FetchResult.rejection?_eq_none_iff.2 (ho k)
  obtain ⟨report, hok⟩ := exists_report_conclude.2 ⟨hnone, h.unstopped⟩
  exact h.concluded.ending.trans (conclude_of_ok hok)

/-- What the report of such a cycle lists, in the order of arrival. -/
theorem Finished.exists_report (h : Finished store o call r e) (ho : Accepted o) :
    ∃ report, e.result = .ok report ∧ report.populated = r.store.snapshot.populated ∧
      report.published = (r.arrived.filterMap FetchResult.collection?).map (·.kind) ∧
      report.failures = r.arrived.filterMap FetchResult.failure? := by
  refine ⟨reportOf (store.publish r.gathered.decoded) r.gathered, ?_, ?_, ?_, r.accounts.failures⟩
  · rw [h.published ho]
    rfl
  · rw [h.concluded.store, h.published ho]
    rfl
  · rw [← r.accounts.decoded]
    rfl

theorem Finished.get (h : Finished store o call r e) (ho : Accepted o) (k : Kind) :
    r.store.snapshot.get k = slotAfter k (store.snapshot.get k) (o k) := by
  rw [h.concluded.store, h.published ho]
  exact h.concluded.get_published k

theorem slotAfter_slotAfter (k : Kind) (old : Option Collection) (o : Outcome) :
    slotAfter k (slotAfter k old o) o = slotAfter k old o := by
  cases o with
  | error x => rfl
  | ok p => cases hd : Collection.decode k p <;> simp [slotAfter, hd]

theorem slotAfter_of_decode {k : Kind} {p : List UInt8} {c : Collection}
    (h : Collection.decode k p = .ok c) (old : Option Collection) : slotAfter k old (.ok p) = some c := by
  simp [slotAfter, h]

/-- Results come in any order. -/
theorem exists_finished_in_order (store : Store) {o : Kind → Outcome} (ho : ∀ k, o k ≠ .error .cancelled)
    {ks : List Kind} (hks : ks.Perm Kind.all) :
    ∃ r e, Finished store o (.loadWith .single) r e ∧ r.received = ks.map fun k => ⟨.ofKind k, o k⟩ := by
  let qs : List (Endpoint × Fetcher.Fetched) := ks.map fun k => (.ofKind k, ⟨1, some (o k)⟩)
  have hkeys : (qs.map (·.1)).Perm Endpoint.all := by
    rw [List.map_map]
    exact hks.map Endpoint.ofKind
  have hnodup : (qs.map (·.1)).Nodup := hkeys.nodup_iff.2 Race.nodup_endpoints
  have hmem : ∀ q ∈ qs, q.1 ∈ Endpoint.all := fun q hq => hkeys.mem_iff.1 (List.mem_map_of_mem hq)
  have hbegin : Race.Stands .single store Endpoint.all (fun _ => .waiting 0) [] false := Race.stands_begin
  -- all fetches end before any of them reports
  obtain ⟨g, hs, hended, -⟩ := hbegin.eachUnseen (w := .ended) hnodup fun q hq g' hsame hs => by
    obtain ⟨k, -, rfl⟩ := List.mem_map.1 hq
    have hstarted := hs.start Race.nodup_endpoints (hmem _ hq) hsame rfl
    have hanswered := hstarted.answer Race.nodup_endpoints (hmem _ hq) (Function.update_self ..) rfl (ho k)
    rw [Function.update_idem] at hanswered
    simpa [Worker.afterAttempt, RetryPolicy.allowsRetry, RetryPolicy.single] using hanswered
  obtain ⟨g', hs', hreported, -⟩ := hs.reports Race.nodup_endpoints hnodup fun q hq => ⟨hmem q hq, hended q hq⟩
  have hdone : ∀ k, g' (.ofKind k) = .reported ⟨1, some (o k)⟩ := fun k =>
    hreported (.ofKind k, ⟨1, some (o k)⟩) (List.mem_map_of_mem (hks.mem_iff.2 (Kind.mem_all k)))
  obtain ⟨as, hrun⟩ := hs'.conclude fun d hd => by
    obtain ⟨k, -, rfl⟩ := List.mem_map.1 hd
    rw [hdone k]
    exact Option.some_ne_none _
  refine ⟨_, _, ⟨⟨as, hrun⟩, rfl, fun k => ?_, rfl⟩, ?_⟩
  · rw [Race.outcome?_conclude]
    exact Race.outcome?_standing Race.nodup_endpoints (List.mem_map_of_mem (Kind.mem_all k)) (hdone k)
  · simp only [Race.received, Race.conclude, Race.standing, qs, List.nil_append, List.map_map,
      List.filterMap_map]
    rw [← List.filterMap_eq_map]
    rfl

/-- One payload that does not decode, one failure, and four empty lists. -/
def mixedOutcomes : Kind → Outcome
  | .keyMappings => .ok []
  | .apis => .error (.httpStatus 503)
  | _ => .ok (Utf8.encode Fetch.emptyList.compact)

/-- Two cycles on the same snapshot whose fetches ended alike, without a rejection and without a
shutdown, leave the same snapshot and report the same, up to the order of what they list. A further cycle
that ends alike changes nothing; and if every payload decodes, nothing of the snapshot before is left. -/
theorem order_irrelevant (ho : Accepted o) {store₁ store₂ : Store} (hs : store₁.snapshot = store₂.snapshot)
    {call₁ call₂ : Race.Call} {r₁ r₂ : Race} {e₁ e₂ : Ending} (h₁ : Finished store₁ o call₁ r₁ e₁)
    (h₂ : Finished store₂ o call₂ r₂ e₂) :
    (∃ p₁ p₂, e₁.result = .ok p₁ ∧ e₂.result = .ok p₂ ∧ p₁.populated = p₂.populated ∧
      p₁.published.Perm p₂.published ∧ p₁.failures.Perm p₂.failures) ∧
    r₁.store.snapshot = r₂.store.snapshot ∧
    (∀ {store : Store} {call r e}, store.snapshot = r₁.store.snapshot → Finished store o call r e →
      r.store.snapshot = r₁.store.snapshot) ∧
    ((∀ k, ∃ p c, o k = .ok p ∧ Collection.decode k p = .ok c) →
      ∀ {store : Store} {call r e}, Finished store o call r e → r.store.snapshot = r₁.store.snapshot) := by
  have hsnapshot : r₁.store.snapshot = r₂.store.snapshot := by
    apply Snapshot.eq_of_get
    intro k
    rw [h₁.get ho, h₂.get ho, hs]
  refine ⟨?_, hsnapshot, ?_, ?_⟩
  · obtain ⟨p₁, hok₁, hpopulated₁, hpublished₁, hfailures₁⟩ := h₁.exists_report ho
    obtain ⟨p₂, hok₂, hpopulated₂, hpublished₂, hfailures₂⟩ := h₂.exists_report ho
    have harrived : r₁.arrived.Perm r₂.arrived := h₁.concluded.arrived.trans h₂.concluded.arrived.symm
    refine ⟨p₁, p₂, hok₁, hok₂, ?_, ?_, ?_⟩
    · rw [hpopulated₁, hpopulated₂, hsnapshot]
    · rw [hpublished₁, hpublished₂]
      exact (harrived.filterMap _).map _
    · rw [hfailures₁, hfailures₂]
      exact harrived.filterMap _
  · intro store call r e hstore h
    apply Snapshot.eq_of_get
    intro k
    rw [h.get ho, hstore, h₁.get ho, slotAfter_slotAfter]
  · intro hall store call r e h
    apply Snapshot.eq_of_get
    intro k
    obtain ⟨p, c, hp, hd⟩ := hall k
    rw [h.get ho, h₁.get ho, hp, slotAfter_of_decode hd, slotAfter_of_decode hd]

theorem reversed_order_irrelevant :
    ∃ r₁ e₁ r₂ e₂ p₁ p₂, Finished Race.twoSlots mixedOutcomes (.loadWith .single) r₁ e₁ ∧
      Finished Race.twoSlots mixedOutcomes (.loadWith .single) r₂ e₂ ∧
      r₁.received = r₂.received.reverse ∧ r₁.store.snapshot = r₂.store.snapshot ∧
      e₁.result = .ok p₁ ∧ e₂.result = .ok p₂ ∧ p₁.published.Perm p₂.published ∧
      p₁.failures.Perm p₂.failures := by
  have hended : ∀ k, mixedOutcomes k ≠ .error .cancelled := by
    intro k
    cases k <;> simp [mixedOutcomes]
  have haccepted : Accepted mixedOutcomes := by
    intro k s
    cases k <;> simp [mixedOutcomes]
  obtain ⟨r₁, e₁, h₁, hreceived₁⟩ := exists_finished_in_order Race.twoSlots hended (List.Perm.refl _)
  obtain ⟨r₂, e₂, h₂, hreceived₂⟩ := exists_finished_in_order Race.twoSlots hended (List.reverse_perm _)
  obtain ⟨⟨p₁, p₂, hok₁, hok₂, -, hpublished, hfailures⟩, hsnapshot, -, -⟩ :=
    order_irrelevant haccepted rfl h₁ h₂
  refine ⟨r₁, e₁, r₂, e₂, p₁, p₂, h₁, h₂, ?_, hsnapshot, hok₁, hok₂, hpublished, hfailures⟩
  rw [hreceived₁, hreceived₂, List.map_reverse, List.reverse_reverse]

end Cycle

end GatewayFeed
