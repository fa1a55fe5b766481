import GatewayFeed.Proofs.Cycle.Slots

/-! The report of a cycle accounts for every dataset once: its kind was published, or its failure is
listed with the stage at which it failed, and never both. The populated slots that it counts are
those of the snapshot that the cycle published. -/

namespace GatewayFeed

namespace Race

variable {store : Store} {o : Kind → Outcome} {r : Race} {e : Cycle.Ending}

/-- The kinds that were decoded, followed by those that failed, are all kinds. -/
theorem Concluded.kinds_perm (h : Concluded store o r e) :
    (r.collected.decoded.map (·.kind) ++ r.collected.failures.map (·.endpoint.kind)).Perm Kind.all := by
  rw [r.accounts.decoded, r.accounts.failures]
  refine (FetchResult.kinds_perm r.arrived).trans ?_
  have hk : (Kind.all.map fun k => (⟨.ofKind k, o k⟩ : FetchResult)).map (·.endpoint.kind) = Kind.all := by
    rw [List.map_map]
    exact List.map_id _
  rw [← hk]
  exact h.arrived.map _

theorem Concluded.exists_of_mem_failures (h : Concluded store o r e) {f : Failure}
    (hf : f ∈ r.collected.failures) : ∃ k, FetchResult.failure? ⟨.ofKind k, o k⟩ = some f := by
  rw [r.accounts.failures] at hf
  obtain ⟨x, hx, hfx⟩ := List.mem_filterMap.1 hf
  obtain ⟨k, -, rfl⟩ := List.mem_map.1 (h.arrived.mem_iff.1 hx)
  exact ⟨k, hfx⟩

theorem Concluded.mem_decoded_kinds (h : Concluded store o r e) (k : Kind) :
    k ∈ r.collected.decoded.map (·.kind) ↔ (FetchResult.collection? ⟨.ofKind k, o k⟩).isSome = true := by
  have hfilter := h.decoded_filter k
  constructor
  · intro hk
    obtain ⟨c, hc, rfl⟩ := List.mem_map.1 hk
    have hmem : c ∈ r.collected.decoded.filter (·.kind = c.kind) := by simp [hc]
    rw [hfilter] at hmem
    cases hcol : FetchResult.collection? ⟨.ofKind c.kind, o c.kind⟩ with
    | none => rw [hcol] at hmem; cases hmem
    | some d => rfl
  · intro hk
    obtain ⟨c, hc⟩ := Option.isSome_iff_exists.1 hk
    have hmem : c ∈ r.collected.decoded.filter (·.kind = k) := by simp [hfilter, hc]
    obtain ⟨hc, hck⟩ := List.mem_filter.1 hmem
    exact List.mem_map.2 ⟨c, hc, by simpa using hck⟩

theorem Concluded.isPopulated_published (h : Concluded store o r e) (k : Kind) :
    (Cycle.published store r.gathered).store.snapshot.isPopulated k =
      (store.snapshot.isPopulated k || (r.collected.decoded.map (·.kind)).contains k) := by
  have hk := h.mem_decoded_kinds k
  rw [Snapshot.isPopulated_eq_isSome_get, Snapshot.isPopulated_eq_isSome_get, h.get_published,
    ← Cycle.collection?_or_eq_slotAfter, Option.isSome_or, Bool.or_comm]
  congr 1
  rw [Bool.eq_iff_iff, List.contains_iff_mem, hk]

end Race

namespace Cycle

theorem stage_failure {k : Kind} {o : Outcome} {f : Failure}
    (h : FetchResult.failure? ⟨.ofKind k, o⟩ = some f) :
    f.endpoint = .ofKind k ∧ (f.cause.stage = "fetch" ↔ ∃ x, o = .error x) ∧
      (f.cause.stage = "decode" ↔ ∃ p fault, o = .ok p ∧ Collection.decode k p = .error fault) := by
  cases o with
  | error x =>
    cases h
    refine ⟨rfl, ?_, ?_⟩ <;> simp [FailureCause.stage]
  | ok p =>
    rw [FetchResult.failure?_ok] at h
    split at h
    · cases h
    · rename_i fault hd
      cases h
      refine ⟨rfl, ?_, ?_⟩
      · simp [FailureCause.stage]
      · simpa [FailureCause.stage] using ⟨fault, hd⟩

/-- A cycle that returns a report lists every kind once, as published or with its failure. A failure
has the name and the kind of one dataset, and its stage tells whether that dataset's fetch failed or
its payload does not decode. The number of populated slots is that of the published snapshot, in
which a slot is populated if it was before or is listed as published. -/
theorem report_accounts {call : Race.Call} {store : Store} {as : List Race.Act} {r : Race}
    {e : Ending} {report : Report} (h : (call.start store).run as = some r)
    (he : r.ending = some e) (hok : e.result = .ok report) :
    (report.published ++ report.failures.map (·.endpoint.kind)).Perm Kind.all ∧
    (∀ f ∈ report.failures, f.endpoint = .ofKind f.endpoint.kind ∧
      ∃ o, r.outcome? f.endpoint = some o ∧
        (f.cause.stage = "fetch" ↔ ∃ x, o = .error x) ∧
        (f.cause.stage = "decode" ↔
          ∃ p fault, o = .ok p ∧ Collection.decode f.endpoint.kind p = .error fault)) ∧
    report.populated = r.store.snapshot.populated ∧
    report.populated =
      (Kind.all.filter fun k => store.snapshot.isPopulated k || report.published.contains k).length := by
  obtain ⟨x, hx, -, -⟩ | ⟨o, hc⟩ := Race.ending_of_run h he
  · rw [hx] at hok
    cases hok
  have hp := conclude_of_ok (hc.ending ▸ hok)
  have hend : e = published store r.gathered := hc.ending.trans hp
  rw [hend] at hok
  cases hok
  refine ⟨hc.kinds_perm, ?_, ?_, ?_⟩
  · intro f hf
    obtain ⟨k, hk⟩ := hc.exists_of_mem_failures hf
    obtain ⟨hfe, hfetch, hdecode⟩ := stage_failure hk
    rw [hfe]
    exact ⟨rfl, o k, hc.outcome k, hfetch, hdecode⟩
  · rw [hc.store, hend]
    rfl
  · change (Kind.all.filter (published store r.gathered).store.snapshot.isPopulated).length = _
    congr 1
    refine List.filter_congr fun k _ => ?_
    exact hc.isPopulated_published k

theorem report_of_mixed_run :
    ∃ r e report, ((Race.Call.loadWith ⟨3, .zero, .zero⟩).start Race.twoSlots).run Race.mixedRun = some r ∧
      r.ending = some e ∧ e.result = .ok report ∧
      (report.published ++ report.failures.map (·.endpoint.kind)).Perm Kind.all ∧
      report.populated = r.store.snapshot.populated := by
  obtain ⟨r, e, report, hr, he, hok⟩ := Race.exists_report
    ((Race.Call.loadWith ⟨3, .zero, .zero⟩).start Race.twoSlots) Race.mixedRun
    (by decide +kernel)
  obtain ⟨hkinds, -, hpop, -⟩ := report_accounts hr he hok
  exact ⟨r, e, report, hr, he, hok, hkinds, hpop⟩

end Cycle

end GatewayFeed
