import GatewayFeed.Proofs.Cycle.Progress
import GatewayFeed.Proofs.Cycle.Report

/-! When a report counts as complete. Every dataset was then fetched and decoded, but that is not
enough: a deadline that passes while the last payloads are already on their way to the barrier cuts no
fetch short, and still the report is not complete. -/

namespace GatewayFeed

namespace Race

variable {store : Store} {o : Kind → Outcome} {r : Race} {e : Cycle.Ending}

/-- Nothing failed exactly if every kind was decoded. -/
theorem Concluded.failures_eq_nil_iff (h : Concluded store o r e) :
    r.collected.failures = [] ↔ ∀ k, k ∈ r.collected.decoded.map (·.kind) := by
  have hkinds := h.kinds_perm
  constructor
  · intro hf k
    rw [hf, List.map_nil, List.append_nil] at hkinds
    exact hkinds.mem_iff.2 (Kind.mem_all k)
  · intro hall
    -- no kind is listed twice, so none is left that could have failed
    have hnodup := hkinds.nodup_iff.2 Kind.nodup_all
    rw [List.nodup_append] at hnodup
    rw [List.eq_nil_iff_forall_not_mem]
    intro f hf
    exact hnodup.2.2 _ (hall f.endpoint.kind) _ (List.mem_map_of_mem hf) rfl

theorem isSome_collection?_iff {k : Kind} {o : Outcome} :
    (FetchResult.collection? ⟨.ofKind k, o⟩).isSome = true ↔
      ∃ p c, o = .ok p ∧ Collection.decode k p = .ok c := by
  cases o with
  | error x => simp
  | ok p =>
    rw [FetchResult.collection?_ok, kind_ofKind]
    cases hd : Collection.decode k p <;> simp [Except.toOption, hd]

theorem deadlineExceeded_start (call : Call) (store : Store) :
    (call.start store).collected.deadlineExceeded = false := by
  cases call with
  | loadWith p => rfl
  | load files s =>
    unfold Call.start
    simp only
    split <;> rfl

/-- Every dataset is answered, and one payload is taken before the deadline passes, if it does. -/
def bufferedRun (deadline : Bool) : List Act :=
  (List.range 6).flatMap (fun i => [.start i, .answer i (.ok (Utf8.encode Fetch.emptyList.compact)), .report i])
    ++ [.receive] ++ (if deadline then [.deadline] else []) ++ List.replicate 5 .receive ++ [.conclude]

end Race

namespace Cycle

/-- A report is complete exactly if all kinds are published and the deadline has not passed while the
barrier waited; and a kind is published exactly if its dataset was fetched and its payload decodes. -/
theorem isComplete_iff {call : Race.Call} {store : Store} {as : List Race.Act} {r : Race} {e : Ending}
    {report : Report} (h : (call.start store).run as = some r) (he : r.ending = some e)
    (hok : e.result = .ok report) :
    (report.isComplete = true ↔ (∀ k, k ∈ report.published) ∧ Race.Act.deadline ∉ as) ∧
    ∀ k, k ∈ report.published ↔
      ∃ p c, r.outcome? (.ofKind k) = some (.ok p) ∧ Collection.decode k p = .ok c := by
  rcases Race.ending_of_run h he with ⟨x, hx, -, -⟩ | ⟨o, hc⟩
  · rw [hx] at hok
    cases hok
  have hend : e = published store r.gathered := hc.ending.trans (conclude_of_ok (hc.ending ▸ hok))
  rw [hend] at hok
  cases hok
  constructor
  · have hdeadline : r.collected.deadlineExceeded = true ↔ Race.Act.deadline ∈ as := by
      rw [Race.deadlineExceeded_run h, Race.deadlineExceeded_start]
      simp
    change (r.collected.failures.isEmpty && !r.collected.deadlineExceeded) = true ↔ _
    rw [Bool.and_eq_true, List.isEmpty_iff, Bool.not_eq_true', ← Bool.not_eq_true, hdeadline,
      hc.failures_eq_nil_iff]
    rfl
  · intro k
    change k ∈ r.collected.decoded.map (·.kind) ↔ _
    rw [hc.mem_decoded_kinds, Race.isSome_collection?_iff, hc.outcome]
    simp

theorem isComplete_without_deadline :
    ∃ r e report, ((Race.Call.loadWith .single).start .empty).run (Race.bufferedRun false) = some r ∧
      r.ending = some e ∧ e.result = .ok report ∧ report.isComplete = true ∧ ∀ k, k ∈ report.published := by
  obtain ⟨r, e, report, hr, he, hok, hcomplete⟩ := Race.exists_report_with
    ((Race.Call.loadWith .single).start .empty) (Race.bufferedRun false) Report.isComplete (v := true)
    (by decide +kernel)
  obtain ⟨hall, -⟩ := (isComplete_iff hr he hok).1.1 hcomplete
  exact ⟨r, e, report, hr, he, hok, hcomplete, hall⟩

/-- All kinds are published and the report is not complete: the deadline passes after the first of six
payloads that are in the channel. -/
theorem published_all_not_isComplete :
    ¬ ∀ (call : Race.Call) (store : Store) (as : List Race.Act) (r : Race) (e : Ending) (report : Report),
      (call.start store).run as = some r → r.ending = some e → e.result = .ok report →
        (report.isComplete = true ↔ ∀ k, k ∈ report.published) := by
  intro hall
  obtain ⟨r, e, report, hr, he, hok, hreport⟩ := Race.exists_report_with
    ((Race.Call.loadWith .single).start .empty) (Race.bufferedRun true)
    (fun report => (report.isComplete, report.published)) (v := (false, Kind.all)) (by decide +kernel)
  rw [Prod.mk.injEq] at hreport
  obtain ⟨hcomplete, hpublished⟩ := hreport
  have hiff := hall _ _ _ r e report hr he hok
  rw [hcomplete, hpublished] at hiff
  exact absurd (hiff.2 Kind.mem_all) (by decide)

end Cycle

end GatewayFeed
