import GatewayFeed.Proofs.Cycle.Ending
import GatewayFeed.Proofs.Cycle.Progress

/-! How a cycle is decided. The earliest rejection that the barrier took counts before anything else, a
shutdown counts before what was collected, and only a cycle with neither gives a report. A rejection
cancels the cycle at once, and the barrier goes on until it has the result of every dataset. -/

namespace GatewayFeed

namespace FetchResult

theorem rejection?_eq_some_iff {x : FetchResult} {q : Rejection} :
    x.rejection? = some q ↔ x = ⟨q.endpoint, .error (.unauthorized q.status)⟩ := by
  obtain ⟨e, o⟩ := x
  obtain ⟨d, s⟩ := q
  cases o with
  | ok p => simp
  | error f => cases f <;> simp [rejection?]

theorem rejection?_eq_none_iff {x : FetchResult} :
    x.rejection? = none ↔ ∀ s, x.outcome ≠ .error (.unauthorized s) := by
  obtain ⟨e, o⟩ := x
  cases o with
  | ok p => simp
  | error f => cases f <;> simp [rejection?]

end FetchResult

namespace Cycle

variable {store : Store} {c : Collected} {stopped : Bool}

theorem result_conclude_unauthorized {q : Rejection} :
    (conclude store c stopped).result = .error (.unauthorized q) ↔ c.rejection = some q := by
  rcases conclude_cases store c stopped with ⟨q', hr, hc⟩ | ⟨hr, -, hc⟩ | ⟨hr, -, hc⟩
  · rw [hc]
    simp [hr, failed]
  · rw [hc]
    simp [hr, failed]
  · rw [hc]
    simp [hr, published]

theorem result_conclude_cancelled :
    (conclude store c stopped).result = .error .cancelled ↔ c.rejection = none ∧ stopped = true := by
  rcases conclude_cases store c stopped with ⟨q', hr, hc⟩ | ⟨hr, hs, hc⟩ | ⟨hr, hs, hc⟩
  · rw [hc]
    simp [hr, failed]
  · rw [hc]
    simp [hr, hs, failed]
  · rw [hc]
    simp [hs, published]

theorem exists_report_conclude :
    (∃ report, (conclude store c stopped).result = .ok report) ↔ c.rejection = none ∧ stopped = false := by
  rcases conclude_cases store c stopped with ⟨q', hr, hc⟩ | ⟨hr, hs, hc⟩ | ⟨hr, hs, hc⟩
  · rw [hc]
    simp [hr, failed]
  · rw [hc]
    simp [hs, failed]
  · rw [hc]
    simp [hr, hs, published]

end Cycle

namespace Race

variable {es : List Endpoint} {r r' : Race}

/-- The results that the barrier has seen, in the order of their arrival. -/
def received (r : Race) : List FetchResult := r.seen.filterMap Barrier.Event.result?

/-- Whether the barrier has seen a result that rejects the credentials. -/
def Rejected (r : Race) : Prop := ∃ x ∈ r.received, ∃ s, x.outcome = .error (.unauthorized s)

/-- The rejection with no other before it. -/
def FirstRejection (r : Race) (q : Rejection) : Prop :=
  ∃ before after, r.received = before ++ ⟨q.endpoint, .error (.unauthorized q.status)⟩ :: after ∧
    ∀ x ∈ before, ∀ s, x.outcome ≠ .error (.unauthorized s)

theorem received_see (r : Race) (e : Barrier.Event) :
    (r.see e).received = r.received ++ e.result?.toList := by
  rw [received, see, List.filterMap_append, ← received]
  cases e <;> rfl

theorem arrived_see_closed (hw : r.waiting = true) : (r.see .closed).arrived = r.arrived := by
  rw [arrived_see hw]
  cases r.workers.length - r.arrived.length <;> simp [Barrier.taken]

/-- A barrier that sees only what it waits for takes every result that it sees. -/
theorem arrived_eq_received_step {a : Act} (hs : Step r a r') (h : r.arrived = r.received) :
    r'.arrived = r'.received := by
  cases hs with
  | @receive x rest hq hw =>
    calc (r.see (.result x)).arrived = r.arrived ++ [x] := arrived_see_result hw x
      _ = r.received ++ [x] := by rw [h]
      _ = (r.see (.result x)).received := (received_see r (.result x)).symm
  | deadline hw hd => rw [arrived_see_deadline hw, received_see, h]; exact (List.append_nil _).symm
  | hangUp hw hr hq => rw [arrived_see_closed hw, received_see, h]; exact (List.append_nil _).symm
  | report hi => exact (arrived_setWorker ..).trans h
  | shutdown => exact h
  | conclude hw => exact h
  | _ => exact (arrived_setWorker ..).trans h

theorem arrived_eq_received {p : RetryPolicy} {store : Store} {as : List Act}
    (h : (begin p store es).run as = some r) : r.arrived = r.received := by
  refine run_induction (P := fun r => r.arrived = r.received)
    (fun _ hs h => arrived_eq_received_step hs h) h ?_
  simp [arrived, received, begin]

theorem firstRejection_iff {q : Rejection} :
    r.FirstRejection q ↔ r.received.findSome? FetchResult.rejection? = some q := by
  rw [List.findSome?_eq_some_iff]
  simp only [FirstRejection, FetchResult.rejection?_eq_some_iff, FetchResult.rejection?_eq_none_iff]
  constructor
  · rintro ⟨before, after, h, hbefore⟩
    exact ⟨before, _, after, h, rfl, hbefore⟩
  · rintro ⟨before, x, after, h, rfl, hbefore⟩
    exact ⟨before, after, h, hbefore⟩

theorem rejected_iff : r.Rejected ↔ r.received.findSome? FetchResult.rejection? ≠ none := by
  simp only [Rejected, ne_eq, List.findSome?_eq_none_iff, FetchResult.rejection?_eq_none_iff]
  push Not
  rfl

/-- The token is cancelled as soon as the barrier has seen a rejection. -/
theorem cancelled_of_rejected (ha : r.arrived = r.received) (h : r.Rejected) :
    r.collected.cancelled = true := by
  apply Barrier.cancelled_of_rejection
  rw [rejected_iff, ← ha] at h
  rw [← collected, r.accounts.rejection]
  exact Option.isSome_iff_ne_none.2 h

/-- A payload, then two rejections, after the deadline and with a shutdown between them. -/
def rejectedRun : List Act :=
  [.start 0, .start 1, .start 3, .answer 0 (.ok (Utf8.encode Fetch.emptyList.compact)), .report 0,
    .answer 3 (.error (.unauthorized 403)), .answer 1 (.error (.unauthorized 401)), .report 3, .report 1,
    .deadline, .receive, .receive, .shutdown, .stop 2, .stop 4, .report 4, .receive, .stop 5, .report 2,
    .report 5, .receive, .receive, .receive, .conclude]

end Race

namespace Cycle

/-- Whatever the control plane answers, in whatever order results, the deadline and a shutdown come: a
cycle can always come to its end, a rejection cancels it at once, and at its end the barrier has taken
the result of every dataset. It then fails with the earliest rejection if there is one, otherwise as
cancelled if the shutdown was triggered, and otherwise it gives a report. -/
theorem decided_by_first_rejection {policy : RetryPolicy} {store : Store} {as : List Race.Act} {r : Race}
    (h : ((Race.Call.loadWith policy).start store).run as = some r) :
    (∃ bs r', (∀ b ∈ bs, b.isUnaided = true) ∧ r.run bs = some r' ∧ r'.ending.isSome = true) ∧
    (r.Rejected → r.collected.cancelled = true) ∧
    ∀ e, r.ending = some e →
      (∃ o : Kind → Outcome, (∀ k, r.outcome? (.ofKind k) = some (o k)) ∧
        r.received.Perm (Kind.all.map fun k => ⟨.ofKind k, o k⟩)) ∧
      ((∃ q, e.result = .error (.unauthorized q)) ↔ r.Rejected) ∧
      (∀ q, e.result = .error (.unauthorized q) ↔ r.FirstRejection q) ∧
      (e.result = .error .cancelled ↔ ¬ r.Rejected ∧ r.shutdown = true) ∧
      ((∃ report, e.result = .ok report) ↔ ¬ r.Rejected ∧ r.shutdown = false) := by
  have hreceived := Race.arrived_eq_received h
  have hsound := Race.sound_run h (Race.sound_begin policy store Endpoint.all)
  refine ⟨Race.exists_ending hsound, Race.cancelled_of_rejected hreceived, ?_⟩
  intro e he
  obtain ⟨o, hc⟩ := Race.concluded_of_run h he
  have hrejection : r.gathered.rejection = r.received.findSome? FetchResult.rejection? := by
    rw [← hreceived]
    exact r.accounts.rejection
  have hnone : r.gathered.rejection = none ↔ ¬ r.Rejected := by
    rw [hrejection, Race.rejected_iff, not_not]
  have hfirst : ∀ q, e.result = .error (.unauthorized q) ↔ r.FirstRejection q := by
    intro q
    rw [hc.ending, result_conclude_unauthorized, hrejection, Race.firstRejection_iff]
  refine ⟨⟨o, hc.outcome, hreceived ▸ hc.arrived⟩, ?_, hfirst, ?_, ?_⟩
  · simp only [hfirst, Race.firstRejection_iff, Race.rejected_iff, Option.ne_none_iff_exists']
  · rw [hc.ending, result_conclude_cancelled, hnone]
  · rw [hc.ending, exists_report_conclude, hnone]

theorem first_of_two_rejections :
    ∃ r e, ((Race.Call.loadWith .single).start .empty).run Race.rejectedRun = some r ∧
      r.ending = some e ∧ e.result = .error (.unauthorized ⟨.ofKind .apis, 403⟩) := by
  have hrun : (((Race.Call.loadWith .single).start .empty).run Race.rejectedRun).bind (fun r =>
      r.ending.bind fun _ => r.received.findSome? FetchResult.rejection?) =
        some ⟨.ofKind .apis, 403⟩ := by decide +kernel
  obtain ⟨r, hr, hrun⟩ := Option.bind_eq_some_iff.1 hrun
  obtain ⟨e, he, hq⟩ := Option.bind_eq_some_iff.1 hrun
  obtain ⟨-, -, hdecided⟩ := decided_by_first_rejection hr
  obtain ⟨-, -, hfirst, -, -⟩ := hdecided e he
  exact ⟨r, e, hr, he, (hfirst _).2 (Race.firstRejection_iff.2 hq)⟩

end Cycle

end GatewayFeed
