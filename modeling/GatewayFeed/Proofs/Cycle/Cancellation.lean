import GatewayFeed.Proofs.Cycle.Decision
import GatewayFeed.Proofs.Cycle.Polls
import GatewayFeed.Proofs.Cycle.Slots

/-! What a cycle does once it is cancelled, be it by a rejection, by the deadline or by the shutdown. No
fetch makes another attempt or waits for one: a fetch that has not ended reports that it was cancelled, and
one that has keeps its outcome. The barrier gets a result for each dataset all the same, and soon, because
every step then pays off a part of what the cycle owes. -/

namespace GatewayFeed

namespace Worker

/-- How a fetch ends that goes no further than it has come. -/
def halted : Worker → Fetcher.Fetched
  | waiting n => ⟨n + 1, none⟩
  | trying n => ⟨n, none⟩
  | ended x => x
  | reported x => x

/-- What becomes of a worker that makes no more attempts. -/
inductive Halts (w : Worker) : Worker → Prop
  | stays : Halts w w
  | ends (h : ∀ x, w ≠ reported x) : Halts w (ended w.halted)
  | reports : Halts w (reported w.halted)

theorem Halts.trans {w w' w'' : Worker} (h : w.Halts w') (h' : w'.Halts w'') : w.Halts w'' := by
  cases h with
  | stays => exact h'
  | ends hw =>
    cases h' with
    | stays => exact .ends hw
    | ends _ => exact .ends hw
    | reports => exact .reports
  | reports =>
    cases h' with
    | stays => exact .reports
    | ends hw => exact absurd rfl (hw _)
    | reports => exact .reports

theorem Halts.eq_halted {w : Worker} {x : Fetcher.Fetched} (h : w.Halts (reported x)) : x = w.halted := by
  cases h with
  | stays => rfl
  | reports => rfl

end Worker

namespace Barrier

theorem cancelled_receive_of_cancelled {c : Collected} (h : c.cancelled = true) (r : FetchResult) :
    (receive c r).cancelled = true := by
  obtain ⟨e, o⟩ := r
  cases o with
  | ok p => cases hp : Collection.decode e.kind p <;> simpa [receive, fail, hp] using h
  | error x =>
    cases x with
    | unauthorized s => by_cases hr : c.rejection.isSome = true <;> simp [receive, fail, reject, hr, h]
    | _ => exact h

end Barrier

namespace Race

variable {es : List Endpoint} {r₀ r r' : Race} {i : Nat} {d : Endpoint} {w : Worker} {a : Act}
  {q : Poll} {qs : List Poll} {as : List Act}

/-- A token that is cancelled stays so. -/
theorem cancelled_step (hs : Step r a r') (hc : r.cancelled = true) : r'.cancelled = true := by
  rw [cancelled, Bool.or_eq_true] at hc
  have hkeep : ∀ {r' : Race}, (r.collected.cancelled = true → r'.collected.cancelled = true) →
      r'.shutdown = r.shutdown → r'.cancelled = true := by
    intro r' hcollected hshutdown
    rw [cancelled, Bool.or_eq_true, hshutdown]
    exact hc.imp_left hcollected
  cases hs with
  | receive hq hw =>
    refine hkeep (fun h => ?_) rfl
    exact (collected_see_result hw _).symm ▸ Barrier.cancelled_receive_of_cancelled h _
  | deadline hw hd => exact hkeep (fun _ => by rw [collected_see_deadline hw hd]; rfl) rfl
  | hangUp hw hr hq => exact hkeep (fun h => (collected_see_closed hw).symm ▸ h) rfl
  | shutdown => simp [cancelled]
  | report hi => exact hkeep (fun h => (collected_setWorker ..).symm ▸ h) rfl
  | conclude hw => exact hkeep id rfl
  | _ => exact hkeep (fun h => (collected_setWorker ..).symm ▸ h) rfl

theorem halts_setWorker {j : Nat} {e : Endpoint} {v v' : Worker} (hj : r.workers[j]? = some (e, v))
    (hv : v.Halts v') (hi : r.workers[i]? = some (d, w)) :
    ∃ w', (r.setWorker j e v').workers[i]? = some (d, w') ∧ w.Halts w' := by
  by_cases hij : i = j
  · subst hij
    rw [hj] at hi
    cases hi
    exact ⟨v', getElem?_set_of_some hj _, hv⟩
  · exact ⟨w, (List.getElem?_set_ne fun h => hij h.symm).trans hi, .stays⟩

theorem halts_step (hs : Step r a r') (hc : r.cancelled = true) (hi : r.workers[i]? = some (d, w)) :
    ∃ w', r'.workers[i]? = some (d, w') ∧ w.Halts w' := by
  cases hs with
  | start hj hn =>
    rw [hc] at hn
    cases hn
  | answer hj ho hn =>
    rw [hc] at hn
    cases hn
  | stopWaiting hj _ => exact halts_setWorker hj (.ends nofun) hi
  | stopTrying hj _ => exact halts_setWorker hj (.ends nofun) hi
  | report hj => exact halts_setWorker hj .reports hi
  | _ => exact ⟨w, hi, .stays⟩

theorem halts_run (h : r.run as = some r') (hc : r.cancelled = true) (hi : r.workers[i]? = some (d, w)) :
    ∃ w', r'.workers[i]? = some (d, w') ∧ w.Halts w' := by
  have hboth : r'.cancelled = true ∧ ∃ w', r'.workers[i]? = some (d, w') ∧ w.Halts w' := by
    refine run_induction (P := fun r' => r'.cancelled = true ∧ ∃ w', r'.workers[i]? = some (d, w') ∧ w.Halts w')
      ?_ h ⟨hc, w, hi, .stays⟩
    rintro r₁ r₂ a - hs ⟨hc, w', hi', hw⟩
    obtain ⟨w'', hi'', hw'⟩ := halts_step hs hc hi'
    exact ⟨cancelled_step hs hc, w'', hi'', hw.trans hw'⟩
  exact hboth.2

theorem cancelled_of_poll (hc : r.cancelled = true) (h : r.poll q = some r') : r'.cancelled = true :=
  cancelled_step (step_of_eq_some (step_late hc h)).2 hc

theorem run_late (hc : r.cancelled = true) (h : r.polls qs = some r') : r.run (qs.map Poll.late) = some r' := by
  induction qs generalizing r with
  | nil => exact h
  | cons q qs ih =>
    obtain ⟨r₁, h₁, h₂⟩ := foldlM_cons_eq_some h
    exact foldlM_cons (step_late hc h₁) (ih (cancelled_of_poll hc h₁) h₂)

/-- Only telling a cancelled cycle once more to stop can be done for ever. -/
def Poll.tellsToStop : Poll → Bool
  | other .shutdown => true
  | _ => false

theorem isUnaided_late (hc : r.cancelled = true) (hs : Step r q.late r') (hq : q.tellsToStop = false) :
    q.late.isUnaided = true := by
  cases q with
  | fetch i found => rfl
  | other a =>
    cases hs with
    | start hi hn =>
      rw [hc] at hn
      cases hn
    | answer hi ho hn =>
      rw [hc] at hn
      cases hn
    | shutdown => cases hq
    | _ => rfl

/-- However a cancelled cycle goes on, what it owes bounds how long it does. -/
theorem length_polls_le (hsound : Sound es r) (hc : r.cancelled = true) (h : r.polls qs = some r') :
    (qs.filter (!·.tellsToStop)).length + r'.owed ≤ r.owed := by
  induction qs generalizing r with
  | nil =>
    cases h
    exact Nat.le_of_eq (Nat.zero_add _)
  | cons q qs ih =>
    obtain ⟨r₁, h₁, h₂⟩ := foldlM_cons_eq_some h
    obtain ⟨he, hs⟩ := step_of_eq_some (step_late hc h₁)
    have hrest := ih (sound_step hs hsound) (cancelled_of_poll hc h₁) h₂
    cases hq : q.tellsToStop with
    | true =>
      have hsame : r₁.owed = r.owed := by
        cases q with
        | fetch i found => cases hq
        | other a =>
          cases a with
          | shutdown =>
            cases hs
            rfl
          | _ => cases hq
      rw [List.filter_cons, hq, if_neg (by decide)]
      omega
    | false =>
      have hlt := owed_step_lt hsound he hs (isUnaided_late hc hs hq)
      rw [List.filter_cons, hq, if_pos (by decide), List.length_cons]
      omega

theorem exists_poll_of_cancelled (hsound : Sound es r) (hc : r.cancelled = true) (he : r.ending = none) :
    ∃ q r', q.tellsToStop = false ∧ r.poll q = some r' := by
  obtain ⟨a, r', ha, hs⟩ := exists_unaided hsound
  obtain ⟨q, hq, h⟩ := exists_poll hc hs he
  refine ⟨q, r', ?_, h⟩
  cases q with
  | fetch i found => rfl
  | other b =>
    cases hq
    cases b <;> first | rfl | cases ha

theorem reported_of_allReported {v : Endpoint × Worker} (h : r.allReported = true) (hv : v ∈ r.workers) :
    ∃ x, v.2 = .reported x := by
  have hsome := List.all_eq_true.1 h v hv
  obtain ⟨d, w⟩ := v
  cases w with
  | reported x => exact ⟨x, rfl⟩
  | _ => cases hsome

/-- At its end a cycle has received one result from each fetch. -/
theorem received_of_reported {p : RetryPolicy} {store : Store} {e : Cycle.Ending} {x : Fetcher.Fetched}
    (h : (begin p store Endpoint.all).run as = some r) (he : r.ending = some e)
    (hi : r.workers[i]? = some (d, .reported x)) : r.received.filter (·.endpoint = d) = [x.result d] := by
  have hsound := sound_run h (sound_begin p store Endpoint.all)
  obtain ⟨o, hconcluded⟩ := concluded_of_run h he
  have hmem := List.mem_of_getElem? hi
  have hall : d ∈ Endpoint.all := hsound.endpoints ▸ List.mem_map_of_mem hmem
  obtain ⟨k, -, rfl⟩ := List.mem_map.1 hall
  have hlookup : r.workers.lookup (.ofKind k) = some (.reported x) :=
    lookup_of_mem (hsound.endpoints.symm ▸ nodup_endpoints) hmem
  have houtcome := hconcluded.outcome k
  rw [outcome?, hlookup] at houtcome
  have hresult : x.result (.ofKind k) = ⟨.ofKind k, o k⟩ := by
    rw [← Option.some.inj houtcome]
    rfl
  have hone : (Kind.all.map fun k => (⟨.ofKind k, o k⟩ : FetchResult)).filter (·.endpoint = .ofKind k) =
      [⟨.ofKind k, o k⟩] := by
    have hkind : Kind.all.filter (fun j => decide (Endpoint.ofKind j = .ofKind k)) = [k] := by
      cases k <;> decide
    rw [List.filter_map]
    change (Kind.all.filter fun j => decide (Endpoint.ofKind j = .ofKind k)).map _ = _
    rw [hkind, List.map_singleton]
  have hperm := hconcluded.arrived.filter (·.endpoint = .ofKind k)
  rw [hone, arrived_eq_received h] at hperm
  rw [hresult]
  exact List.perm_singleton.1 hperm

theorem shutdown_run (h : r.run as = some r') (hs : r.shutdown = true) : r'.shutdown = true := by
  refine run_induction (P := fun r => r.shutdown = true) ?_ h hs
  rintro r₁ r₂ a - hstep h₁
  cases hstep with
  | shutdown => rfl
  | _ => exact h₁

/-- Where no fetch has come beyond its first attempt without an outcome, all results are the same. -/
theorem received_of_stopped {p : RetryPolicy} {store : Store}
    (h : (begin p store es).run as = some r) (hw : r.waiting = false)
    (hstopped : ∀ v ∈ r.workers, ∀ x, v.2 = .reported x → x = ⟨1, none⟩) :
    r.received.Perm (es.map Cycle.stoppedResult) := by
  have hsound := sound_run h (sound_begin p store es)
  obtain ⟨-, hall, hperm⟩ := hsound.complete hw
  have hreports : r.reports = r.workers.map fun v => Cycle.stoppedResult v.1 := by
    rw [reports, ← List.filterMap_eq_map]
    refine List.filterMap_congr fun v hv => ?_
    obtain ⟨x, hx⟩ := reported_of_allReported hall hv
    rw [hx, hstopped v hv x hx]
    rfl
  have hmap : (r.workers.map fun v => Cycle.stoppedResult v.1) = es.map Cycle.stoppedResult := by
    rw [← hsound.endpoints, List.map_map]
    rfl
  rwa [arrived_eq_received h, hreports, hmap] at hperm

/-- A fetch that was told to stop before it began has made no attempt. -/
theorem worker_of_stopped {p : RetryPolicy} {store : Store} {v : Endpoint × Worker}
    (h : ({ begin p store es with shutdown := true }).run as = some r) (hv : v ∈ r.workers) :
    v.2 = .waiting 0 ∨ v.2 = .ended ⟨1, none⟩ ∨ v.2 = .reported ⟨1, none⟩ := by
  obtain ⟨d, w'⟩ := v
  have hbegin : (begin p store es).run (.shutdown :: as) = some r := h
  have hends := (sound_run hbegin (sound_begin p store es)).endpoints
  obtain ⟨i, hi⟩ := List.getElem?_of_mem hv
  have hd : es[i]? = some d := by
    rw [← hends, List.getElem?_map, hi]
    rfl
  have hi₀ : (begin p store es).workers[i]? = some (d, .waiting 0) := by
    rw [begin, List.getElem?_map, hd]
    rfl
  obtain ⟨w, hw, hhalts⟩ := halts_run h (by simp [cancelled]) hi₀
  cases hi.symm.trans hw
  cases hhalts with
  | stays => exact .inl rfl
  | ends _ => exact .inr (.inl rfl)
  | reports => exact .inr (.inr rfl)

theorem result_of_stopped {p : RetryPolicy} {store : Store} {e : Cycle.Ending}
    (h : ({ begin p store Endpoint.all with shutdown := true }).run as = some r) (he : r.ending = some e) :
    r.received.Perm (Endpoint.all.map Cycle.stoppedResult) ∧ e.result = .error .cancelled ∧ e.store = store := by
  have hbegin : (begin p store Endpoint.all).run (.shutdown :: as) = some r := h
  have hsettled : Settled store r :=
    run_induction settled_step hbegin ⟨fun _ => rfl, fun _ hc => (by cases hc)⟩
  obtain ⟨hw, hend, -⟩ := hsettled.after e he
  have hperm : r.received.Perm (Endpoint.all.map Cycle.stoppedResult) := by
    refine received_of_stopped hbegin hw fun v hv x hx => ?_
    rcases worker_of_stopped h hv with hv | hv | hv <;> rw [hx] at hv <;> cases hv
    rfl
  have hnone : r.gathered.rejection = none := by
    have haccounts : r.gathered.rejection = r.received.findSome? FetchResult.rejection? :=
      arrived_eq_received hbegin ▸ r.accounts.rejection
    rw [haccounts, List.findSome?_eq_none_iff]
    intro x hx
    obtain ⟨d, -, rfl⟩ := List.mem_map.1 (hperm.mem_iff.1 hx)
    rfl
  have hresult : e.result = .error .cancelled := by
    rw [hend, Cycle.result_conclude_cancelled]
    exact ⟨hnone, shutdown_run h rfl⟩
  exact ⟨hperm, hresult, hend ▸ Cycle.store_conclude_of_error (hend ▸ hresult)⟩

/-- A fetch in a delay, one in its first attempt, one whose result is sent, one whose result is not, and two
that have not begun, when the deadline passes. -/
def pollsUntilDeadline : List Poll :=
  [.fetch 0 [.delayOver, .answered (.error (.httpStatus 503))], .fetch 1 [.delayOver],
    .fetch 2 [.delayOver, .answered (.ok [])], .other (.report 2),
    .fetch 3 [.delayOver, .answered (.error (.httpStatus 404))], .other .deadline]

def pollsToEnd : List Poll :=
  [.fetch 0 [.delayOver, .answered (.ok [])], .other (.report 3), .fetch 5 [], .other .receive,
    .fetch 1 [.answered (.ok [])], .other (.report 1), .fetch 4 [.delayOver], .other .receive, .other (.report 0),
    .other .receive, .other (.report 4), .other (.report 5), .other .receive, .other .receive, .other .receive,
    .other .conclude]

end Race

namespace Cycle

open Race

/-- A cycle that is told to stop in time has all its fetches stopped. -/
theorem fetches_of_reached {f : Fetcher} {server : Fetch.Server} {stop : Stop} {es : List Endpoint}
    (h : stop.reached (fetches f server stop es).2.2 = true) :
    (fetches f server stop es).1 = es.map fun e => .result (stoppedResult e) := by
  unfold fetches at h ⊢
  by_cases hbefore : stop = .before
  · rw [if_pos hbefore]
  · rw [if_neg hbefore] at h ⊢
    generalize f.fetchAll server es [] = ended at h ⊢
    obtain ⟨xs, t⟩ := ended
    by_cases hreached : stop.reached t = true
    · simp only [hreached, if_true]
    · simp only [hreached] at h
      exact absurd h hreached

theorem result_of_reached {f : Fetcher} {server : Fetch.Server} {stop : Stop} {store : Store}
    (h : stop.reached (run f server stop store).2 = true) :
    (run f server stop store).1.result = .error .cancelled ∧ (run f server stop store).1.store = store := by
  obtain ⟨c, hc, hrun⟩ : ∃ c : Collected,
      c.rejection = (Barrier.collect Endpoint.all.length {} (fetches f server stop Endpoint.all).1).rejection ∧
      (run f server stop store).1 = conclude store c (stop.reached (run f server stop store).2) :=
    ⟨{ Barrier.collect Endpoint.all.length {} (fetches f server stop Endpoint.all).1 with
        recorded := (fetches f server stop Endpoint.all).2.1 ++
          (Barrier.collect Endpoint.all.length {} (fetches f server stop Endpoint.all).1).recorded }, rfl, rfl⟩
  have hnone : c.rejection = none := by
    have htraffic : (run f server stop store).2 = (fetches f server stop Endpoint.all).2.2 := rfl
    rw [htraffic] at h
    rw [hc, fetches_of_reached h]
    rfl
  have hresult : (conclude store c true).result = .error .cancelled := result_conclude_cancelled.2 ⟨hnone, rfl⟩
  rw [hrun, h]
  exact ⟨hresult, store_conclude_of_error hresult⟩

/-- Whatever has happened in a cycle until its token is cancelled, and in whatever order it is polled
afterwards: no fetch makes another attempt or waits for one, and one that was ended or has reported keeps
its result. What the cycle owes when it is cancelled bounds the number of polls that follow, and until its
end there always is one. At the end the barrier has one result from each dataset, which is that the fetch
was cancelled if it had not ended before. A cycle that is cancelled before it begins makes no attempt at
all, all its results say so, and it leaves the store as it was. -/
theorem cancelled_cycle_halts {policy : RetryPolicy} {store : Store} {ps qs : List Poll} {r₁ r : Race}
    (h₁ : ((Call.loadWith policy).start store).polls ps = some r₁) (hc : r₁.cancelled = true)
    (h : r₁.polls qs = some r) :
    (∀ (i : Nat) d w, r₁.workers[i]? = some (d, w) → ∃ w', r.workers[i]? = some (d, w') ∧ w.Halts w') ∧
    (qs.filter (!·.tellsToStop)).length ≤ r₁.owed ∧
    (r.ending = none → ∃ q r', q.tellsToStop = false ∧ r.poll q = some r') ∧
    (∀ e, r.ending = some e →
      (r.received.map (·.endpoint)).Perm Endpoint.all ∧
      ∀ d w, (d, w) ∈ r₁.workers → r.received.filter (·.endpoint = d) = [w.halted.result d]) ∧
    (ps = [.other .shutdown] →
      (∀ v ∈ r.workers, v.2 = .waiting 0 ∨ v.2 = .ended ⟨1, none⟩ ∨ v.2 = .reported ⟨1, none⟩) ∧
      r.store = store ∧
      ∀ e, r.ending = some e → r.received.Perm (Endpoint.all.map stoppedResult) ∧
        e.result = .error .cancelled ∧ e.store = store) := by
  obtain ⟨as, has⟩ := exists_run_of_polls h₁
  have hsound₁ : Sound Endpoint.all r₁ := sound_run has (sound_begin policy store Endpoint.all)
  have hlate := run_late hc h
  have hrun : (begin policy store Endpoint.all).run (as ++ qs.map Poll.late) = some r := foldlM_append has hlate
  have hsound : Sound Endpoint.all r := sound_run hlate hsound₁
  have hcancelled : r.cancelled = true :=
    run_induction (P := fun r => r.cancelled = true) (fun _ hs hc => cancelled_step hs hc) hlate hc
  have hsettled : Settled store r :=
    run_induction settled_step hrun ⟨fun _ => rfl, fun _ he => (by cases he)⟩
  refine ⟨fun i d w hi => halts_run hlate hc hi, ?_, fun he => exists_poll_of_cancelled hsound hcancelled he, ?_, ?_⟩
  · have hle := length_polls_le hsound₁ hc h
    omega
  · intro e he
    obtain ⟨o, hconcluded⟩ := concluded_of_run hrun he
    refine ⟨?_, fun d w hw => ?_⟩
    · have hperm := hconcluded.arrived.map (·.endpoint)
      rw [arrived_eq_received hrun, List.map_map] at hperm
      exact hperm
    · obtain ⟨i, hi⟩ := List.getElem?_of_mem hw
      obtain ⟨w', hi', hhalts⟩ := halts_run hlate hc hi
      obtain ⟨hw, -, -⟩ := hsettled.after e he
      obtain ⟨x, rfl⟩ := reported_of_allReported (hsound.complete hw).2.1 (List.mem_of_getElem? hi')
      rw [received_of_reported hrun he hi', hhalts.eq_halted]
  · rintro rfl
    have hr₁ : { begin policy store Endpoint.all with shutdown := true } = r₁ := Option.some.inj h₁
    subst hr₁
    refine ⟨fun v hv => worker_of_stopped hlate hv, ?_, fun e he => result_of_stopped hlate he⟩
    cases he : r.ending with
    | none => exact hsettled.before he
    | some e => exact (hsettled.after e he).2.2.trans (result_of_stopped hlate he).2.2

theorem cancelled_cycle_halts_at_deadline :
    ∃ r₁ r e, ((Call.loadWith ⟨3, .zero, .zero⟩).start .empty).polls pollsUntilDeadline = some r₁ ∧
      r₁.cancelled = true ∧ r₁.polls pollsToEnd = some r ∧ r.ending = some e ∧
      (r.received.map (·.endpoint)).Perm Endpoint.all ∧
      r.received.filter (·.endpoint = .ofKind .subscriptions) = [stoppedResult (.ofKind .subscriptions)] := by
  have hrun : (((Call.loadWith ⟨3, .zero, .zero⟩).start .empty).polls pollsUntilDeadline).bind (fun r₁ =>
      (r₁.polls pollsToEnd).bind fun r => r.ending.bind fun _ => (r₁.workers[0]?).map fun v =>
        (r₁.cancelled, v.1, v.2.halted.outcome.isNone)) = some (true, .ofKind .subscriptions, true) := by
    decide +kernel
  obtain ⟨r₁, h₁, hrun⟩ := Option.bind_eq_some_iff.1 hrun
  obtain ⟨r, h, hrun⟩ := Option.bind_eq_some_iff.1 hrun
  obtain ⟨e, he, hrun⟩ := Option.bind_eq_some_iff.1 hrun
  obtain ⟨⟨d, w⟩, hw, hrun⟩ := Option.map_eq_some_iff.1 hrun
  obtain ⟨hc, rfl, hnone⟩ := Prod.ext_iff.1 hrun |>.imp_right Prod.ext_iff.1
  obtain ⟨-, -, -, hending, -⟩ := cancelled_cycle_halts h₁ hc h
  obtain ⟨hall, hresult⟩ := hending e he
  refine ⟨r₁, r, e, h₁, hc, h, he, hall, ?_⟩
  rw [hresult _ w (List.mem_of_getElem? hw), Fetcher.Fetched.result, Option.isNone_iff_eq_none.1 hnone]
  rfl

end Cycle

end GatewayFeed
