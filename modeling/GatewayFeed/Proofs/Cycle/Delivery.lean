import GatewayFeed.Proofs.Cycle.Race
import GatewayFeed.Proofs.Lookup

/-! Every fetch reports exactly once. What the barrier has taken and what is still in the channel
are together what the workers have sent, so a barrier that stops waiting has taken the result of
every endpoint, in whatever order they came. -/

namespace GatewayFeed

namespace Race

/-- What a single step can do. -/
inductive Step (r : Race) : Act → Race → Prop
  | start {i : Nat} {e : Endpoint} {n : Nat} (hi : r.workers[i]? = some (e, .waiting n))
      (hc : r.cancelled = false) : Step r (.start i) (r.setWorker i e (.trying (n + 1)))
  | answer {i : Nat} {e : Endpoint} {n : Nat} {o : Outcome}
      (hi : r.workers[i]? = some (e, .trying n)) (ho : o ≠ .error .cancelled)
      (hc : r.cancelled = false) :
      Step r (.answer i o) (r.setWorker i e (Worker.afterAttempt r.policy n o))
  | stopWaiting {i : Nat} {e : Endpoint} {n : Nat} (hi : r.workers[i]? = some (e, .waiting n))
      (hc : r.cancelled = true) : Step r (.stop i) (r.setWorker i e (.ended ⟨n + 1, none⟩))
  | stopTrying {i : Nat} {e : Endpoint} {n : Nat} (hi : r.workers[i]? = some (e, .trying n))
      (hc : r.cancelled = true) : Step r (.stop i) (r.setWorker i e (.ended ⟨n, none⟩))
  | report {i : Nat} {e : Endpoint} {x : Fetcher.Fetched} (hi : r.workers[i]? = some (e, .ended x)) :
      Step r (.report i) { r.setWorker i e (.reported x) with queue := r.queue ++ [x.result e] }
  | receive {x : FetchResult} {rest : List FetchResult} (hq : r.queue = x :: rest)
      (hw : r.waiting = true) : Step r .receive { r.see (.result x) with queue := rest }
  | deadline (hw : r.waiting = true) (hd : r.collected.deadlineExceeded = false) :
      Step r .deadline (r.see .deadline)
  | hangUp (hw : r.waiting = true) (hr : r.allReported = true) (hq : r.queue = []) :
      Step r .hangUp (r.see .closed)
  | shutdown : Step r .shutdown { r with shutdown := true }
  | conclude (hw : r.waiting = false) : Step r .conclude r.conclude

theorem step_of_eq_some {r r' : Race} {a : Act} (h : r.step a = some r') :
    r.ending = none ∧ Step r a r' := by
  unfold step at h
  split at h
  · cases h
  rename_i he
  refine ⟨by simpa using he, ?_⟩
  cases a with
  | start i =>
    simp only at h
    split at h
    · rename_i e n hi
      split at h
      · cases h
      · rename_i hc
        cases h
        exact .start hi (by simpa using hc)
    · cases h
  | answer i o =>
    simp only at h
    split at h
    · cases h
    · rename_i e n hi ho
      split at h
      · cases h
      · rename_i hc
        cases h
        exact .answer hi ho (by simpa using hc)
    · cases h
  | stop i =>
    simp only at h
    split at h
    · rename_i e n hi
      split at h
      · rename_i hc
        cases h
        exact .stopWaiting hi hc
      · cases h
    · rename_i e n hi
      split at h
      · rename_i hc
        cases h
        exact .stopTrying hi hc
      · cases h
    · cases h
  | report i =>
    simp only at h
    split at h
    · rename_i e x hi
      cases h
      exact .report hi
    · cases h
  | receive =>
    simp only at h
    split at h
    · rename_i x rest hq
      split at h
      · rename_i hw
        cases h
        exact .receive hq hw
      · cases h
    · cases h
  | deadline =>
    simp only at h
    split at h
    · rename_i hw
      cases h
      simp only [Bool.and_eq_true, Bool.not_eq_true'] at hw
      exact .deadline hw.1 hw.2
    · cases h
  | hangUp =>
    simp only at h
    split at h
    · rename_i hw
      cases h
      simp only [Bool.and_eq_true, List.isEmpty_iff] at hw
      exact .hangUp hw.1.1 hw.1.2 hw.2
    · cases h
  | shutdown =>
    cases h
    exact .shutdown
  | conclude =>
    simp only at h
    split at h
    · cases h
    · rename_i hw
      cases h
      exact .conclude (by simpa using hw)

theorem Step.eq_some {r r' : Race} {a : Act} (he : r.ending = none) (h : Step r a r') :
    r.step a = some r' := by
  cases h with
  | start hi hc => simp [step, he, hi, hc]
  | answer hi ho hc => simp [step, he, hi, hc]
  | stopWaiting hi hc => simp [step, he, hi, hc]
  | stopTrying hi hc => simp [step, he, hi, hc]
  | report hi => simp [step, he, hi]
  | receive hq hw => simp [step, he, hq, hw]
  | deadline hw hd => simp [step, he, hw, hd]
  | hangUp hw hr hq => simp [step, he, hw, hr, hq]
  | shutdown => simp [step, he]
  | conclude hw => simp [step, he, hw]

/-- The results that the barrier has taken, in the order in which they arrived. -/
def arrived (r : Race) : List FetchResult := Barrier.taken r.workers.length r.seen

theorem accounts (r : Race) : r.collected.Accounts r.arrived := Barrier.accounts_collect_empty _ _

theorem waiting_iff (r : Race) :
    r.waiting = true ↔ r.arrived.length < r.workers.length ∧ Barrier.Event.closed ∉ r.seen := by
  have hc : r.seen.any isClosed = true ↔ Barrier.Event.closed ∈ r.seen := by
    rw [List.any_eq_true]
    constructor
    · rintro ⟨e, he, hx⟩
      cases e <;> first | exact he | cases hx
    · exact fun h => ⟨_, h, rfl⟩
  rw [waiting, r.accounts.received, Bool.and_eq_true, decide_eq_true_iff, Bool.not_eq_true',
    ← Bool.not_eq_true, hc]

/-- What holds of a cycle at any time. -/
structure Sound (es : List Endpoint) (r : Race) : Prop where
  endpoints : r.workers.map (·.1) = es
  delivery : (r.arrived ++ r.queue).Perm r.reports
  opened : Barrier.Event.closed ∉ r.seen

@[simp] theorem arrived_setWorker (r : Race) (i : Nat) (e : Endpoint) (w : Worker) :
    (r.setWorker i e w).arrived = r.arrived := by simp [arrived, setWorker]

theorem endpoints_setWorker {r : Race} {i : Nat} {e : Endpoint} {w : Worker} (w' : Worker)
    (hi : r.workers[i]? = some (e, w)) :
    (r.setWorker i e w').workers.map (·.1) = r.workers.map (·.1) := by
  obtain ⟨hlt, he⟩ := List.getElem?_eq_some_iff.1 hi
  have hlt' : i < (r.workers.map (·.1)).length := by simpa using hlt
  have hfst : (r.workers.map (·.1))[i] = e := by simp [he]
  rw [setWorker, List.map_set]
  conv_lhs => rw [← hfst]
  exact List.set_getElem_self _

/-- Replacing an element that `f` drops adds what `f` keeps of the new one. -/
theorem filterMap_set_perm {α β : Type} {f : α → Option β} {l : List α} {i : Nat} {a : α} (b : α)
    (hi : l[i]? = some a) (ha : f a = none) :
    ((l.set i b).filterMap f).Perm ((f b).toList ++ l.filterMap f) := by
  obtain ⟨hlt, he⟩ := List.getElem?_eq_some_iff.1 hi
  have hset := (List.set_perm_cons_eraseIdx hlt b).filterMap f
  have hold := (List.getElem_cons_eraseIdx_perm hlt).filterMap f
  rw [he, List.filterMap_cons_none ha] at hold
  refine hset.trans ?_
  cases h : f b with
  | none => rw [List.filterMap_cons_none h]; exact hold
  | some x => rw [List.filterMap_cons_some h]; exact hold.cons x

/-- A worker that has not reported adds what it now reports. -/
theorem reports_setWorker {r : Race} {i : Nat} {e : Endpoint} {w : Worker} (w' : Worker)
    (hi : r.workers[i]? = some (e, w)) (hw : w.report? e = none) :
    (r.setWorker i e w').reports.Perm ((w'.report? e).toList ++ r.reports) :=
  filterMap_set_perm (e, w') hi hw

theorem sound_begin (p : RetryPolicy) (store : Store) (es : List Endpoint) :
    Sound es (begin p store es) := by
  refine ⟨?_, ?_, ?_⟩
  · simp [begin, Function.comp_def]
  · have hr : (begin p store es).reports = [] := by simp [reports, begin, Worker.report?]
    rw [hr]
    simp [arrived, begin]
  · simp [begin]

theorem sound_start (store : Store) (call : Call) : Sound Endpoint.all (call.start store) := by
  cases call with
  | loadWith p => exact sound_begin p store Endpoint.all
  | load files s =>
    have h := sound_begin (.ofSettings s.retries) store Endpoint.all
    simp only [Call.start]
    split
    · exact ⟨h.endpoints, h.delivery, h.opened⟩
    · exact h

theorem Sound.setWorker {es : List Endpoint} {r : Race} {i : Nat} {e : Endpoint} {w w' : Worker}
    (h : Sound es r) (hi : r.workers[i]? = some (e, w)) (hw : w.report? e = none)
    (hw' : w'.report? e = none) : Sound es (r.setWorker i e w') := by
  refine ⟨?_, ?_, h.opened⟩
  · rw [endpoints_setWorker w' hi]
    exact h.endpoints
  · have hr := reports_setWorker w' hi hw
    rw [hw'] at hr
    rw [arrived_setWorker]
    exact h.delivery.trans hr.symm

/-- A barrier that still waits takes a result that it sees. -/
theorem arrived_see {r : Race} (hw : r.waiting = true) (e : Barrier.Event) :
    (r.see e).arrived = r.arrived ++ Barrier.taken (r.workers.length - r.arrived.length) [e] := by
  obtain ⟨hlt, ho⟩ := (waiting_iff r).1 hw
  exact Barrier.taken_append hlt ho [e]

theorem arrived_see_result {r : Race} (hw : r.waiting = true) (x : FetchResult) :
    (r.see (.result x)).arrived = r.arrived ++ [x] := by
  obtain ⟨m, hm⟩ : ∃ m, r.workers.length - r.arrived.length = m + 1 :=
    ⟨r.workers.length - r.arrived.length - 1, by have := ((waiting_iff r).1 hw).1; omega⟩
  rw [arrived_see hw, hm, Barrier.taken, Barrier.taken_nil]

theorem arrived_see_deadline {r : Race} (hw : r.waiting = true) :
    (r.see .deadline).arrived = r.arrived := by
  obtain ⟨m, hm⟩ : ∃ m, r.workers.length - r.arrived.length = m + 1 :=
    ⟨r.workers.length - r.arrived.length - 1, by have := ((waiting_iff r).1 hw).1; omega⟩
  rw [arrived_see hw, hm, Barrier.taken, Barrier.taken_nil, List.append_nil]

theorem length_reports_of_allReported {r : Race} (h : r.allReported = true) :
    r.reports.length = r.workers.length := by
  rw [reports, List.filterMap_length_eq_length]
  simpa [allReported] using h

theorem length_reports_le (r : Race) : r.reports.length ≤ r.workers.length :=
  List.length_filterMap_le _ _

/-- As long as the barrier waits the channel cannot be exhausted. -/
theorem Sound.not_exhausted {es : List Endpoint} {r : Race} (h : Sound es r)
    (hw : r.waiting = true) (hr : r.allReported = true) : r.queue ≠ [] := by
  intro hq
  have hlen := h.delivery.length_eq
  rw [hq, List.append_nil, length_reports_of_allReported hr] at hlen
  have := ((waiting_iff r).1 hw).1
  omega

theorem sound_step {es : List Endpoint} {r r' : Race} {a : Act} (hs : Step r a r')
    (h : Sound es r) : Sound es r' := by
  cases hs with
  | start hi hc => exact h.setWorker hi rfl rfl
  | answer hi ho hc =>
    refine h.setWorker hi rfl ?_
    unfold Worker.afterAttempt
    split <;> rfl
  | stopWaiting hi hc => exact h.setWorker hi rfl rfl
  | stopTrying hi hc => exact h.setWorker hi rfl rfl
  | @report i e x hi =>
    refine ⟨?_, ?_, h.opened⟩
    · exact (endpoints_setWorker (.reported x) hi).trans h.endpoints
    · have hr := reports_setWorker (.reported x) hi rfl
      have ha := arrived_setWorker r i e (.reported x)
      calc (r.setWorker i e (.reported x)).arrived ++ (r.queue ++ [x.result e])
          = r.arrived ++ r.queue ++ [x.result e] := by rw [ha, List.append_assoc]
        _ |>.Perm (r.reports ++ [x.result e]) := h.delivery.append_right _
        _ |>.Perm ([x.result e] ++ r.reports) := List.perm_append_comm
        _ |>.Perm _ := hr.symm
  | @receive x rest hq hw =>
    refine ⟨h.endpoints, ?_, ?_⟩
    · have ha := arrived_see_result hw x
      have hd := h.delivery
      rw [hq] at hd
      change ((r.see (.result x)).arrived ++ rest).Perm r.reports
      rwa [ha, List.append_assoc, List.singleton_append]
    · simpa [see] using h.opened
  | deadline hw hd =>
    refine ⟨h.endpoints, ?_, ?_⟩
    · rw [arrived_see_deadline hw]
      exact h.delivery
    · simpa [see] using h.opened
  | hangUp hw hr hq => exact absurd hq (h.not_exhausted hw hr)
  | shutdown => exact ⟨h.endpoints, h.delivery, h.opened⟩
  | conclude hw => exact ⟨h.endpoints, h.delivery, h.opened⟩

/-- When the barrier has stopped it has taken what the workers sent, and all of them have. -/
theorem Sound.complete {es : List Endpoint} {r : Race} (h : Sound es r) (hw : r.waiting = false) :
    r.queue = [] ∧ r.allReported = true ∧ r.arrived.Perm r.reports := by
  have hge : r.workers.length ≤ r.arrived.length := by
    by_contra hlt
    exact absurd ((waiting_iff r).2 ⟨by omega, h.opened⟩) (by simp [hw])
  have hlen := h.delivery.length_eq
  rw [List.length_append] at hlen
  have hle := r.length_reports_le
  have hq : r.queue = [] := List.eq_nil_of_length_eq_zero (by omega)
  refine ⟨hq, ?_, ?_⟩
  · have hall : r.reports.length = r.workers.length := by omega
    rw [reports, List.filterMap_length_eq_length] at hall
    simpa [allReported] using hall
  · simpa [hq] using h.delivery

/-- Where no endpoint occurs twice, what the workers sent is one result for each endpoint, with the
outcome of its fetch. -/
theorem Sound.reports_eq {es : List Endpoint} {r : Race} (h : Sound es r) (hn : es.Nodup)
    (hr : r.allReported = true) :
    ∃ o : Endpoint → Outcome, (∀ e ∈ es, r.outcome? e = some (o e)) ∧
      r.reports = es.map fun e => ⟨e, o e⟩ := by
  have hn' : (r.workers.map (·.1)).Nodup := by rw [h.endpoints]; exact hn
  have houtcome : ∀ w ∈ r.workers, ∃ x : Outcome, r.outcome? w.1 = some x ∧
      w.2.report? w.1 = some ⟨w.1, x⟩ := by
    rintro ⟨e, w⟩ hw
    have hsome := List.all_eq_true.1 hr _ hw
    cases w with
    | reported x =>
      refine ⟨(x.result e).outcome, ?_, rfl⟩
      simp [outcome?, lookup_of_mem hn' hw, Worker.fetched?]
    | _ => cases hsome
  refine ⟨fun e => (r.outcome? e).getD (.error .cancelled), ?_, ?_⟩
  · intro e he
    rw [← h.endpoints] at he
    obtain ⟨w, hw, rfl⟩ := List.mem_map.1 he
    obtain ⟨x, hx, -⟩ := houtcome w hw
    simp [hx]
  · rw [← h.endpoints, List.map_map, reports, ← List.filterMap_eq_map]
    refine List.filterMap_congr fun w hw => ?_
    obtain ⟨x, hx, hrep⟩ := houtcome w hw
    simp [hx, hrep]

theorem run_cons (r : Race) (a : Act) (as : List Act) :
    r.run (a :: as) = (r.step a).bind fun r => r.run as := rfl

/-- What a step keeps holds after every run. -/
theorem run_induction {P : Race → Prop} (hstep : ∀ {r r' a}, r.ending = none → Step r a r' → P r → P r')
    {r r' : Race} {as : List Act} (h : r.run as = some r') (h0 : P r) : P r' := by
  induction as generalizing r with
  | nil => cases h; exact h0
  | cons a as ih =>
    rw [run_cons] at h
    obtain ⟨r1, h1, h2⟩ := Option.bind_eq_some_iff.1 h
    obtain ⟨he, hs⟩ := step_of_eq_some h1
    exact ih h2 (hstep he hs h0)

theorem sound_run {es : List Endpoint} {r r' : Race} {as : List Act} (h : r.run as = some r')
    (h0 : Sound es r) : Sound es r' :=
  run_induction (fun _ hs h => sound_step hs h) h h0

end Race

end GatewayFeed
