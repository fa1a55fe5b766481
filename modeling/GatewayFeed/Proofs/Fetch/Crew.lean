import GatewayFeed.Proofs.Cycle.Progress
import GatewayFeed.Proofs.Fetch.Task
import GatewayFeed.Proofs.Run

/-! Fetches of several datasets, one task each, that run side by side and send their results into one channel.
However their steps fall and whenever the token is cancelled, each task sends one result and measures one
outcome, and no task ever has to wait for room in the channel. -/

namespace GatewayFeed

structure Crew where
  policy : RetryPolicy
  capacity : Nat
  tasks : List Task
  queue : List FetchResult := []
  /-- What the receiver has been given. -/
  yielded : List FetchResult := []
  cancelled : Bool := false
  /-- Whether the receiver has been told that nothing more comes. -/
  closed : Bool := false

namespace Crew

/-- Tasks go by their position in the list. -/
inductive Act where
  | task (i : Nat) (a : Task.Act)
  | send (i : Nat)
  | receive
  | cancel

def setTask (c : Crew) (i : Nat) (t : Task) : Crew := { c with tasks := c.tasks.set i t }

def allReported (c : Crew) : Bool := c.tasks.all fun t => t.report?.isSome

def step (c : Crew) : Act → Option Crew
  | .task i a =>
    match c.tasks[i]? with
    | some t => (t.step c.policy c.cancelled a).map (c.setTask i)
    | none => none
  | .send i =>
    match c.tasks[i]? with
    | some t =>
      match t.worker with
      | .ended x =>
        if c.queue.length < c.capacity then
          some { c.setTask i { t with worker := .reported x } with queue := c.queue ++ [x.result t.endpoint] }
        else none
      | _ => none
    | none => none
  | .receive =>
    match c.queue with
    | x :: rest => some { c with queue := rest, yielded := c.yielded ++ [x] }
    -- the channel is closed once no task is left that can send
    | [] => if c.allReported && !c.closed then some { c with closed := true } else none
  | .cancel => some { c with cancelled := true }

def run (c : Crew) (as : List Act) : Option Crew := as.foldlM step c

/-- The channel has room for one result of each task. -/
def begin (policy : RetryPolicy) (es : List Endpoint) : Crew where
  policy
  capacity := max es.length 1
  tasks := es.map fun e => { endpoint := e }

/-- What a single step can do. -/
inductive Step (c : Crew) : Act → Crew → Prop
  | task {i : Nat} {t t' : Task} {a : Task.Act} (hi : c.tasks[i]? = some t)
      (hs : Task.Step c.policy c.cancelled t a t') : Step c (.task i a) (c.setTask i t')
  | send {i : Nat} {t : Task} {x : Fetcher.Fetched} (hi : c.tasks[i]? = some t) (hw : t.worker = .ended x)
      (hroom : c.queue.length < c.capacity) :
      Step c (.send i)
        { c.setTask i { t with worker := .reported x } with queue := c.queue ++ [x.result t.endpoint] }
  | receive {x : FetchResult} {rest : List FetchResult} (hq : c.queue = x :: rest) :
      Step c .receive { c with queue := rest, yielded := c.yielded ++ [x] }
  | close (hq : c.queue = []) (hr : c.allReported = true) (ho : c.closed = false) :
      Step c .receive { c with closed := true }
  | cancel : Step c .cancel { c with cancelled := true }

variable {es : List Endpoint} {p : RetryPolicy} {c c' : Crew} {a : Act} {as : List Act}

theorem Step.eq_some (h : Step c a c') : c.step a = some c' := by
  cases h with
  | task hi hs => simp [step, hi, hs.eq_some]
  | send hi hw hroom => simp [step, hi, hw, hroom]
  | receive hq => simp [step, hq]
  | close hq hr ho => simp [step, hq, hr, ho]
  | cancel => rfl

theorem step_of_eq_some (h : c.step a = some c') : Step c a c' := by
  cases a with
  | task i a =>
    simp only [step] at h
    split at h
    · rename_i t hi
      obtain ⟨t', ht, rfl⟩ := Option.map_eq_some_iff.1 h
      exact .task hi (Task.step_of_eq_some ht)
    · cases h
  | send i =>
    simp only [step] at h
    split at h
    · rename_i t hi
      split at h
      · rename_i x hw
        split at h
        · rename_i hroom
          cases h
          exact .send hi hw hroom
        · cases h
      · cases h
    · cases h
  | receive =>
    simp only [step] at h
    split at h
    · rename_i x rest hq
      cases h
      exact .receive hq
    · rename_i hq
      simp only [Option.ite_none_right_eq_some, Bool.and_eq_true, Bool.not_eq_true'] at h
      obtain ⟨⟨hr, ho⟩, ⟨⟩⟩ := h
      exact .close hq hr ho
  | cancel =>
    cases h
    exact .cancel

def reports (c : Crew) : List FetchResult := c.tasks.filterMap Task.report?

/-- What holds at any time. -/
structure Sound (es : List Endpoint) (c : Crew) : Prop where
  endpoints : c.tasks.map (·.endpoint) = es
  tasks : ∀ t ∈ c.tasks, t.Sound c.policy
  capacity : c.capacity = max es.length 1
  delivery : (c.yielded ++ c.queue).Perm c.reports
  closed : c.closed = true → c.allReported = true ∧ c.queue = []

theorem sound_begin (p : RetryPolicy) (es : List Endpoint) : Sound es (begin p es) where
  endpoints := by simp [begin, Function.comp_def]
  tasks t ht := by
    obtain ⟨e, -, rfl⟩ := List.mem_map.1 ht
    exact Task.sound_new p e
  capacity := rfl
  delivery := by
    have hreports : (begin p es).reports = [] := by simp [reports, begin, Task.report?, Worker.report?]
    rw [hreports]
    exact .refl _
  closed := nofun

theorem not_allReported {i : Nat} {t : Task} (hi : c.tasks[i]? = some t) (ht : t.report? = none) :
    c.allReported = false := by
  rw [allReported, List.all_eq_false]
  exact ⟨t, List.mem_of_getElem? hi, by simp [ht]⟩

theorem sound_step (hs : Step c a c') (h : Sound es c) : Sound es c' := by
  cases hs with
  | @task i t t' a hi hs =>
    have ht := h.tasks t (List.mem_of_getElem? hi)
    have hnone := Task.report?_eq_none (Task.not_hasEnded_of_step ht hs)
    have hreports : (c.setTask i t').reports.Perm c.reports := by
      have hperm := Race.filterMap_set_perm (f := Task.report?) t' hi hnone
      rwa [Task.report?_step ht hs] at hperm
    refine ⟨?_, fun t₁ ht₁ => ?_, h.capacity, h.delivery.trans hreports.symm, fun hc => ?_⟩
    · exact (map_set_of_some hi (Task.endpoint_step hs)).trans h.endpoints
    · rcases List.mem_or_eq_of_mem_set ht₁ with ht₁ | rfl
      · exact h.tasks t₁ ht₁
      · exact Task.sound_step hs ht
    · cases (not_allReported hi hnone).symm.trans (h.closed hc).1
  | @send i t x hi hw hroom =>
    have ht := h.tasks t (List.mem_of_getElem? hi)
    have hnone := Task.report?_of_ended hw
    refine ⟨?_, fun t₁ ht₁ => ?_, h.capacity, ?_, fun hc => ?_⟩
    · exact (map_set_of_some (d := { t with worker := .reported x }) hi rfl).trans h.endpoints
    · rcases List.mem_or_eq_of_mem_set ht₁ with ht₁ | rfl
      · exact h.tasks t₁ ht₁
      · exact Task.sound_reported ht hw
    · have hperm := Race.filterMap_set_perm (f := Task.report?) { t with worker := .reported x } hi hnone
      rw [← List.append_assoc]
      exact (h.delivery.append_right _).trans (List.perm_append_comm.trans hperm.symm)
    · cases (not_allReported hi hnone).symm.trans (h.closed hc).1
  | @receive x rest hq =>
    refine ⟨h.endpoints, h.tasks, h.capacity, ?_, fun hc => ?_⟩
    · change (c.yielded ++ [x] ++ rest).Perm c.reports
      simpa [hq] using h.delivery
    · cases hq.symm.trans (h.closed hc).2
  | close hq hr ho => exact ⟨h.endpoints, h.tasks, h.capacity, h.delivery, fun _ => ⟨hr, hq⟩⟩
  | cancel => exact ⟨h.endpoints, h.tasks, h.capacity, h.delivery, h.closed⟩

theorem sound_run (h : c.run as = some c') (h0 : Sound es c) : Sound es c' :=
  foldlM_induction (fun hs h => sound_step (step_of_eq_some hs) h) h h0

theorem length_reports_le (c : Crew) : c.reports.length ≤ c.tasks.length :=
  List.length_filterMap_le _ _

theorem length_reports_lt {i : Nat} {t : Task} (hi : c.tasks[i]? = some t) (ht : t.report? = none) :
    c.reports.length < c.tasks.length := by
  refine Nat.lt_of_le_of_ne c.length_reports_le fun hlength => ?_
  rw [reports, List.filterMap_length_eq_length] at hlength
  simpa [ht] using hlength t (List.mem_of_getElem? hi)

theorem Sound.length_tasks (h : Sound es c) : c.tasks.length = es.length := by
  rw [← h.endpoints, List.length_map]

theorem Sound.length_queue_le (h : Sound es c) : c.queue.length ≤ c.reports.length := by
  rw [← h.delivery.length_eq, List.length_append]
  exact Nat.le_add_left ..

/-- The channel is never overfull. -/
theorem Sound.queue_le (h : Sound es c) : c.queue.length ≤ c.capacity := by
  have hqueue := h.length_queue_le
  have hreports := c.length_reports_le
  have hcapacity := h.capacity
  rw [h.length_tasks] at hreports
  omega

/-- Before a task sends, the channel has room for its result. -/
theorem Sound.room {i : Nat} {t : Task} (h : Sound es c) (hi : c.tasks[i]? = some t) (ht : t.report? = none) :
    c.queue.length < c.capacity := by
  have hqueue := h.length_queue_le
  have hreports := length_reports_lt hi ht
  have hcapacity := h.capacity
  rw [h.length_tasks] at hreports
  omega

theorem Sound.exists_send {i : Nat} {t : Task} {x : Fetcher.Fetched} (h : Sound es c)
    (hi : c.tasks[i]? = some t) (hw : t.worker = .ended x) : ∃ c', c.step (.send i) = some c' :=
  ⟨_, (Step.send hi hw (h.room hi (Task.report?_of_ended hw))).eq_some⟩

/-- Where all tasks have reported, what they sent and what they measured is one outcome for each endpoint. -/
theorem Sound.outcomes_of_allReported (h : Sound es c) (hr : c.allReported = true) :
    ∃ os : List Outcome, c.tasks.map Task.outcome? = os.map some ∧ os.length = es.length ∧
      c.reports = List.zipWith FetchResult.mk es os ∧
      (c.tasks.flatMap (·.recorded)).filterMap Recording.outcome? =
        List.zipWith (fun e o => (e.name, Fetcher.Fetched.outcomeLabel o)) es os := by
  have hall : ∀ t ∈ c.tasks, t.outcome? = some t.outcome ∧ t.report? = some ⟨t.endpoint, t.outcome⟩ :=
    fun t ht => Task.outcome_of_report? (List.all_eq_true.1 hr t ht)
  refine ⟨c.tasks.map Task.outcome, ?_, ?_, ?_, ?_⟩
  · rw [List.map_map]
    exact List.map_congr_left fun t ht => (hall t ht).1
  · rw [List.length_map, h.length_tasks]
  · rw [← h.endpoints, List.zipWith_map, List.zipWith_self, reports, ← List.filterMap_eq_map]
    exact List.filterMap_congr fun t ht => (hall t ht).2
  · rw [← h.endpoints, List.zipWith_map, List.zipWith_self, List.filterMap_flatMap, List.map_eq_flatMap]
    refine List.flatMap_congr fun t ht => ?_
    rw [(h.tasks t ht).outcomes, (hall t ht).1]
    rfl

/-- All fetches have ended, or are about to because the token is cancelled. -/
def Settling (c : Crew) : Prop := c.cancelled = true ∨ ∀ t ∈ c.tasks, t.hasEnded = true

/-- What is left to be done until the receiver has everything. -/
def owed (c : Crew) : Nat := (c.tasks.map (·.owed c.policy)).sum + c.queue.length + (!c.closed).toNat

theorem owed_setTask {i : Nat} {t : Task} (t' : Task) (hi : c.tasks[i]? = some t) :
    (c.setTask i t').owed + t.owed c.policy = c.owed + t'.owed c.policy := by
  have hsum := Race.sum_map_set (·.owed c.policy) t' hi
  simp only [owed, setTask] at hsum ⊢
  omega

/-- No fetch goes on for ever then, and none begins anew. -/
theorem owed_step_lt (hs : Step c a c') (h : Sound es c) (hc : c.Settling) (ha : a ≠ .cancel) :
    c'.owed < c.owed := by
  cases hs with
  | @task i t t' a hi hs =>
    have ht := h.tasks t (List.mem_of_getElem? hi)
    have hlook : a ≠ .look := by
      rintro rfl
      cases hs with
      | look hw hcancelled =>
        rcases hc with hc | hc
        · cases hc.symm.trans hcancelled
        · cases hw.symm.trans (hc t (List.mem_of_getElem? hi))
    have hlt := Task.owed_step_lt hs ht hlook
    have howed := owed_setTask t' hi
    omega
  | @send i t x hi hw hroom =>
    have howed := owed_setTask { t with worker := .reported x } hi
    simp only [Task.owed, hw] at howed
    simp only [owed, setTask, List.length_append, List.length_singleton] at howed ⊢
    omega
  | receive hq =>
    simp only [owed, hq, List.length_cons]
    omega
  | close hq hr ho => simp [owed, ho]
  | cancel => exact absurd rfl ha

theorem settling_step (hs : Step c a c') (h : Sound es c) (hc : c.Settling) : c'.Settling := by
  cases hs with
  | @task i t t' a hi hs =>
    rcases hc with hc | hc
    · exact .inl hc
    · have hgoing := Task.not_hasEnded_of_step (h.tasks t (List.mem_of_getElem? hi)) hs
      cases hgoing.symm.trans (hc t (List.mem_of_getElem? hi))
  | @send i t x hi hw hroom =>
    refine hc.imp_right fun hc t₁ ht₁ => ?_
    rcases List.mem_or_eq_of_mem_set ht₁ with ht₁ | rfl
    · exact hc t₁ ht₁
    · rfl
  | receive hq => exact hc
  | close hq hr ho => exact hc
  | cancel => exact .inl rfl

/-- What happens without a word from the control plane or from outside. -/
def Act.isUnaided : Act → Bool
  | task _ .stop | task _ .pause | send _ | receive => true
  | _ => false

/-- As long as the channel is open, something happens by itself. -/
theorem exists_unaided (h : Sound es c) (hc : c.Settling) (ho : c.closed = false) :
    ∃ a c', a.isUnaided = true ∧ Step c a c' := by
  cases hq : c.queue with
  | cons x rest => exact ⟨.receive, _, rfl, .receive hq⟩
  | nil =>
    by_cases hr : c.allReported = true
    · exact ⟨.receive, _, rfl, .close hq hr ho⟩
    rw [Bool.not_eq_true, allReported, List.all_eq_false] at hr
    obtain ⟨t, ht, hnone⟩ := hr
    obtain ⟨i, hi⟩ := List.getElem?_of_mem ht
    by_cases he : t.hasEnded = true
    · obtain ⟨x, hw⟩ := Task.exists_ended he (by simpa using hnone)
      exact ⟨.send i, _, rfl, .send hi hw (h.room hi (by simpa using hnone))⟩
    · have hcancelled := hc.resolve_right fun hall => he (hall t ht)
      obtain ⟨a, t', ha, hs⟩ := Task.exists_stop (p := c.policy) (Bool.eq_false_iff.2 he)
      refine ⟨.task i a, _, ?_, .task hi (hcancelled ▸ hs)⟩
      rcases ha with rfl | rfl <;> rfl

theorem length_le_owed (h : Sound es c) (hc : c.Settling) (hr : c.run as = some c') (ha : Act.cancel ∉ as) :
    as.length ≤ c.owed := by
  induction as generalizing c with
  | nil => exact Nat.zero_le _
  | cons a as ih =>
    obtain ⟨c₁, h₁, h₂⟩ := foldlM_cons_eq_some hr
    have hs := step_of_eq_some h₁
    rw [List.mem_cons, not_or] at ha
    have hlt := owed_step_lt hs h hc fun he => ha.1 he.symm
    have hle := ih (sound_step hs h) (settling_step hs h hc) h₂ ha.2
    rw [List.length_cons]
    omega

theorem exists_closing (h : Sound es c) (hc : c.Settling) :
    ∃ bs c', (∀ b ∈ bs, b.isUnaided = true) ∧ c.run bs = some c' ∧ c'.closed = true := by
  induction hn : c.owed using Nat.strongRecOn generalizing c with
  | ind n ih =>
    by_cases ho : c.closed = true
    · exact ⟨[], c, nofun, rfl, ho⟩
    · obtain ⟨a, c₁, ha, hs⟩ := exists_unaided h hc (Bool.eq_false_iff.2 ho)
      have hlt := owed_step_lt hs h hc (by rintro rfl; cases ha)
      obtain ⟨bs, c', hbs, hrun, hclosed⟩ := ih _ (hn ▸ hlt) (sound_step hs h) (settling_step hs h hc) rfl
      exact ⟨a :: bs, c', List.forall_mem_cons.2 ⟨ha, hbs⟩, foldlM_cons hs.eq_some hrun, hclosed⟩

/-- A channel that is closed yields nothing more, and no task goes on. -/
theorem closed_step (hs : Step c a c') (h : Sound es c) (hc : c.closed = true) :
    c'.tasks = c.tasks ∧ c'.yielded = c.yielded ∧ c'.closed = true := by
  obtain ⟨hr, hq⟩ := h.closed hc
  cases hs with
  | task hi hs =>
    have hnone := Task.report?_eq_none (Task.not_hasEnded_of_step (h.tasks _ (List.mem_of_getElem? hi)) hs)
    cases (not_allReported hi hnone).symm.trans hr
  | send hi hw hroom =>
    cases (not_allReported hi (Task.report?_of_ended hw)).symm.trans hr
  | receive hq' => cases hq.symm.trans hq'
  | close hq' hr' ho => cases hc.symm.trans ho
  | cancel => exact ⟨rfl, rfl, hc⟩

theorem closed_run (h : Sound es c) (hc : c.closed = true) (hr : c.run as = some c') :
    c'.tasks = c.tasks ∧ c'.yielded = c.yielded := by
  have hall : Sound es c' ∧ c'.closed = true ∧ c'.tasks = c.tasks ∧ c'.yielded = c.yielded := by
    refine foldlM_induction
      (P := fun c' => Sound es c' ∧ c'.closed = true ∧ c'.tasks = c.tasks ∧ c'.yielded = c.yielded)
      (fun hs hall => ?_) hr ⟨h, hc, rfl, rfl⟩
    obtain ⟨h, hc, htasks, hyielded⟩ := hall
    obtain ⟨htasks', hyielded', hc'⟩ := closed_step (step_of_eq_some hs) h hc
    exact ⟨sound_step (step_of_eq_some hs) h, hc', htasks'.trans htasks, hyielded'.trans hyielded⟩
  exact hall.2.2

/-- Whatever the control plane answers, whenever the token is cancelled and however the steps of the tasks and
of the receiver fall: the channel has room for as many results as there are endpoints, so a task that has ended
can always send, even if nothing is received. What is in the channel and what was received is what the tasks
have sent, each for its own endpoint; and each has measured the outcome that it has come to, once, and no
other. Once the token is cancelled, or all fetches have ended, there is an end to the steps, and without any
help the channel is closed. When it is, the receiver was given one result for each endpoint, and one outcome
was measured for each, that of its result, and this remains so. -/
theorem one_result_for_each (h : (begin p es).run as = some c) :
    c.capacity = max es.length 1 ∧ c.queue.length ≤ c.capacity ∧
      (∀ i t x, c.tasks[i]? = some t → t.worker = .ended x → ∃ c', c.step (.send i) = some c') ∧
      c.tasks.map (·.endpoint) = es ∧
      (c.yielded ++ c.queue).Perm (c.tasks.filterMap Task.report?) ∧
      (∀ t ∈ c.tasks, t.recorded.filterMap Recording.outcome? =
        (t.outcome?.map fun o => (t.endpoint.name, Fetcher.Fetched.outcomeLabel o)).toList) ∧
      (c.Settling →
        (∀ bs c', Act.cancel ∉ bs → c.run bs = some c' → bs.length ≤ c.owed) ∧
        ∃ bs c', (∀ b ∈ bs, b.isUnaided = true) ∧ c.run bs = some c' ∧ c'.closed = true) ∧
      (c.closed = true → ∃ os : List Outcome, c.tasks.map Task.outcome? = os.map some ∧
        os.length = es.length ∧
        c.yielded.Perm (List.zipWith FetchResult.mk es os) ∧
        (c.tasks.flatMap (·.recorded)).filterMap Recording.outcome? =
          List.zipWith (fun e o => (e.name, Fetcher.Fetched.outcomeLabel o)) es os ∧
        ∀ bs c', c.run bs = some c' → c'.tasks = c.tasks ∧ c'.yielded = c.yielded) := by
  have hsound := sound_run h (sound_begin p es)
  refine ⟨hsound.capacity, hsound.queue_le, fun i t x hi hw => hsound.exists_send hi hw, hsound.endpoints,
    hsound.delivery, fun t ht => (hsound.tasks t ht).outcomes, fun hc => ⟨fun bs c' hb hr => ?_, ?_⟩,
    fun hc => ?_⟩
  · exact length_le_owed hsound hc hr hb
  · exact exists_closing hsound hc
  · obtain ⟨hreported, hq⟩ := hsound.closed hc
    obtain ⟨os, hos, hlength, hreports, houtcomes⟩ := hsound.outcomes_of_allReported hreported
    refine ⟨os, hos, hlength, ?_, houtcomes, fun bs c' hr => closed_run hsound hc hr⟩
    have hdelivery := hsound.delivery
    rwa [hq, List.append_nil, hreports] at hdelivery

/-- The token is cancelled while one of two fetches of the same dataset is being polled. -/
def cancelledMidway : List Act :=
  [.task 0 .look, .task 0 .start, .cancel, .task 1 .stop, .task 0 (.answer (.ok [])), .send 1, .send 0,
    .receive, .receive, .receive]

theorem one_result_for_each_midway :
    ∃ c, (begin .single [.ofKind .apis, .ofKind .apis]).run cancelledMidway = some c ∧ c.closed = true ∧
      c.yielded.Perm [⟨.ofKind .apis, .ok []⟩, ⟨.ofKind .apis, .error .cancelled⟩] ∧
      (c.tasks.flatMap (·.recorded)).filterMap Recording.outcome? =
        [("apis", "success"), ("apis", "cancelled")] := by
  obtain ⟨c, h, hc, htasks⟩ :
      ∃ c, (begin .single [.ofKind .apis, .ofKind .apis]).run cancelledMidway = some c ∧ c.closed = true ∧
        c.tasks.map Task.outcome? = [some (.ok []), some (.error .cancelled)] := ⟨_, rfl, rfl, rfl⟩
  obtain ⟨-, -, -, -, -, -, -, hclosed⟩ := one_result_for_each h
  obtain ⟨os, hos, -, hyielded, houtcomes, -⟩ := hclosed hc
  obtain rfl : os = [.ok [], .error .cancelled] :=
    List.map_injective_iff.2 (fun _ _ => Option.some.inj) (hos.symm.trans htasks)
  exact ⟨c, h, hc, hyielded, houtcomes⟩

end Crew

end GatewayFeed
