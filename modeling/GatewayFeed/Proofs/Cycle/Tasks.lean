import GatewayFeed.Proofs.Cycle.Cancellation
import GatewayFeed.Proofs.Cycle.Schedule
import GatewayFeed.Proofs.Fetch.Crew

/-! The fetches of a cycle are tasks: whatever a cycle does, a crew of tasks can do as well, if a task that goes
on is polled for it, and the token is cancelled as soon as the cycle is. So what is known of a crew holds of
the fetches of a cycle, and of the results that its barrier takes. -/

namespace GatewayFeed

namespace Task

variable {p : RetryPolicy} {b : Bool} {t : Task} {n : Nat} {o : Outcome}

/-- Some steps of a task lead its fetch there, and its poll ends. -/
def Becomes (p : RetryPolicy) (b : Bool) (t : Task) (w : Worker) : Prop :=
  ∃ (as : List Act) (t' : Task), as.foldlM (step p b) t = some t' ∧ t'.endpoint = t.endpoint ∧ t'.worker = w ∧
    t'.polled = false

/-- A poll of a task that waits or tries goes on if the token is not cancelled. -/
theorem look_eq_some (h : t.hasEnded = false) (hp : t.polled = false) :
    t.step p false .look = some { t with polled := true } :=
  (Step.look h rfl hp).eq_some

theorem becomes_started (hw : t.worker = .waiting n) (hp : t.polled = false) :
    Becomes p false t (.trying (n + 1)) := by
  let t₁ : Task := { t with polled := true }
  have hw₁ : t₁.worker = .waiting n := hw
  have hlook := look_eq_some (p := p) (hasEnded_iff.2 (.inl ⟨n, hw⟩)) hp
  have hstart := Step.eq_some (p := p) (b := false) (.start hw₁ rfl)
  exact ⟨[.look, .start, .pause], _,
    foldlM_cons hlook (foldlM_cons hstart (foldlM_cons (Step.pause rfl).eq_some rfl)), rfl, rfl, rfl⟩

theorem becomes_answered (hw : t.worker = .trying n) (ho : o ≠ .error .cancelled) (hp : t.polled = false) :
    Becomes p false t (Worker.afterAttempt p n o) := by
  let t₁ : Task := { t with polled := true }
  have hw₁ : t₁.worker = .trying n := hw
  have hlook := look_eq_some (p := p) (hasEnded_iff.2 (.inr ⟨n, hw⟩)) hp
  have hanswer := Step.eq_some (p := p) (b := false) (.answer hw₁ ho rfl)
  by_cases hmore : (Fetcher.isRetryable o && p.allowsRetry n) = true
  · have hanswered : t₁.answered p n o =
        { t₁ with worker := .waiting n, recorded := t₁.recorded ++ [.fetchDuration t₁.endpoint.name] } := by
      rw [answered, if_pos hmore]
    rw [hanswered] at hanswer
    refine ⟨[.look, .answer o, .pause], _,
      foldlM_cons hlook (foldlM_cons hanswer (foldlM_cons (Step.pause rfl).eq_some rfl)), rfl, ?_, rfl⟩
    rw [Worker.afterAttempt, if_pos hmore]
  · refine ⟨[.look, .answer o], _, foldlM_cons hlook (foldlM_cons hanswer rfl), ?_, ?_, ?_⟩
    · rw [answered, if_neg hmore]
    · rw [answered, if_neg hmore, Worker.afterAttempt, if_neg hmore]
    · rw [answered, if_neg hmore]

end Task

namespace Crew

theorem run_task {c : Crew} {i : Nat} {t t' : Task} {as : List Task.Act} (hi : c.tasks[i]? = some t)
    (h : as.foldlM (Task.step c.policy c.cancelled) t = some t') :
    c.run (as.map (.task i)) = some (c.setTask i t') := by
  induction as generalizing c t with
  | nil =>
    cases h
    obtain ⟨hlt, rfl⟩ := List.getElem?_eq_some_iff.1 hi
    rw [setTask, List.set_getElem_self]
    rfl
  | cons a as ih =>
    obtain ⟨t₁, h₁, h₂⟩ := foldlM_cons_eq_some h
    have hfirst := (Step.task hi (Task.step_of_eq_some h₁)).eq_some
    have hrest := ih (c := c.setTask i t₁) (getElem?_set_of_some hi t₁) h₂
    rw [setTask, setTask, List.set_set] at hrest
    exact foldlM_cons hfirst hrest

/-- A crew whose tasks stand where the workers of a cycle do. -/
structure Mirrors (c : Crew) (r : Race) : Prop where
  policy : c.policy = r.policy
  workers : c.tasks.map (fun t => (t.endpoint, t.worker)) = r.workers
  unpolled : ∀ t ∈ c.tasks, t.polled = false
  queue : c.queue = r.queue
  yielded : c.yielded = r.arrived

namespace Mirrors

variable {es : List Endpoint} {c : Crew} {r r' : Race} {i : Nat} {e : Endpoint} {w : Worker} {a : Race.Act}

theorem exists_task (h : c.Mirrors r) (hi : r.workers[i]? = some (e, w)) :
    ∃ t, c.tasks[i]? = some t ∧ t.endpoint = e ∧ t.worker = w ∧ t.polled = false := by
  rw [← h.workers, List.getElem?_map] at hi
  obtain ⟨t, ht, heq⟩ := Option.map_eq_some_iff.1 hi
  cases heq
  exact ⟨t, ht, rfl, rfl, h.unpolled t (List.mem_of_getElem? ht)⟩

theorem setTask {t : Task} (h : c.Mirrors r) (he : t.endpoint = e) (hw : t.worker = w)
    (hp : t.polled = false) : (c.setTask i t).Mirrors (r.setWorker i e w) := by
  refine ⟨h.policy, ?_, fun t₁ ht₁ => ?_, h.queue, h.yielded.trans (Race.arrived_setWorker r i e w).symm⟩
  · rw [Crew.setTask, List.map_set, h.workers, he, hw]
    rfl
  · rcases List.mem_or_eq_of_mem_set ht₁ with ht₁ | rfl
    · exact h.unpolled t₁ ht₁
    · exact hp

/-- Some steps of a crew lead it to where the cycle stands, with the token cancelled if the cycle is. -/
def Follows (c : Crew) (r : Race) : Prop :=
  ∃ bs c', c.run bs = some c' ∧ c'.Mirrors r ∧ c'.cancelled = r.cancelled

theorem follows_becomes {t : Task} (h : c.Mirrors r) (hc : c.cancelled = r.cancelled)
    (hi : c.tasks[i]? = some t) (hb : Task.Becomes c.policy c.cancelled t w) :
    Follows c (r.setWorker i t.endpoint w) := by
  obtain ⟨as, t', hrun, he, hw, hp⟩ := hb
  refine ⟨_, _, run_task hi hrun, h.setTask he hw hp, ?_⟩
  rw [Race.cancelled, Race.collected_setWorker]
  exact hc

/-- The token is cancelled if need be. -/
theorem follows_cancel (h : c.Mirrors r) (hc : c.cancelled = true → r.cancelled = true) : Follows c r := by
  by_cases hsame : c.cancelled = r.cancelled
  · exact ⟨[], c, rfl, h, hsame⟩
  · refine ⟨[.cancel], { c with cancelled := true }, rfl,
      ⟨h.policy, h.workers, h.unpolled, h.queue, h.yielded⟩, ?_⟩
    cases hb : c.cancelled with
    | false => rw [hb] at hsame; simpa using hsame
    | true => exact (hc hb).symm

theorem follows_step (hs : Race.Step r a r') (hr : Race.Sound es r) (hsound : Sound es c) (h : c.Mirrors r)
    (hc : c.cancelled = r.cancelled) : Follows c r' := by
  have hkeep : ∀ {r'}, Race.Step r a r' → c.cancelled = true → r'.cancelled = true :=
    fun hs hcancelled => Race.cancelled_step hs (hc ▸ hcancelled)
  cases hs with
  | @start i e n hi hcn =>
    obtain ⟨t, ht, rfl, hw, hp⟩ := h.exists_task hi
    exact h.follows_becomes hc ht (by rw [hc, hcn]; exact Task.becomes_started hw hp)
  | @answer i e n o hi ho hcn =>
    obtain ⟨t, ht, rfl, hw, hp⟩ := h.exists_task hi
    refine h.follows_becomes hc ht ?_
    rw [hc, hcn, ← h.policy]
    exact Task.becomes_answered hw ho hp
  | stopWaiting hi hcn =>
    obtain ⟨t, ht, rfl, hw, hp⟩ := h.exists_task hi
    refine h.follows_becomes hc ht ?_
    rw [hc, hcn]
    exact ⟨[.stop], _, foldlM_cons (Task.Step.stopWaiting hw rfl hp).eq_some rfl, rfl, rfl, hp⟩
  | stopTrying hi hcn =>
    obtain ⟨t, ht, rfl, hw, hp⟩ := h.exists_task hi
    refine h.follows_becomes hc ht ?_
    rw [hc, hcn]
    exact ⟨[.stop], _, foldlM_cons (Task.Step.stopTrying hw rfl hp).eq_some rfl, rfl, rfl, hp⟩
  | @report i e x hi =>
    obtain ⟨t, ht, rfl, hw, hp⟩ := h.exists_task hi
    have hroom := hsound.room ht (Task.report?_of_ended hw)
    have hset : (c.setTask i { t with worker := .reported x }).Mirrors (r.setWorker i t.endpoint (.reported x)) :=
      h.setTask rfl rfl hp
    refine ⟨[.send i], _, foldlM_cons (Step.send ht hw hroom).eq_some rfl,
      ⟨hset.policy, hset.workers, hset.unpolled, ?_, hset.yielded⟩, ?_⟩
    · simp only [h.queue]
    · rw [Race.cancelled]
      change c.cancelled = ((r.setWorker i t.endpoint (.reported x)).collected.cancelled || r.shutdown)
      rw [Race.collected_setWorker]
      exact hc
  | @receive x rest hq hw =>
    have hreceive := (Step.receive (h.queue.trans hq)).eq_some
    have hmirrors : ({ c with queue := rest, yielded := c.yielded ++ [x] } : Crew).Mirrors
        { r.see (.result x) with queue := rest } := by
      refine ⟨h.policy, h.workers, h.unpolled, rfl, ?_⟩
      rw [h.yielded]
      exact (Race.arrived_see_result hw x).symm
    obtain ⟨bs, c', hrun, hm, hcancelled⟩ := hmirrors.follows_cancel (hkeep (.receive hq hw))
    exact ⟨.receive :: bs, c', foldlM_cons hreceive hrun, hm, hcancelled⟩
  | deadline hw hd =>
    refine follows_cancel ⟨h.policy, h.workers, h.unpolled, h.queue, ?_⟩ (hkeep (.deadline hw hd))
    rw [h.yielded, Race.arrived_see_deadline hw]
  | hangUp hw hall hq => exact absurd hq (hr.not_exhausted hw hall)
  | shutdown => exact follows_cancel ⟨h.policy, h.workers, h.unpolled, h.queue, h.yielded⟩ (hkeep .shutdown)
  | conclude hw =>
    exact follows_cancel ⟨h.policy, h.workers, h.unpolled, h.queue, h.yielded⟩ (hkeep (.conclude hw))

theorem mirrors_begin (p : RetryPolicy) (store : Store) (es : List Endpoint) :
    (Crew.begin p es).Mirrors (Race.begin p store es) := by
  refine ⟨rfl, ?_, fun t ht => ?_, rfl, ?_⟩
  · rw [Crew.begin, List.map_map]
    rfl
  · obtain ⟨e, -, rfl⟩ := List.mem_map.1 ht
    rfl
  · rw [Race.arrived]
    exact (Barrier.taken_nil _).symm

/-- What the fetches of a cycle do, a crew of tasks can do: its receiver is given what the barrier takes, and
its tasks have measured what the workers have. -/
theorem exists_crew {p : RetryPolicy} {store : Store} {as : List Race.Act}
    (h : (Race.begin p store es).run as = some r) :
    ∃ bs c, (Crew.begin p es).run bs = some c ∧ c.Mirrors r ∧ c.cancelled = r.cancelled ∧
      c.tasks.flatMap (·.recorded) = r.workers.flatMap fun w => w.2.recorded w.1 := by
  obtain ⟨-, bs, c, hrun, hm, hc⟩ : Race.Sound es r ∧ Follows (Crew.begin p es) r := by
    refine Race.run_induction (P := fun r => Race.Sound es r ∧ Follows (Crew.begin p es) r)
      (fun he hs hall => ?_) h ⟨Race.sound_begin p store es, [], _, rfl, mirrors_begin p store es, rfl⟩
    obtain ⟨hr, bs, c, hrun, hm, hc⟩ := hall
    obtain ⟨bs', c', hrun', hm', hc'⟩ := follows_step hs hr (sound_run hrun (sound_begin p es)) hm hc
    exact ⟨Race.sound_step hs hr, bs ++ bs', c', foldlM_append hrun hrun', hm', hc'⟩
  refine ⟨bs, c, hrun, hm, hc, ?_⟩
  have hsound := sound_run hrun (sound_begin p es)
  rw [← hm.workers, List.flatMap_map]
  exact List.flatMap_congr fun t ht => (hsound.tasks t ht).recorded

end Mirrors

end Crew

namespace Cycle

/-- Each fetch reaches the barrier once. -/
theorem results_arrivals (xs : List (Endpoint × Fetcher.Fetched)) :
    ((arrivals xs).filterMap Barrier.Event.result?).Perm (xs.map fun x => x.2.result x.1) := by
  let ended := (xs.filter hasEnded).mergeSort fun a b => a.2.attempts ≤ b.2.attempts
  let late := xs.filter (!hasEnded ·)
  have hperm : (ended ++ late).Perm xs :=
    ((List.mergeSort_perm _ _).append_right _).trans (List.filter_append_perm _ xs)
  have hbetween : ∀ b : Bool,
      (if b then [] else [Barrier.Event.deadline]).filterMap Barrier.Event.result? = [] := by
    rintro (_ | _) <;> rfl
  have hresults : (arrivals xs).filterMap Barrier.Event.result? =
      (ended ++ late).map fun x => x.2.result x.1 := by
    have hevents : ∀ rs : List FetchResult, (rs.map .result).filterMap Barrier.Event.result? = rs := fun rs => by
      rw [List.filterMap_map, Barrier.result?_comp_result, List.filterMap_some]
    simp only [arrivals, List.filterMap_append, hevents, hbetween, List.append_nil, List.map_append, ended, late]
  rw [hresults]
  exact hperm.map _

/-- The fetches of a cycle that are computed give the barrier one result for each endpoint, and measure one
outcome for each, that of its result. -/
theorem fetches_give_one_each (f : Fetcher) (server : Fetch.Server) (stop : Stop) (es : List Endpoint) :
    ∃ os : List Outcome, os.length = es.length ∧
      ((fetches f server stop es).1.filterMap Barrier.Event.result?).Perm (List.zipWith FetchResult.mk es os) ∧
      (fetches f server stop es).2.1.filterMap Recording.outcome? =
        List.zipWith (fun e o => (e.name, Fetcher.Fetched.outcomeLabel o)) es os := by
  have hstopped : ∃ os : List Outcome, os.length = es.length ∧
      ((es.map fun e => Barrier.Event.result (stoppedResult e)).filterMap Barrier.Event.result?).Perm
        (List.zipWith FetchResult.mk es os) ∧
      (es.map fun e => Recording.fetchOutcome e.name FetchError.cancelled.label).filterMap Recording.outcome? =
        List.zipWith (fun e o => (e.name, Fetcher.Fetched.outcomeLabel o)) es os := by
    refine ⟨es.map fun _ => .error .cancelled, List.length_map .., ?_, ?_⟩
    · rw [List.zipWith_map_right, List.zipWith_self, List.filterMap_map, ← List.filterMap_eq_map]
      exact .refl _
    · rw [List.zipWith_map_right, List.zipWith_self, List.filterMap_map, ← List.filterMap_eq_map]
      rfl
  unfold fetches
  split
  · exact hstopped
  · have hkeys := f.keys_fetchAll server es []
    generalize f.fetchAll server es [] = fetched at hkeys
    obtain ⟨xs, traffic⟩ := fetched
    simp only
    split
    · exact hstopped
    · refine ⟨xs.map fun x => (x.2.result x.1).outcome, ?_, ?_, ?_⟩
      · rw [← hkeys, List.length_map, List.length_map]
      · rw [← hkeys, List.zipWith_map, List.zipWith_self]
        exact results_arrivals xs
      · rw [← hkeys, List.zipWith_map, List.zipWith_self, List.filterMap_flatMap, List.map_eq_flatMap]
        exact List.flatMap_congr fun x _ => x.2.outcomes_recorded x.1

/-- The fetches of a cycle that is computed do what some crew of tasks does. -/
theorem exists_crew (f : Fetcher) (server : Fetch.Server) (stop : Stop) (store : Store) :
    ∃ bs c r, (Crew.begin f.policy Endpoint.all).run bs = some c ∧ c.Mirrors r ∧ c.cancelled = r.cancelled ∧
      r.ending = some (run f server stop store).1 := by
  obtain ⟨as, r, h, -, he⟩ := exists_run f server stop store
  obtain ⟨bs, c, hc, hm, hcancelled, -⟩ := Crew.Mirrors.exists_crew h
  exact ⟨bs, c, r, hc, hm, hcancelled, he⟩

end Cycle

end GatewayFeed
