import GatewayFeed.Proofs.Cycle.Race

/-! A fetch as a task of its own, with its measurements. A poll looks at the token first, and if that is
cancelled the fetch is stopped. Otherwise the fetch goes on as far as it can, and the token may be cancelled
in the meantime: then it is a race whether the fetch ends by itself before it is polled again. Both ways
measure an outcome, but a fetch goes only one of them. -/

namespace GatewayFeed

/-- The endpoint and the label of a measured outcome. -/
def Recording.outcome? : Recording → Option (String × String)
  | fetchOutcome e o => some (e, o)
  | _ => none

theorem Recording.outcomes_durations (name : String) (n : Nat) :
    (List.replicate n (fetchDuration name)).filterMap outcome? = [] := by
  induction n with
  | zero => rfl
  | succ n ih => exact ih

/-- However a fetch came to its end, one outcome is measured, the one that it reports. -/
theorem Fetcher.Fetched.outcomes_recorded (e : Endpoint) (x : Fetcher.Fetched) :
    (x.recorded e).filterMap Recording.outcome? = [(e.name, outcomeLabel (x.result e).outcome)] := by
  obtain ⟨n, o⟩ := x
  cases o with
  | none => rw [recorded, List.filterMap_append, Recording.outcomes_durations]; rfl
  | some o => rw [recorded, List.filterMap_append, Recording.outcomes_durations]; rfl

structure Task where
  endpoint : Endpoint
  worker : Worker := .waiting 0
  /-- Whether a poll is under way that has not found the token cancelled. -/
  polled : Bool := false
  recorded : List Recording := []

namespace Task

inductive Act where
  /-- A poll finds the token not cancelled. -/
  | look
  /-- A poll finds the token cancelled. -/
  | stop
  /-- The delay before an attempt is over. -/
  | start
  | answer (o : Outcome)
  /-- The poll finds nothing more to do. -/
  | pause

def report? (t : Task) : Option FetchResult := t.worker.report? t.endpoint

def hasEnded (t : Task) : Bool := t.worker.fetched?.isSome

/-- What the fetch came to; `none` as long as it has not ended. -/
def outcome? (t : Task) : Option Outcome := t.worker.fetched?.map fun x => (x.result t.endpoint).outcome

/-- What a fetch that has ended came to. -/
def outcome (t : Task) : Outcome := t.outcome?.getD (.error .cancelled)

def stopped (t : Task) (x : Fetcher.Fetched) : Task :=
  { t with
    worker := .ended x
    recorded := t.recorded ++ [.fetchOutcome t.endpoint.name FetchError.cancelled.label] }

/-- Attempt number `n` has come to `o`. -/
def answered (t : Task) (p : RetryPolicy) (n : Nat) (o : Outcome) : Task :=
  let recorded := t.recorded ++ [.fetchDuration t.endpoint.name]
  if Fetcher.isRetryable o && p.allowsRetry n then { t with worker := .waiting n, recorded }
  else
    { t with
      worker := .ended ⟨n, some o⟩
      polled := false
      recorded := recorded ++ [.fetchOutcome t.endpoint.name (Fetcher.Fetched.outcomeLabel o)] }

/-- An attempt that is cancelled has no outcome of its own. -/
def step (p : RetryPolicy) (cancelled : Bool) (t : Task) : Act → Option Task
  | .look => if t.hasEnded || cancelled || t.polled then none else some { t with polled := true }
  | .stop =>
    if cancelled && !t.polled then
      match t.worker with
      | .waiting n => some (t.stopped ⟨n + 1, none⟩)
      | .trying n => some (t.stopped ⟨n, none⟩)
      | _ => none
    else none
  | .start =>
    if t.polled then
      match t.worker with
      | .waiting n => some { t with worker := .trying (n + 1) }
      | _ => none
    else none
  | .answer (.error .cancelled) => none
  | .answer o =>
    if t.polled then
      match t.worker with
      | .trying n => some (t.answered p n o)
      | _ => none
    else none
  | .pause => if t.polled then some { t with polled := false } else none

/-- What a single step of a task can do. -/
inductive Step (p : RetryPolicy) (cancelled : Bool) (t : Task) : Act → Task → Prop
  | look (hw : t.hasEnded = false) (hc : cancelled = false) (hp : t.polled = false) :
      Step p cancelled t .look { t with polled := true }
  | stopWaiting {n : Nat} (hw : t.worker = .waiting n) (hc : cancelled = true) (hp : t.polled = false) :
      Step p cancelled t .stop (t.stopped ⟨n + 1, none⟩)
  | stopTrying {n : Nat} (hw : t.worker = .trying n) (hc : cancelled = true) (hp : t.polled = false) :
      Step p cancelled t .stop (t.stopped ⟨n, none⟩)
  | start {n : Nat} (hw : t.worker = .waiting n) (hp : t.polled = true) :
      Step p cancelled t .start { t with worker := .trying (n + 1) }
  | answer {n : Nat} {o : Outcome} (hw : t.worker = .trying n) (ho : o ≠ .error .cancelled)
      (hp : t.polled = true) : Step p cancelled t (.answer o) (t.answered p n o)
  | pause (hp : t.polled = true) :
      Step p cancelled t .pause { t with polled := false }

variable {p : RetryPolicy} {b : Bool} {t t' : Task} {a : Act}

theorem hasEnded_iff : t.hasEnded = false ↔ (∃ n, t.worker = .waiting n) ∨ ∃ n, t.worker = .trying n := by
  unfold hasEnded
  cases t.worker <;> simp [Worker.fetched?]

theorem Step.eq_some (h : Step p b t a t') : t.step p b a = some t' := by
  cases h with
  | look hw hc hp => simp [step, hw, hc, hp]
  | stopWaiting hw hc hp => simp [step, hw, hc, hp]
  | stopTrying hw hc hp => simp [step, hw, hc, hp]
  | start hw hp => simp [step, hw, hp]
  | answer hw ho hp => simp [step, hw, hp]
  | pause hp => simp [step, hp]

theorem step_of_eq_some (h : t.step p b a = some t') : Step p b t a t' := by
  cases a with
  | look =>
    simp only [step, Option.ite_none_left_eq_some, Bool.or_eq_true, not_or, Bool.not_eq_true] at h
    obtain ⟨⟨⟨hw, hc⟩, hp⟩, ⟨⟩⟩ := h
    exact .look hw hc hp
  | stop =>
    simp only [step, Option.ite_none_right_eq_some, Bool.and_eq_true, Bool.not_eq_true'] at h
    obtain ⟨⟨hc, hp⟩, h⟩ := h
    split at h
    · rename_i n hw
      cases h
      exact .stopWaiting hw hc hp
    · rename_i n hw
      cases h
      exact .stopTrying hw hc hp
    · cases h
  | start =>
    simp only [step, Option.ite_none_right_eq_some] at h
    obtain ⟨hp, h⟩ := h
    split at h
    · rename_i n hw
      cases h
      exact .start hw hp
    · cases h
  | answer o =>
    by_cases ho : o = .error .cancelled
    · subst ho
      cases h
    · rw [step, Option.ite_none_right_eq_some] at h
      · obtain ⟨hp, h⟩ := h
        split at h
        · rename_i n hw
          cases h
          exact .answer hw ho hp
        · cases h
      · exact ho
  | pause =>
    simp only [step, Option.ite_none_right_eq_some] at h
    obtain ⟨hp, ⟨⟩⟩ := h
    exact .pause hp

/-- What holds of a task at any time. -/
structure Sound (p : RetryPolicy) (t : Task) : Prop where
  recorded : t.recorded = t.worker.recorded t.endpoint
  started : ∀ n, t.worker = .trying n → 1 ≤ n
  allowed : ∀ n, t.worker = .waiting n → n < max p.maxAttempts 1
  unpolled : t.hasEnded = true → t.polled = false

theorem sound_new (p : RetryPolicy) (e : Endpoint) : Sound p { endpoint := e } where
  recorded := rfl
  started := nofun
  allowed n hn := by
    cases hn
    exact Nat.lt_of_lt_of_le Nat.one_pos (Nat.le_max_right ..)
  unpolled := nofun

theorem endpoint_step (hs : Step p b t a t') : t'.endpoint = t.endpoint := by
  cases hs with
  | answer => unfold answered; split <;> rfl
  | _ => rfl

theorem not_hasEnded_of_step (h : Sound p t) (hs : Step p b t a t') : t.hasEnded = false := by
  cases hs with
  | look hw => exact hw
  | stopWaiting hw => exact hasEnded_iff.2 (.inl ⟨_, hw⟩)
  | stopTrying hw => exact hasEnded_iff.2 (.inr ⟨_, hw⟩)
  | start hw => exact hasEnded_iff.2 (.inl ⟨_, hw⟩)
  | answer hw => exact hasEnded_iff.2 (.inr ⟨_, hw⟩)
  | pause hp =>
    exact Bool.eq_false_iff.2 fun he => by cases hp.symm.trans (h.unpolled he)

theorem report?_of_ended {x : Fetcher.Fetched} (hw : t.worker = .ended x) : t.report? = none := by
  simp [report?, hw, Worker.report?]

/-- A task that has reported has sent its outcome, for its own endpoint. -/
theorem outcome_of_report? (h : t.report?.isSome = true) :
    t.outcome? = some t.outcome ∧ t.report? = some ⟨t.endpoint, t.outcome⟩ := by
  unfold outcome outcome? report? at *
  cases hw : t.worker with
  | reported x => exact ⟨rfl, rfl⟩
  | _ => simp [hw, Worker.report?] at h

theorem exists_ended (he : t.hasEnded = true) (hr : t.report? = none) : ∃ x, t.worker = .ended x := by
  unfold hasEnded report? at *
  cases hw : t.worker with
  | ended x => exact ⟨x, rfl⟩
  | reported x => simp [hw, Worker.report?] at hr
  | _ => simp [hw, Worker.fetched?] at he

theorem report?_eq_none (h : t.hasEnded = false) : t.report? = none := by
  rcases hasEnded_iff.1 h with ⟨n, hw⟩ | ⟨n, hw⟩ <;> simp [report?, hw, Worker.report?]

/-- No step of a task reports. -/
theorem report?_step (h : Sound p t) (hs : Step p b t a t') : t'.report? = none := by
  have hnone := report?_eq_none (not_hasEnded_of_step h hs)
  cases hs with
  | look => exact hnone
  | pause => exact hnone
  | answer => unfold answered; split <;> rfl
  | _ => rfl

theorem sound_answered {n : Nat} (h : Sound p t) (hw : t.worker = .trying n) (o : Outcome) :
    Sound p (t.answered p n o) := by
  have hrecorded : t.recorded ++ [.fetchDuration t.endpoint.name] =
      List.replicate n (Recording.fetchDuration t.endpoint.name) := by
    obtain ⟨k, rfl⟩ : ∃ k, n = k + 1 := ⟨n - 1, by have := h.started n hw; omega⟩
    rw [h.recorded, hw, List.replicate_succ']
    rfl
  unfold answered
  split
  · rename_i hmore
    refine ⟨hrecorded, nofun, fun k hk => ?_, fun he => by cases he⟩
    cases hk
    simp only [RetryPolicy.allowsRetry, Bool.and_eq_true, decide_eq_true_eq] at hmore
    omega
  · refine ⟨?_, nofun, nofun, fun _ => rfl⟩
    simp only [hrecorded]
    rfl

theorem sound_step (hs : Step p b t a t') (h : Sound p t) : Sound p t' := by
  have hgoing := not_hasEnded_of_step h hs
  cases hs with
  | look hw => exact ⟨h.recorded, h.started, h.allowed, fun he => by cases hw.symm.trans he⟩
  | stopWaiting hw hc hp =>
    refine ⟨?_, nofun, nofun, fun _ => hp⟩
    simp only [stopped, h.recorded, hw]
    rfl
  | stopTrying hw hc hp =>
    refine ⟨?_, nofun, nofun, fun _ => hp⟩
    simp only [stopped, h.recorded, hw]
    rfl
  | start hw =>
    refine ⟨?_, fun k hk => ?_, nofun, nofun⟩
    · simp only [h.recorded, hw]
      rfl
    · cases hk
      exact Nat.le_add_left ..
  | answer hw => exact sound_answered h hw _
  | pause => exact ⟨h.recorded, h.started, h.allowed, fun _ => rfl⟩

/-- At any time a task has measured its outcome if it has one, and no other. -/
theorem Sound.outcomes (h : Sound p t) : t.recorded.filterMap Recording.outcome? =
    (t.outcome?.map fun o => (t.endpoint.name, Fetcher.Fetched.outcomeLabel o)).toList := by
  rw [h.recorded, outcome?]
  cases t.worker with
  | waiting n => exact Recording.outcomes_durations _ n
  | trying n => exact Recording.outcomes_durations _ (n - 1)
  | ended x => exact x.outcomes_recorded t.endpoint
  | reported x => exact x.outcomes_recorded t.endpoint

/-- Once the token is cancelled, a poll that is under way can end, and the next one stops the fetch. -/
theorem exists_stop (h : t.hasEnded = false) : ∃ a t', (a = .stop ∨ a = .pause) ∧ Step p true t a t' := by
  by_cases hp : t.polled = true
  · exact ⟨.pause, _, .inr rfl, .pause hp⟩
  · rw [Bool.not_eq_true] at hp
    rcases hasEnded_iff.1 h with ⟨n, hw⟩ | ⟨n, hw⟩
    · exact ⟨.stop, _, .inl rfl, .stopWaiting hw rfl hp⟩
    · exact ⟨.stop, _, .inl rfl, .stopTrying hw rfl hp⟩

theorem sound_reported {x : Fetcher.Fetched} (h : Sound p t) (hw : t.worker = .ended x) :
    Sound p { t with worker := .reported x } := by
  refine ⟨?_, nofun, nofun, fun _ => h.unpolled (by simp [hasEnded, hw, Worker.fetched?])⟩
  simp only [h.recorded, hw]
  rfl

/-- What is left to be done for a fetch that is not polled anew, until its result has been sent. -/
def owed (p : RetryPolicy) (t : Task) : Nat :=
  (match t.worker with
  | .waiting n => 2 * (max p.maxAttempts 1 - n) + 4
  | .trying n => 2 * (max p.maxAttempts 1 - n) + 5
  | .ended _ => 2
  | .reported _ => 0) + t.polled.toNat

theorem owed_step_lt (hs : Step p b t a t') (h : Sound p t) (ha : a ≠ .look) : t'.owed p < t.owed p := by
  cases hs with
  | look => exact absurd rfl ha
  | stopWaiting hw hc hp => simp [owed, stopped, hw, hp]
  | stopTrying hw hc hp => simp [owed, stopped, hw, hp]
  | @start n hw hp =>
    have hn := h.allowed n hw
    simp only [owed, hw]
    omega
  | @answer n o hw ho hp =>
    unfold answered
    split
    · simp [owed, hw]
    · simp only [owed, hw, hp]
      simp
  | pause hp => simp [owed, hp]

end Task

end GatewayFeed
