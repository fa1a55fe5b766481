import GatewayFeed.Proofs.Barrier.Rendezvous

/-! The deadline releases the barrier. A barrier that is still short of results when the deadline passes
cancels the cycle, which sets the deliveries free that wait for it, and is the only one to note the deadline.
Unless something arrives just when the deadline passes, it makes no difference in which order the barrier
and the sender take their steps: what is collected is what is computed. -/

namespace GatewayFeed.Barrier

/-- When something comes to a barrier that waits for `n` results: each delivery, and the closing of the
channel, up to the first delivery that has to wait until the deadline cancels the cycle. -/
def instants : Nat → Nat → Bool → List Delivery → List Nat
  | 0, _, _, _ => []
  | _ + 1, now, _, [] => [now]
  | n + 1, now, cancelled, d :: ds =>
    if d.afterCancel && !cancelled then []
    else max now d.notBefore :: instants n (max now d.notBefore) (cancelled || rejects d.result) ds

/-- A rejection that is received cancels a cycle, and no other result does. -/
theorem cancelled_receive_eq {c : Collected} (h : c.cancelled = (c.rejection.isSome || c.deadlineExceeded))
    (r : FetchResult) : (receive c r).cancelled = (c.cancelled || rejects r) := by
  obtain ⟨e, o⟩ := r
  cases o with
  | ok p => cases hp : Collection.decode e.kind p <;> simp [receive, fail, hp, rejects]
  | error x =>
    cases x with
    | unauthorized s =>
      by_cases hr : c.rejection.isSome = true
      · simp [receive, fail, reject, hr, h, rejects]
      · simp [receive, fail, reject, hr, rejects]
    | _ => simp [receive, fail, rejects]

theorem timeline_none (now : Nat) (b b' : Bool) (ds : List Delivery) :
    timeline now none b ds = timeline now none b' ds := by
  cases ds <;> rfl

section

variable {d : Delivery} {rest : List Delivery} {now limit : Nat} {b : Bool}

/-- A delivery that need not wait comes at once. -/
theorem timeline_come (ht : d.notBefore ≤ now) (hc : d.afterCancel = true → b = true) (hnow : now ≤ limit) :
    timeline now (some limit) b (d :: rest) =
      .result d.result :: timeline now (some limit) (b || rejects d.result) rest := by
  have hfree : (d.afterCancel && !b) = false := by
    cases hac : d.afterCancel with
    | false => rfl
    | true => simp [hc hac]
  simp [timeline, Nat.max_eq_left ht, hfree, hnow]

theorem timeline_come_late (ht : d.notBefore ≤ now) :
    timeline now none b (d :: rest) = .result d.result :: timeline now none true rest := by
  simp [timeline, Nat.max_eq_left ht]

/-- The deadline comes before a delivery that has to wait for it. -/
theorem timeline_wait (hlate : limit < d.notBefore ∨ d.afterCancel = true ∧ b = false) (hnow : now ≤ limit) :
    timeline now (some limit) b (d :: rest) =
      .deadline :: .result d.result :: timeline (max limit d.notBefore) none true rest := by
  have hwait : (decide (limit < max now d.notBefore) || (d.afterCancel && !b)) = true := by
    rcases hlate with hlate | ⟨hac, hb⟩
    · simp [show limit < max now d.notBefore by omega]
    · simp [hac, hb]
  have hmax : max (max now d.notBefore) limit = max limit d.notBefore := by omega
  simp only [timeline, hwait, if_true, hmax]

/-- While the next delivery waits, the clock makes no difference. -/
theorem timeline_pass (hlate : now < d.notBefore ∨ d.afterCancel = true ∧ b = false) (hnow : now < limit) :
    timeline (now + 1) (some limit) b (d :: rest) = timeline now (some limit) b (d :: rest) := by
  by_cases hac : d.afterCancel = true ∧ b = false
  · rw [timeline_wait (.inr hac) hnow, timeline_wait (.inr hac) (Nat.le_of_lt hnow)]
  · have hbefore := hlate.resolve_right hac
    simp only [timeline, Nat.max_eq_right hbefore, Nat.max_eq_right (Nat.le_of_lt hbefore)]

theorem timeline_pass_late (hlate : now < d.notBefore) :
    timeline (now + 1) none b (d :: rest) = timeline now none b (d :: rest) := by
  simp only [timeline, Nat.max_eq_right hlate, Nat.max_eq_right (Nat.le_of_lt hlate)]

end

namespace Rendezvous

variable {n limit : Nat} {ds : List Delivery} {r r' : Rendezvous} {a : Act} {as : List Act}

/-- Whether the cycle is cancelled once the barrier has taken what is in the channel. -/
def foreseen (r : Rendezvous) : Bool := r.collected.cancelled || r.queue.any rejects

/-- The time of the deadline, as long as it has not passed. -/
def limit? (r : Rendezvous) : Option Nat := if r.collected.deadlineExceeded then none else some r.deadline

/-- What the barrier has still to see, first of what is in the channel. -/
def events (r : Rendezvous) : List Event :=
  r.queue.map .result ++ timeline r.now r.limit? r.foreseen r.ahead

theorem foreseen_nil (hq : r.queue = []) : r.foreseen = r.collected.cancelled := by
  simp [foreseen, hq]

theorem limit?_of_late (he : r.collected.deadlineExceeded = true) : r.limit? = none := by
  simp [limit?, he]

theorem limit?_of_early (he : r.collected.deadlineExceeded = false) : r.limit? = some r.deadline := by
  simp [limit?, he]

theorem foreseen_receive {x : FetchResult} {rest : List FetchResult} (h : Sound n limit ds r)
    (hq : r.queue = x :: rest) :
    { r with queue := rest, collected := Barrier.receive r.collected x }.foreseen = r.foreseen := by
  simp only [foreseen, hq, List.any_cons, cancelled_receive_eq h.cancelled, Bool.or_assoc]

theorem foreseen_deliver (x : FetchResult) (rest : List Delivery) :
    { r with ahead := rest, queue := r.queue ++ [x] }.foreseen = (r.foreseen || rejects x) := by
  simp [foreseen, Bool.or_assoc]

/-- A delivery that need not wait for the cycle to be cancelled need not do so later. -/
theorem foreseen_of_free {d : Delivery} (hc : d.afterCancel = true → r.collected.cancelled = true)
    (hac : d.afterCancel = true) : r.foreseen = true := by
  simp [foreseen, hc hac]

/-- What comes when was to be expected from the deliveries. As long as the deadline has not passed, the
channel is empty and the sender not done, unless something has come at this very moment. -/
structure Foretold (n : Nat) (ds : List Delivery) (r : Rendezvous) : Prop where
  times : r.collected.deadlineExceeded = false →
    ∀ t ∈ instants (n - r.collected.received - r.queue.length) r.now r.foreseen r.ahead,
      t ∈ instants n 0 false ds
  news : r.collected.deadlineExceeded = false → r.collected.received < n → r.queue ≠ [] ∨ r.ahead = [] →
    r.now ∈ instants n 0 false ds

theorem foretold_begin (n limit : Nat) (ds : List Delivery) : Foretold n ds (begin n limit ds) := by
  refine ⟨fun _ t ht => ht, fun _ hn h => ?_⟩
  rcases h with h | h
  · exact absurd rfl h
  · change ds = [] at h
    subst h
    change 0 < n at hn
    obtain ⟨m, rfl⟩ : ∃ m, n = m + 1 := ⟨n - 1, by omega⟩
    exact List.mem_singleton_self 0

/-- A sender that can go on shows that this is one of the moments at which something comes. -/
theorem Foretold.now_mem {d : Delivery} {rest : List Delivery} (h : Foretold n ds r)
    (he : r.collected.deadlineExceeded = false) (hmissing : r.collected.received < n) (ha : r.ahead = d :: rest)
    (ht : d.notBefore ≤ r.now) (hc : d.afterCancel = true → r.collected.cancelled = true) :
    r.now ∈ instants n 0 false ds := by
  by_cases hq : r.queue = []
  · obtain ⟨m, hm⟩ : ∃ m, n - r.collected.received - r.queue.length = m + 1 := by
      rw [hq]
      exact ⟨n - r.collected.received - 1, by simp; omega⟩
    refine h.times he r.now ?_
    rw [hm, ha, instants, foreseen_nil hq, if_neg (by simpa using hc), Nat.max_eq_left ht]
    exact List.mem_cons_self
  · exact h.news he hmissing (.inl hq)

theorem instants_pass {d : Delivery} {rest : List Delivery} {now : Nat} {b : Bool}
    (hlate : now < d.notBefore ∨ d.afterCancel = true ∧ b = false) (m : Nat) :
    instants m (now + 1) b (d :: rest) = instants m now b (d :: rest) := by
  cases m with
  | zero => rfl
  | succ m =>
    rcases hlate with hlate | ⟨hc, hb⟩
    · simp only [instants, Nat.max_eq_right hlate, Nat.max_eq_right (Nat.le_of_lt hlate)]
    · simp [instants, hc, hb]

theorem foretold_step (hw : r.waiting = true) (hs : Step r a r') (hsound : Sound n limit ds r)
    (h : Foretold n ds r) : Foretold n ds r' := by
  have hmissing := hsound.missing hw
  cases hs with
  | @deliver d rest ha ht hc =>
    refine ⟨fun he t htimes => ?_, fun he _ _ => h.now_mem he hmissing ha ht hc⟩
    rw [foreseen_deliver, List.length_append, List.length_singleton, ← Nat.sub_sub] at htimes
    cases hm : n - r.collected.received - r.queue.length with
    | zero =>
      rw [hm] at htimes
      cases htimes
    | succ m =>
      rw [hm, Nat.add_sub_cancel] at htimes
      refine h.times he t ?_
      have hfree : (d.afterCancel && !r.foreseen) = false := by
        cases hac : d.afterCancel with
        | false => rfl
        | true => simp [foreseen_of_free hc hac]
      rw [hm, ha, instants, hfree, Nat.max_eq_left ht]
      exact List.mem_cons_of_mem _ htimes
  | close ha ho => exact ⟨h.times, fun he hm _ => h.news he hm (.inr ha)⟩
  | @receive x rest hq =>
    have hlength : n - (r.collected.received + 1) - rest.length =
        n - r.collected.received - (rest.length + 1) := by omega
    refine ⟨fun he t htimes => ?_, fun he hm _ => ?_⟩
    · rw [deadlineExceeded_receive] at he
      refine h.times he t ?_
      rw [foreseen_receive hsound hq, received_receive, hlength] at htimes
      rwa [hq, List.length_cons]
    · rw [deadlineExceeded_receive] at he
      exact h.news he hmissing (.inl (by simp [hq]))
  | hangUp hq hc => exact ⟨h.times, h.news⟩
  | expire ht he => exact ⟨nofun, nofun⟩
  | @pass d rest ha hq hlate hd =>
    refine ⟨fun he t htimes => h.times he t ?_, fun _ _ hnews => ?_⟩
    · have hforeseen : { r with now := r.now + 1 }.foreseen = r.collected.cancelled := foreseen_nil hq
      rw [hforeseen, ha, instants_pass hlate] at htimes
      rwa [ha, foreseen_nil hq]
    · rcases hnews with hnews | hnews
      · exact absurd hq hnews
      · rw [ha] at hnews
        cases hnews

theorem foretold_run (h : r.run as = some r') (hsound : Sound n limit ds r) (h0 : Foretold n ds r) :
    Sound n limit ds r' ∧ Foretold n ds r' := by
  refine foldlM_induction (P := fun r => Sound n limit ds r ∧ Foretold n ds r) (fun hs h => ?_) h ⟨hsound, h0⟩
  obtain ⟨hw, hstep⟩ := step_of_eq_some hs
  exact ⟨sound_step hw hstep h.1, foretold_step hw hstep h.1 h.2⟩

/-- If nothing comes just when the deadline passes, a barrier that waits then has all that came before it,
and the next delivery has to wait. -/
theorem quiet (hw : r.waiting = true) (hsound : Sound n limit ds r) (h : Foretold n ds r)
    (he : r.collected.deadlineExceeded = false) (hnow : limit ≤ r.now) (hout : limit ∉ instants n 0 false ds) :
    r.queue = [] ∧ r.closed = false ∧ ∃ d rest, r.ahead = d :: rest ∧
      (limit < d.notBefore ∨ d.afterCancel = true ∧ r.collected.cancelled = false) := by
  have hlimit : r.now = limit := Nat.le_antisymm (hsound.early he) hnow
  have hmissing := hsound.missing hw
  have hnothing : ¬ (r.queue ≠ [] ∨ r.ahead = []) := fun hc => hout (hlimit ▸ h.news he hmissing hc)
  rw [not_or, not_not] at hnothing
  obtain ⟨hq, ha⟩ := hnothing
  obtain ⟨d, rest, ha'⟩ := List.exists_cons_of_ne_nil ha
  refine ⟨hq, Bool.eq_false_iff.2 fun hc => ha (hsound.closed hc), d, rest, ha', ?_⟩
  by_contra hready
  rw [not_or, Nat.not_lt, not_and, Bool.not_eq_false, ← hlimit] at hready
  exact hout (hlimit ▸ h.now_mem he hmissing ha' hready.1 hready.2)

/-- Then the deadline is the next to happen. -/
theorem only_expire (hw : r.waiting = true) (hs : Step r a r') (hsound : Sound n limit ds r)
    (h : Foretold n ds r) (he : r.collected.deadlineExceeded = false) (hnow : limit ≤ r.now)
    (hout : limit ∉ instants n 0 false ds) : r'.collected = Barrier.expire r.collected := by
  obtain ⟨hq, ho, d, rest, ha, hlate⟩ := quiet hw hsound h he hnow hout
  have hlimit : r.now = limit := Nat.le_antisymm (hsound.early he) hnow
  cases hs with
  | deliver ha' ht hc =>
    cases ha.symm.trans ha'
    rcases hlate with hlate | ⟨hac, hlate⟩
    · omega
    · rw [hc hac] at hlate
      cases hlate
  | close ha' => cases ha.symm.trans ha'
  | receive hq' => cases hq.symm.trans hq'
  | hangUp hq' hc => cases ho.symm.trans hc
  | expire => rfl
  | pass ha' hq' hlate' hd =>
    rcases hd with hd | hd
    · rw [hsound.deadline] at hd
      omega
    · cases he.symm.trans hd

/-- However far the barrier and the sender have come, it is settled what will be collected. -/
theorem collect_events_step (hw : r.waiting = true) (hs : Step r a r') (hsound : Sound n limit ds r)
    (h : Foretold n ds r) (hout : limit ∉ instants n 0 false ds) :
    collect n r'.collected r'.events = collect n r.collected r.events := by
  have hmissing := hsound.missing hw
  cases hs with
  | @deliver d rest ha ht hc =>
    suffices hsame : { r with ahead := rest, queue := r.queue ++ [d.result] }.events = r.events by rw [hsame]
    cases he : r.collected.deadlineExceeded with
    | true =>
      simp only [events, limit?, he, if_true, ha, timeline_come_late ht, timeline_none _ _ true, List.map_append,
        List.append_assoc, List.map_cons, List.map_nil, List.singleton_append]
    | false =>
      have hnow : r.now ≤ r.deadline := hsound.deadline ▸ hsound.early he
      simp only [events, limit?_of_early, he, ha, timeline_come ht (foreseen_of_free hc) hnow, foreseen_deliver,
        List.map_append, List.append_assoc, List.map_cons, List.map_nil, List.singleton_append]
  | close ha ho => rfl
  | @receive x rest hq =>
    have hfirst : r.events =
        .result x :: { r with queue := rest, collected := Barrier.receive r.collected x }.events := by
      simp only [events, foreseen_receive hsound hq, limit?, deadlineExceeded_receive, hq, List.map_cons,
        List.cons_append]
    rw [hfirst, collect, if_pos hmissing]
  | hangUp hq hc => rfl
  | expire ht he =>
    obtain ⟨hq, -, d, rest, ha, hlate⟩ := quiet hw hsound h he (hsound.deadline ▸ ht) hout
    have hlimit : r.now = limit := Nat.le_antisymm (hsound.early he) (hsound.deadline ▸ ht)
    have hfirst : r.events = .deadline :: { r with collected := Barrier.expire r.collected }.events := by
      simp only [events, hq, ha, limit?_of_early he, foreseen_nil hq, hlimit, hsound.deadline,
        timeline_wait hlate (Nat.le_refl limit)]
      simp [limit?, Barrier.expire, timeline]
    rw [hfirst, collect, if_pos hmissing, he]
    rfl
  | @pass d rest ha hq hlate hd =>
    have hsame : timeline (r.now + 1) r.limit? r.foreseen r.ahead =
        timeline r.now r.limit? r.foreseen r.ahead := by
      rw [ha, foreseen_nil hq]
      cases he : r.collected.deadlineExceeded with
      | true => rw [limit?_of_late he, timeline_pass_late (hsound.before_of_late hlate he)]
      | false => rw [limit?_of_early he, timeline_pass hlate (hd.resolve_right (by simp [he]))]
    exact congrArg (fun es => collect n r.collected (r.queue.map .result ++ es)) hsame

/-- The deadline passes once, and only when it is due. -/
theorem deadlineExceeded_step (hs : Step r a r') :
    r'.collected.deadlineExceeded = r.collected.deadlineExceeded ∨
      r.deadline ≤ r.now ∧ r.collected.deadlineExceeded = false := by
  cases hs with
  | expire ht he => exact .inr ⟨ht, he⟩
  | receive hq => exact .inl (deadlineExceeded_receive ..)
  | _ => exact .inl rfl

theorem deadlineExceeded_run (h : r.run as = some r') (he : r.collected.deadlineExceeded = true) :
    r'.collected.deadlineExceeded = true := by
  refine foldlM_induction (P := fun r => r.collected.deadlineExceeded = true) (fun hs he => ?_) h he
  rcases deadlineExceeded_step (step_of_eq_some hs).2 with hsame | ⟨-, hnot⟩
  · exact hsame.trans he
  · cases he.symm.trans hnot

/-- A deadline that has passed did so at some moment of the run, while the barrier waited. -/
theorem exists_expiry (h : r.run as = some r') (he : r.collected.deadlineExceeded = false)
    (he' : r'.collected.deadlineExceeded = true) :
    ∃ before after s, as = before ++ after ∧ r.run before = some s ∧ s.waiting = true ∧ s.deadline ≤ s.now ∧
      s.collected.deadlineExceeded = false := by
  induction as generalizing r with
  | nil =>
    cases h
    cases he.symm.trans he'
  | cons a as ih =>
    obtain ⟨r₁, h₁, h₂⟩ := foldlM_cons_eq_some h
    obtain ⟨hw, hs⟩ := step_of_eq_some h₁
    rcases deadlineExceeded_step hs with hsame | ⟨ht, -⟩
    · obtain ⟨before, after, s, rfl, hrun, hs⟩ := ih h₂ (hsame.trans he)
      exact ⟨a :: before, after, s, rfl, foldlM_cons h₁ hrun, hs⟩
    · exact ⟨[], a :: as, r, rfl, rfl, hw, ht, he⟩

theorem collect_of_full {c : Collected} (h : c.received = n) (es : List Event) : collect n c es = c := by
  cases es <;> simp [collect, h]

/-- When the barrier comes to its end, there is nothing more that it would take. -/
theorem collect_events_of_ended (hw : r.waiting = false) (h : Sound n limit ds r) :
    collect n r.collected r.events = r.collected := by
  rcases h.full_or_exhausted hw with hfull | ⟨hq, ha⟩
  · exact collect_of_full hfull _
  · have hlast : r.events = [.closed] := by
      rw [events, hq, ha]
      rfl
    simp [hlast, collect]

theorem collect_events_run (h : r.run as = some r') (hsound : Sound n limit ds r) (hf : Foretold n ds r)
    (hout : limit ∉ instants n 0 false ds) :
    collect n r'.collected r'.events = collect n r.collected r.events := by
  induction as generalizing r with
  | nil =>
    cases h
    rfl
  | cons a as ih =>
    obtain ⟨r₁, h₁, h₂⟩ := foldlM_cons_eq_some h
    obtain ⟨hw, hs⟩ := step_of_eq_some h₁
    rw [ih h₂ (sound_step hw hs hsound) (foretold_step hw hs hsound hf),
      collect_events_step hw hs hsound hf hout]

/-- What was collected without a rejection before the deadline did not cancel the cycle. -/
theorem Sound.not_cancelled (h : Sound n limit ds r) (hw : r.waiting = false) (hnow : r.now < limit)
    (hr : ∀ d ∈ ds.take n, rejects d.result = false) : r.collected.cancelled = false := by
  have he : r.collected.deadlineExceeded = false := Bool.eq_false_iff.2 fun he => by
    have := h.late he
    omega
  have hnone : r.collected.rejection = none := by
    rw [(h.taken hw).rejection, ← List.map_take, List.findSome?_eq_none_iff]
    intro x hx
    obtain ⟨d, hd, rfl⟩ := List.mem_map.1 hx
    rw [← Option.isSome_eq_false_iff.trans Option.isNone_iff_eq_none, ← rejects_eq]
    exact hr d hd
  simp [h.cancelled, he, hnone]

/-- If nothing comes just when the deadline passes, the deadline counts exactly if at that time the barrier
still waits for results and the channel is open. -/
theorem deadlineExceeded_iff (h : (begin n limit ds).run as = some r) (hw : r.waiting = false)
    (hout : limit ∉ instants n 0 false ds) :
    r.collected.deadlineExceeded = true ↔
      ∃ before after s, as = before ++ after ∧ (begin n limit ds).run before = some s ∧ s.now = limit ∧
        s.collected.received < n ∧ s.closed = false := by
  constructor
  · intro he
    obtain ⟨before, after, s, has, hs, hwaits, hdue, hnot⟩ := exists_expiry h rfl he
    obtain ⟨hsound, hforetold⟩ := foretold_run hs (sound_begin n limit ds) (foretold_begin n limit ds)
    rw [hsound.deadline] at hdue
    obtain ⟨-, hopen, -⟩ := quiet hwaits hsound hforetold hnot hdue hout
    exact ⟨before, after, s, has, hs, Nat.le_antisymm (hsound.early hnot) hdue, hsound.missing hwaits, hopen⟩
  · rintro ⟨before, after, s, rfl, hs, hnow, hmissing, hopen⟩
    obtain ⟨s', hs', hrest⟩ := foldlM_append_eq_some h
    cases hs.symm.trans hs'
    obtain ⟨hsound, hforetold⟩ := foretold_run hs (sound_begin n limit ds) (foretold_begin n limit ds)
    have htold : s.told = false := Bool.eq_false_iff.2 fun ht => by
      cases hopen.symm.trans (hsound.told ht).1
    have hwaits : s.waiting = true := waiting_iff.2 ⟨hsound.expected ▸ hmissing, htold⟩
    by_cases he : s.collected.deadlineExceeded = true
    · exact deadlineExceeded_run hrest he
    -- the barrier is not at its end yet, and all that can happen is that the deadline passes
    cases after with
    | nil =>
      cases hrest
      cases hw.symm.trans hwaits
    | cons a after =>
      obtain ⟨s₁, h₁, h₂⟩ := foldlM_cons_eq_some hrest
      obtain ⟨-, hstep⟩ := step_of_eq_some h₁
      have hexpired := only_expire hwaits hstep hsound hforetold (Bool.eq_false_iff.2 he)
        (Nat.le_of_eq hnow.symm) hout
      exact deadlineExceeded_run h₂ (by rw [hexpired]; rfl)

/-- The deadline releases the barrier. However the steps fall of a barrier that expects `n` results and of a
sender that makes the deliveries `ds` and then closes the channel, there is a bound on their number, and the
barrier is not stuck before it has come to its end. It has then received the first `n` results, or all if
there are fewer, those included that wait for the cancellation; and it has not cancelled the cycle if it was
done before the deadline and none of them was a rejection. If nothing comes just when the deadline passes,
the deadline counts exactly if the barrier then still waited for results on an open channel, and what it has
collected is what is computed for the deliveries. -/
theorem released_by_deadline (h : (begin n limit ds).run as = some r) :
    as.length ≤ (begin n limit ds).owed ∧
      (r.waiting = true → ∃ a r', r.step a = some r') ∧
      (r.waiting = false →
        r.collected.received = min n ds.length ∧
        r.collected.Accounts ((ds.map (·.result)).take n) ∧
        (r.now < limit → (∀ d ∈ ds.take n, rejects d.result = false) → r.collected.cancelled = false) ∧
        (limit ∉ instants n 0 false ds →
          (r.collected.deadlineExceeded = true ↔
            ∃ before after s, as = before ++ after ∧ (begin n limit ds).run before = some s ∧ s.now = limit ∧
              s.collected.received < n ∧ s.closed = false) ∧
          r.collected = collectTimed n limit ds)) := by
  have hbegin := sound_begin n limit ds
  have hsound := sound_run h hbegin
  have hlength := length_le_owed hbegin h
  refine ⟨by omega, exists_step, fun hw => ⟨?_, hsound.taken hw, hsound.not_cancelled hw, fun hout => ⟨?_, ?_⟩⟩⟩
  · rw [(hsound.taken hw).received, List.length_take, List.length_map]
  · exact deadlineExceeded_iff h hw hout
  · have hevents := collect_events_run h hbegin (foretold_begin n limit ds) hout
    rwa [collect_events_of_ended hw hsound] at hevents

/-- One result comes by itself and another only after the cycle is cancelled. -/
def stragglers : List Delivery :=
  [⟨⟨.ofKind .subscriptions, .error (.httpStatus 503)⟩, 1, false⟩,
    ⟨⟨.ofKind .apis, .error .cancelled⟩, 0, true⟩]

def untilDeadline : List Act := [.pass, .send, .receive, .pass, .pass]

theorem released_by_deadline_stragglers :
    ∃ r, (begin 2 3 stragglers).run (untilDeadline ++ [.expire, .send, .receive]) = some r ∧
      r.waiting = false ∧ 3 ∉ instants 2 0 false stragglers ∧ r.collected.received = 2 ∧
      r.collected.failures =
        [⟨.ofKind .subscriptions, .fetch (.httpStatus 503)⟩, ⟨.ofKind .apis, .fetch .cancelled⟩] ∧
      r.collected.deadlineExceeded = true ∧ r.collected = collectTimed 2 3 stragglers := by
  obtain ⟨r, h, hw⟩ : ∃ r, (begin 2 3 stragglers).run (untilDeadline ++ [.expire, .send, .receive]) = some r ∧
      r.waiting = false := ⟨_, rfl, rfl⟩
  have hout : 3 ∉ instants 2 0 false stragglers := by decide
  obtain ⟨-, -, hend⟩ := released_by_deadline h
  obtain ⟨hreceived, haccounts, -, hdeadline⟩ := hend hw
  obtain ⟨hexceeded, hcollected⟩ := hdeadline hout
  refine ⟨r, h, hw, hout, hreceived, haccounts.failures, ?_, hcollected⟩
  exact hexceeded.2 ⟨untilDeadline, _, _, rfl, rfl, rfl, by decide, rfl⟩

end Rendezvous

end GatewayFeed.Barrier
