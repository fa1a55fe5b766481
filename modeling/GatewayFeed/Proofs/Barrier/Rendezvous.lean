import GatewayFeed.Proofs.Barrier.Interruption
import GatewayFeed.Proofs.Run

/-! A barrier and a sender on one clock. The sender makes its deliveries one after another, none before its
time and some not before the cycle is cancelled, and then closes the channel; the barrier takes what comes,
and the deadline wakes it. The clock is a simulated one: time passes only when neither has anything to do.
However their steps fall, the barrier comes to its end after a bounded number of them, and has then taken
the first results in the order of the deliveries. -/

namespace GatewayFeed.Barrier

structure Rendezvous where
  expected : Nat
  /-- When the deadline passes, in milliseconds. -/
  deadline : Nat
  now : Nat := 0
  /-- What the sender has not delivered yet. -/
  ahead : List Delivery
  closed : Bool := false
  queue : List FetchResult := []
  collected : Collected := {}
  /-- Whether the barrier has found the channel closed. -/
  told : Bool := false

namespace Rendezvous

inductive Act where
  /-- The sender delivers, or closes the channel if nothing is left. -/
  | send
  /-- The barrier looks into the channel. -/
  | receive
  /-- The deadline wakes the barrier. -/
  | expire
  | pass

/-- Whether the barrier goes on. -/
def waiting (r : Rendezvous) : Bool := r.collected.received < r.expected && !r.told

/-- Whether the sender can go on. -/
def ready (r : Rendezvous) : Bool :=
  match r.ahead with
  | d :: _ => d.notBefore ≤ r.now && (!d.afterCancel || r.collected.cancelled)
  | [] => !r.closed

def due (r : Rendezvous) : Bool := r.deadline ≤ r.now && !r.collected.deadlineExceeded

/-- Whether all there is to do is to wait. -/
def idle (r : Rendezvous) : Bool := !r.ready && r.queue.isEmpty && !r.closed && !r.due

/-- Nothing happens once the barrier has come to its end. -/
def step (r : Rendezvous) (a : Act) : Option Rendezvous :=
  if r.waiting then
    match a with
    | .send =>
      if r.ready then
        match r.ahead with
        | d :: rest => some { r with ahead := rest, queue := r.queue ++ [d.result] }
        | [] => some { r with closed := true }
      else none
    | .receive =>
      match r.queue with
      | x :: rest => some { r with queue := rest, collected := Barrier.receive r.collected x }
      | [] => if r.closed then some { r with told := true } else none
    | .expire => if r.due then some { r with collected := Barrier.expire r.collected } else none
    | .pass => if r.idle then some { r with now := r.now + 1 } else none
  else none

def run (r : Rendezvous) (as : List Act) : Option Rendezvous := as.foldlM step r

def begin (expected deadline : Nat) (ds : List Delivery) : Rendezvous where
  expected
  deadline
  ahead := ds

/-- What a single step can do. -/
inductive Step (r : Rendezvous) : Act → Rendezvous → Prop
  | deliver {d : Delivery} {rest : List Delivery} (ha : r.ahead = d :: rest) (ht : d.notBefore ≤ r.now)
      (hc : d.afterCancel = true → r.collected.cancelled = true) :
      Step r .send { r with ahead := rest, queue := r.queue ++ [d.result] }
  | close (ha : r.ahead = []) (ho : r.closed = false) : Step r .send { r with closed := true }
  | receive {x : FetchResult} {rest : List FetchResult} (hq : r.queue = x :: rest) :
      Step r .receive { r with queue := rest, collected := Barrier.receive r.collected x }
  | hangUp (hq : r.queue = []) (hc : r.closed = true) : Step r .receive { r with told := true }
  | expire (ht : r.deadline ≤ r.now) (he : r.collected.deadlineExceeded = false) :
      Step r .expire { r with collected := Barrier.expire r.collected }
  | pass {d : Delivery} {rest : List Delivery} (ha : r.ahead = d :: rest) (hq : r.queue = [])
      (hlate : r.now < d.notBefore ∨ d.afterCancel = true ∧ r.collected.cancelled = false)
      (hd : r.now < r.deadline ∨ r.collected.deadlineExceeded = true) :
      Step r .pass { r with now := r.now + 1 }

variable {n limit : Nat} {ds : List Delivery} {r r' : Rendezvous} {a : Act} {as : List Act}

theorem ready_cons {d : Delivery} {rest : List Delivery} (ha : r.ahead = d :: rest) :
    r.ready = true ↔ d.notBefore ≤ r.now ∧ (d.afterCancel = true → r.collected.cancelled = true) := by
  cases hc : d.afterCancel <;> simp [ready, ha, hc]

theorem ready_nil (ha : r.ahead = []) : r.ready = true ↔ r.closed = false := by
  simp [ready, ha]

theorem due_iff : r.due = true ↔ r.deadline ≤ r.now ∧ r.collected.deadlineExceeded = false := by
  simp [due]

/-- As long as there is nothing to do, the next delivery has to wait for the clock or for the cycle to be
cancelled, and the deadline is still to come or has passed. -/
theorem of_idle (h : r.idle = true) :
    ∃ d rest, r.ahead = d :: rest ∧ r.queue = [] ∧
      (r.now < d.notBefore ∨ d.afterCancel = true ∧ r.collected.cancelled = false) ∧
      (r.now < r.deadline ∨ r.collected.deadlineExceeded = true) := by
  simp only [idle, Bool.and_eq_true, Bool.not_eq_true', List.isEmpty_iff] at h
  obtain ⟨⟨⟨hready, hq⟩, ho⟩, hdue⟩ := h
  rw [← Bool.not_eq_true, due_iff, not_and, Bool.not_eq_false] at hdue
  cases ha : r.ahead with
  | nil =>
    rw [(ready_nil ha).2 ho] at hready
    cases hready
  | cons d rest =>
    rw [← Bool.not_eq_true, ready_cons ha, not_and_or, Classical.not_imp, Bool.not_eq_true] at hready
    refine ⟨d, rest, rfl, hq, ?_, ?_⟩
    · exact hready.imp_left Nat.lt_of_not_le
    · by_cases hd : r.deadline ≤ r.now
      · exact .inr (hdue hd)
      · exact .inl (Nat.lt_of_not_le hd)

theorem step_of_eq_some (h : r.step a = some r') : r.waiting = true ∧ Step r a r' := by
  unfold step at h
  split at h
  · rename_i hw
    refine ⟨hw, ?_⟩
    cases a with
    | send =>
      simp only at h
      split at h
      · rename_i hready
        split at h
        · rename_i d rest ha
          cases h
          obtain ⟨ht, hc⟩ := (ready_cons ha).1 hready
          exact .deliver ha ht hc
        · rename_i ha
          cases h
          exact .close ha ((ready_nil ha).1 hready)
      · cases h
    | receive =>
      simp only at h
      split at h
      · rename_i x rest hq
        cases h
        exact .receive hq
      · rename_i hq
        split at h
        · rename_i hc
          cases h
          exact .hangUp hq hc
        · cases h
    | expire =>
      simp only at h
      split at h
      · rename_i hdue
        cases h
        obtain ⟨ht, he⟩ := due_iff.1 hdue
        exact .expire ht he
      · cases h
    | pass =>
      simp only at h
      split at h
      · rename_i hidle
        cases h
        obtain ⟨d, rest, ha, hq, hlate, hd⟩ := of_idle hidle
        exact .pass ha hq hlate hd
      · cases h
  · cases h

/-- A barrier that goes on is never stuck: if nothing else can happen, time passes. -/
theorem exists_step (hw : r.waiting = true) : ∃ a r', r.step a = some r' := by
  suffices hsome : ∃ a, (r.step a).isSome = true from hsome.imp fun a => Option.isSome_iff_exists.1
  by_cases hdue : r.due = true
  · exact ⟨.expire, by simp [step, hw, hdue]⟩
  by_cases hready : r.ready = true
  · cases ha : r.ahead <;> exact ⟨.send, by simp [step, hw, hready, ha]⟩
  cases hq : r.queue with
  | cons x rest => exact ⟨.receive, by simp [step, hw, hq]⟩
  | nil =>
    by_cases hc : r.closed = true
    · exact ⟨.receive, by simp [step, hw, hq, hc]⟩
    · have hidle : r.idle = true := by simp [idle, hready, hq, hc, hdue]
      exact ⟨.pass, by simp [step, hw, hidle]⟩

/-- What holds of a barrier and its sender at any time. -/
structure Sound (n limit : Nat) (ds : List Delivery) (r : Rendezvous) : Prop where
  expected : r.expected = n
  deadline : r.deadline = limit
  delivered : ∃ got, r.collected.Accounts got ∧
    ds.map (·.result) = got ++ r.queue ++ r.ahead.map (·.result)
  received : r.collected.received ≤ n
  cancelled : r.collected.cancelled = (r.collected.rejection.isSome || r.collected.deadlineExceeded)
  closed : r.closed = true → r.ahead = []
  told : r.told = true → r.closed = true ∧ r.queue = []
  early : r.collected.deadlineExceeded = false → r.now ≤ limit
  late : r.collected.deadlineExceeded = true → limit ≤ r.now

theorem sound_begin (n limit : Nat) (ds : List Delivery) : Sound n limit ds (begin n limit ds) where
  expected := rfl
  deadline := rfl
  delivered := ⟨[], accounts_nil, rfl⟩
  received := Nat.zero_le n
  cancelled := rfl
  closed := nofun
  told := nofun
  early _ := Nat.zero_le limit
  late := nofun

theorem waiting_iff : r.waiting = true ↔ r.collected.received < r.expected ∧ r.told = false := by
  simp [waiting]

theorem sound_step (hw : r.waiting = true) (hs : Step r a r') (h : Sound n limit ds r) : Sound n limit ds r' := by
  obtain ⟨hexpected, hdeadline, ⟨got, haccounts, hall⟩, hreceived, hcancelled, hclosed, htold, hearly, hlate⟩ := h
  obtain ⟨hmissing, hnot⟩ := waiting_iff.1 hw
  cases hs with
  | @deliver d rest ha ht hc =>
    refine ⟨hexpected, hdeadline, ⟨got, haccounts, ?_⟩, hreceived, hcancelled, ?_, ?_, hearly, hlate⟩
    · simp [hall, ha]
    · intro hc
      rw [hclosed hc] at ha
      cases ha
    · intro ht
      rw [hnot] at ht
      cases ht
  | close ha ho =>
    refine ⟨hexpected, hdeadline, ⟨got, haccounts, hall⟩, hreceived, hcancelled, fun _ => ha, ?_, hearly, hlate⟩
    intro ht
    rw [hnot] at ht
    cases ht
  | @receive x rest hq =>
    refine ⟨hexpected, hdeadline, ⟨got ++ [x], accounts_receive haccounts x, ?_⟩, ?_,
      cancelled_receive hcancelled x, hclosed, ?_, ?_, ?_⟩
    · simp [hall, hq]
    · rw [received_receive]
      omega
    · intro ht
      rw [hnot] at ht
      cases ht
    · rw [deadlineExceeded_receive]
      exact hearly
    · rw [deadlineExceeded_receive]
      exact hlate
  | hangUp hq hc =>
    exact ⟨hexpected, hdeadline, ⟨got, haccounts, hall⟩, hreceived, hcancelled, hclosed, fun _ => ⟨hc, hq⟩,
      hearly, hlate⟩
  | expire ht he =>
    refine ⟨hexpected, hdeadline, ⟨got, accounts_expire haccounts, hall⟩, hreceived, ?_, hclosed, htold,
      nofun, fun _ => hdeadline ▸ ht⟩
    simp [Barrier.expire]
  | @pass d rest ha hq hwaits hd =>
    refine ⟨hexpected, hdeadline, ⟨got, haccounts, hall⟩, hreceived, hcancelled, hclosed, htold, ?_, ?_⟩
    · intro he
      rw [he] at hd
      rcases hd with hd | hd
      · exact hdeadline ▸ hd
      · cases hd
    · exact fun he => Nat.le_succ_of_le (hlate he)

theorem sound_run (h : r.run as = some r') (h0 : Sound n limit ds r) : Sound n limit ds r' :=
  foldlM_induction (fun hs h => sound_step (step_of_eq_some hs).1 (step_of_eq_some hs).2 h) h h0

theorem Sound.missing (h : Sound n limit ds r) (hw : r.waiting = true) : r.collected.received < n :=
  h.expected ▸ (waiting_iff.1 hw).1

/-- A barrier comes to its end when it has all results that it expects, or when there are no more. -/
theorem Sound.full_or_exhausted (h : Sound n limit ds r) (hw : r.waiting = false) :
    r.collected.received = n ∨ r.queue = [] ∧ r.ahead = [] := by
  have hreceived := h.received
  rw [← Bool.not_eq_true, waiting_iff, h.expected, not_and, Bool.not_eq_false] at hw
  by_cases hmissing : r.collected.received < n
  · obtain ⟨hclosed, hq⟩ := h.told (hw hmissing)
    exact .inr ⟨hq, h.closed hclosed⟩
  · exact .inl (by omega)

/-- A barrier at its end has taken the first results, as many as it expects if there are so many. -/
theorem Sound.taken (h : Sound n limit ds r) (hw : r.waiting = false) :
    r.collected.Accounts ((ds.map (·.result)).take n) := by
  obtain ⟨got, haccounts, hall⟩ := h.delivered
  have hlength := haccounts.received
  have hreceived := h.received
  suffices hgot : got = (ds.map (·.result)).take n from hgot ▸ haccounts
  rcases h.full_or_exhausted hw with hfull | ⟨hq, ha⟩
  · rw [hall, List.append_assoc, List.take_append_of_le_length (by omega), List.take_of_length_le (by omega)]
  · rw [hall, hq, ha]
    simp only [List.append_nil, List.map_nil]
    exact (List.take_of_length_le (by omega)).symm

/-- A cycle whose deadline has passed is cancelled, so only the clock can keep a delivery back. -/
theorem Sound.before_of_late {d : Delivery} (h : Sound n limit ds r)
    (hlate : r.now < d.notBefore ∨ d.afterCancel = true ∧ r.collected.cancelled = false)
    (he : r.collected.deadlineExceeded = true) : r.now < d.notBefore := by
  have hc := h.cancelled
  rw [he, Bool.or_true] at hc
  simpa [hc] using hlate

/-- The last time at which anything can start to happen by itself. -/
def horizon (r : Rendezvous) : Nat := r.ahead.foldr (fun d t => max d.notBefore t) r.deadline

/-- What is left to be done until the barrier comes to its end. -/
def owed (r : Rendezvous) : Nat :=
  2 * r.ahead.length + r.queue.length + (!r.closed).toNat + (!r.told).toNat
    + (!r.collected.deadlineExceeded).toNat + (r.horizon - r.now)

theorem deadline_le_horizon (r : Rendezvous) : r.deadline ≤ r.horizon := by
  unfold horizon
  induction r.ahead with
  | nil => exact Nat.le_refl _
  | cons d rest ih => exact Nat.le_trans ih (Nat.le_max_right ..)

theorem owed_step_lt (hw : r.waiting = true) (h : Sound n limit ds r) (hs : Step r a r') : r'.owed < r.owed := by
  obtain ⟨-, hnot⟩ := waiting_iff.1 hw
  cases hs with
  | @deliver d rest ha ht hc =>
    simp only [owed, horizon, ha, List.length_cons, List.length_append, List.length_nil, List.foldr_cons]
    omega
  | close ha ho => simp [owed, horizon, ho]
  | receive hq =>
    simp only [owed, horizon, deadlineExceeded_receive, hq, List.length_cons]
    omega
  | hangUp hq hc => simp [owed, horizon, hnot]
  | expire ht he => simp [owed, horizon, Barrier.expire, he]
  | @pass d rest ha hq hlate hd =>
    -- time can only pass as long as something is still to come by itself
    have hhorizon : r.now < r.horizon := by
      by_cases he : r.collected.deadlineExceeded = true
      · have hbefore := h.before_of_late hlate he
        rw [horizon, ha, List.foldr_cons]
        omega
      · exact Nat.lt_of_lt_of_le (hd.resolve_right he) r.deadline_le_horizon
    simp only [owed, horizon] at hhorizon ⊢
    omega

theorem length_le_owed (h : Sound n limit ds r) (hr : r.run as = some r') : as.length + r'.owed ≤ r.owed := by
  induction as generalizing r with
  | nil =>
    cases hr
    simp
  | cons a as ih =>
    obtain ⟨r₁, h₁, h₂⟩ := foldlM_cons_eq_some hr
    obtain ⟨hw, hs⟩ := step_of_eq_some h₁
    have hlt := owed_step_lt hw h hs
    have hle := ih (sound_step hw hs h) h₂
    rw [List.length_cons]
    omega

end Rendezvous

end GatewayFeed.Barrier
