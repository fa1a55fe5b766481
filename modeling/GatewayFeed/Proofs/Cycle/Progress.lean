import Mathlib.Algebra.GroupWithZero.Nat
import GatewayFeed.Proofs.Barrier.Cancelling
import GatewayFeed.Proofs.Cycle.Delivery

/-! A cycle can always come to its end, even if the control plane never answers again: results that are
there are taken, the deadline cancels the fetches that hang, and a cancelled fetch reports. Each of
these steps pays off a part of what the cycle still owes. -/

namespace GatewayFeed

/-- Steps that a fetch needs until the barrier has its result, if it is stopped now. -/
def Worker.owed : Worker → Nat
  | waiting _ => 3
  | trying _ => 3
  | ended _ => 2
  | reported _ => 0

namespace Race

/-- What happens without a word from the control plane or from outside. -/
def Act.isUnaided : Act → Bool
  | start _ => false
  | answer _ _ => false
  | shutdown => false
  | _ => true

theorem ne_shutdown_of_isUnaided {a : Act} (h : a.isUnaided = true) : a ≠ .shutdown := by
  rintro rfl
  cases h

variable {es : List Endpoint} {r r' : Race}

theorem received_lt_of_waiting (hw : r.waiting = true) : r.collected.received < r.workers.length := by
  rw [waiting, Bool.and_eq_true, decide_eq_true_iff] at hw
  exact hw.1

theorem collected_see (hw : r.waiting = true) (e : Barrier.Event) :
    (r.see e).collected = Barrier.collect r.workers.length r.collected [e] :=
  Barrier.collect_append _ _ ((waiting_iff r).1 hw).2 [e]

theorem collected_see_result (hw : r.waiting = true) (x : FetchResult) :
    (r.see (.result x)).collected = Barrier.receive r.collected x := by
  rw [collected_see hw, Barrier.collect, if_pos (received_lt_of_waiting hw), Barrier.collect]

theorem collected_see_deadline (hw : r.waiting = true) (hd : r.collected.deadlineExceeded = false) :
    (r.see .deadline).collected = Barrier.expire r.collected := by
  rw [collected_see hw, Barrier.collect, if_pos (received_lt_of_waiting hw), hd]
  rfl

theorem collected_see_closed (hw : r.waiting = true) : (r.see .closed).collected = r.collected := by
  rw [collected_see hw, Barrier.collect, if_pos (received_lt_of_waiting hw)]

@[simp] theorem collected_setWorker (r : Race) (i : Nat) (e : Endpoint) (w : Worker) :
    (r.setWorker i e w).collected = r.collected := by simp [collected, setWorker]

theorem deadlineExceeded_step {a : Act} (hs : Step r a r') :
    r'.collected.deadlineExceeded = true ↔ r.collected.deadlineExceeded = true ∨ a = .deadline := by
  cases hs with
  | receive hq hw =>
    change (r.see _).collected.deadlineExceeded = true ↔ _
    rw [collected_see_result hw, Barrier.deadlineExceeded_receive]
    simp
  | deadline hw hd =>
    rw [collected_see_deadline hw hd]
    simp [Barrier.expire]
  | hangUp hw hr hq =>
    rw [collected_see_closed hw]
    simp
  | report hi =>
    change (r.setWorker _ _ _).collected.deadlineExceeded = true ↔ _
    simp
  | shutdown =>
    change r.collected.deadlineExceeded = true ↔ _
    simp
  | conclude hw =>
    change r.collected.deadlineExceeded = true ↔ _
    simp
  | _ => simp

/-- The barrier notes the deadline exactly if it passes while results are missing. -/
theorem deadlineExceeded_run {as : List Act} (h : r.run as = some r') :
    r'.collected.deadlineExceeded = true ↔ r.collected.deadlineExceeded = true ∨ Act.deadline ∈ as := by
  induction as generalizing r with
  | nil => cases h; simp
  | cons a as ih =>
    rw [run_cons] at h
    obtain ⟨r₁, h₁, h₂⟩ := Option.bind_eq_some_iff.1 h
    rw [ih h₂, deadlineExceeded_step (step_of_eq_some h₁).2, List.mem_cons, or_assoc,
      @eq_comm _ a]

/-- Steps until the end, if the deadline passes and all fetches are stopped. -/
def owed (r : Race) : Nat :=
  (r.workers.map fun w => w.2.owed).sum + r.queue.length
    + (!r.collected.deadlineExceeded).toNat + r.ending.isNone.toNat

theorem sum_map_set {α : Type} (f : α → Nat) {l : List α} {i : Nat} {a : α} (b : α) (hi : l[i]? = some a) :
    ((l.set i b).map f).sum + f a = (l.map f).sum + f b := by
  obtain ⟨hlt, he⟩ := List.getElem?_eq_some_iff.1 hi
  have hset := ((List.set_perm_cons_eraseIdx hlt b).map f).sum_nat
  have hold := ((List.getElem_cons_eraseIdx_perm hlt).map f).sum_nat
  rw [List.map_cons, List.sum_cons] at hset hold
  rw [he] at hold
  omega

theorem owed_setWorker {i : Nat} {e : Endpoint} {w : Worker} (w' : Worker)
    (hi : r.workers[i]? = some (e, w)) : (r.setWorker i e w').owed + w.owed = r.owed + w'.owed := by
  have hsum := sum_map_set (fun w : Endpoint × Worker => w.2.owed) (e, w') hi
  have howed : (r.setWorker i e w').owed = ((r.workers.set i (e, w')).map fun w => w.2.owed).sum
      + r.queue.length + (!r.collected.deadlineExceeded).toNat + r.ending.isNone.toNat := by
    rw [owed, collected_setWorker]
    rfl
  rw [howed, owed]
  simp only at hsum
  omega

theorem owed_setWorker_lt {i : Nat} {e : Endpoint} {w w' : Worker} (hi : r.workers[i]? = some (e, w))
    (hlt : w'.owed < w.owed) : (r.setWorker i e w').owed < r.owed := by
  have howed := owed_setWorker w' hi
  omega

theorem exists_unreported (hr : r.allReported = false) :
    ∃ (i : Nat) (e : Endpoint) (w : Worker), r.workers[i]? = some (e, w) ∧ w.report? e = none := by
  rw [allReported, List.all_eq_false] at hr
  rcases hr with ⟨⟨e, w⟩, hmem, hw⟩
  obtain ⟨i, hi⟩ := List.getElem?_of_mem hmem
  exact ⟨i, e, w, hi, by simpa using hw⟩

/-- A step that needs no help pays off something. -/
theorem owed_step_lt {a : Act} (h : Sound es r) (he : r.ending = none) (hs : Step r a r')
    (ha : a.isUnaided = true) : r'.owed < r.owed := by
  cases hs with
  | start hi hc => cases ha
  | answer hi ho hc => cases ha
  | shutdown => cases ha
  | stopWaiting hi hc => exact owed_setWorker_lt hi (Nat.lt_succ_self 2)
  | stopTrying hi hc => exact owed_setWorker_lt hi (Nat.lt_succ_self 2)
  | @report i e x hi =>
    have howed := owed_setWorker (.reported x) hi
    have hcollected : ({ r.setWorker i e (.reported x) with queue := r.queue ++ [x.result e] } :
        Race).collected = r.collected := collected_setWorker r i e _
    rw [owed, collected_setWorker] at howed
    rw [owed, hcollected]
    simp only [Worker.owed, setWorker, List.length_append, List.length_singleton] at howed ⊢
    omega
  | @receive x rest hq hw =>
    have hcollected : ({ r.see (.result x) with queue := rest } : Race).collected =
        Barrier.receive r.collected x := collected_see_result hw x
    rw [owed, owed, hcollected, Barrier.deadlineExceeded_receive, hq]
    simp only [see, List.length_cons]
    omega
  | deadline hw hd =>
    rw [owed, collected_see_deadline hw hd, owed, hd]
    simp [see, Barrier.expire]
  | hangUp hw hr hq => exact absurd hq (h.not_exhausted hw hr)
  | conclude hw =>
    have hcollected : r.conclude.collected = r.collected := rfl
    rw [owed, owed, hcollected, he]
    simp [conclude]

/-- A fetch that has not ended can be stopped, or the deadline can pass. -/
theorem exists_unaided_of_unended {i : Nat} {e : Endpoint} {w : Worker} (hw : r.waiting = true)
    (hi : r.workers[i]? = some (e, w)) (hu : (∃ n, w = .waiting n) ∨ ∃ n, w = .trying n) :
    ∃ a r', a.isUnaided = true ∧ Step r a r' := by
  cases hc : r.cancelled with
  | true =>
    rcases hu with ⟨n, rfl⟩ | ⟨n, rfl⟩
    · exact ⟨_, _, rfl, .stopWaiting hi hc⟩
    · exact ⟨_, _, rfl, .stopTrying hi hc⟩
  | false =>
    rw [cancelled, collected, Barrier.cancelled_collect, Bool.or_eq_false_iff, Bool.or_eq_false_iff] at hc
    exact ⟨_, _, rfl, .deadline hw hc.1.2⟩

/-- A cycle that has not ended can go on unaided. -/
theorem exists_unaided (h : Sound es r) : ∃ a r', a.isUnaided = true ∧ Step r a r' := by
  cases hw : r.waiting with
  | false => exact ⟨_, _, rfl, .conclude hw⟩
  | true =>
    cases hq : r.queue with
    | cons x rest => exact ⟨_, _, rfl, .receive hq hw⟩
    | nil =>
      -- nothing is on its way, so some fetch has not reported
      have hr : r.allReported = false := by
        rw [← Bool.not_eq_true]
        intro hr
        exact h.not_exhausted hw hr hq
      obtain ⟨i, e, w, hi, hnone⟩ := exists_unreported hr
      cases w with
      | waiting n => exact exists_unaided_of_unended hw hi (.inl ⟨n, rfl⟩)
      | trying n => exact exists_unaided_of_unended hw hi (.inr ⟨n, rfl⟩)
      | ended x => exact ⟨_, _, rfl, .report hi⟩
      | reported x => cases hnone

/-- Wherever a cycle stands, it can come to its end unaided. -/
theorem exists_ending (h : Sound es r) :
    ∃ bs r', (∀ b ∈ bs, b.isUnaided = true) ∧ r.run bs = some r' ∧ r'.ending.isSome = true := by
  induction hn : r.owed using Nat.strongRecOn generalizing r with
  | ind n ih =>
    cases he : r.ending with
    | some e => exact ⟨[], r, nofun, rfl, by rw [he]; rfl⟩
    | none =>
      obtain ⟨a, r₁, ha, hs⟩ := exists_unaided h
      have hlt := owed_step_lt h he hs ha
      obtain ⟨bs, r', hbs, hrun, hend⟩ := ih _ (hn ▸ hlt) (sound_step hs h) rfl
      refine ⟨a :: bs, r', List.forall_mem_cons.2 ⟨ha, hbs⟩, ?_, hend⟩
      rw [run_cons, hs.eq_some he]
      exact hrun

end Race

end GatewayFeed
