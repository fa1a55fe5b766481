import GatewayFeed.Proofs.Cycle.Progress
import GatewayFeed.Proofs.Run

/-! A load cycle whose fetches are tasks, and run when they are polled. A poll looks at the cycle's token
first. Only if that is not cancelled does the fetch go on, and then as far as it finds its delay over or its
attempt answered, which may be several attempts in one poll. So what a cancelled cycle does is the same
whether it is told poll by poll or step by step. -/

namespace GatewayFeed.Race

/-- What lets a fetch go on that is polled. -/
inductive Found where
  | delayOver
  | answered (o : Outcome)

def Found.act (i : Nat) : Found → Act
  | delayOver => .start i
  | answered o => .answer i o

/-- Steps that are not polls of fetches are those of the cycle. -/
inductive Poll where
  | fetch (i : Nat) (found : List Found)
  | other (a : Act)

/-- What happens only when a fetch is polled. -/
def Act.isOfFetch : Act → Bool
  | start _ | answer _ _ | stop _ => true
  | _ => false

def poll (r : Race) : Poll → Option Race
  | .fetch i found => if r.cancelled then r.step (.stop i) else r.run (found.map (Found.act i))
  | .other a => if a.isOfFetch then none else r.step a

def polls (r : Race) (qs : List Poll) : Option Race := qs.foldlM poll r

variable {es : List Endpoint} {r r' : Race} {q : Poll} {qs : List Poll}

/-- What a poll comes to once the cycle is cancelled. -/
def Poll.late : Poll → Act
  | fetch i _ => .stop i
  | other a => a

theorem step_late (hc : r.cancelled = true) (h : r.poll q = some r') : r.step q.late = some r' := by
  cases q with
  | fetch i found => rwa [poll, if_pos hc] at h
  | other a =>
    simp only [poll] at h
    split at h
    · cases h
    · exact h

theorem exists_run_of_poll (h : r.poll q = some r') : ∃ as, r.run as = some r' := by
  cases q with
  | fetch i found =>
    simp only [poll] at h
    split at h
    · exact ⟨[.stop i], foldlM_cons h rfl⟩
    · exact ⟨_, h⟩
  | other a =>
    simp only [poll] at h
    split at h
    · cases h
    · exact ⟨[a], foldlM_cons h rfl⟩

/-- Polls do nothing that a cycle cannot do. -/
theorem exists_run_of_polls (h : r.polls qs = some r') : ∃ as, r.run as = some r' := by
  induction qs generalizing r with
  | nil => exact ⟨[], h⟩
  | cons q qs ih =>
    obtain ⟨r₁, h₁, h₂⟩ := foldlM_cons_eq_some h
    obtain ⟨as, has⟩ := exists_run_of_poll h₁
    obtain ⟨bs, hbs⟩ := ih h₂
    exact ⟨as ++ bs, foldlM_append has hbs⟩

/-- A step that a cancelled cycle can take is one of its polls. -/
theorem exists_poll {a : Act} (hc : r.cancelled = true) (h : Step r a r') (he : r.ending = none) :
    ∃ q, q.late = a ∧ r.poll q = some r' := by
  have hstep := h.eq_some he
  cases h with
  | start hi hn =>
    rw [hc] at hn
    cases hn
  | answer hi ho hn =>
    rw [hc] at hn
    cases hn
  | @stopWaiting i => exact ⟨.fetch i [], rfl, by rw [poll, if_pos hc]; exact hstep⟩
  | @stopTrying i => exact ⟨.fetch i [], rfl, by rw [poll, if_pos hc]; exact hstep⟩
  | _ => exact ⟨.other _, rfl, hstep⟩

end GatewayFeed.Race
