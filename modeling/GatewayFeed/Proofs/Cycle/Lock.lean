import Mathlib.Data.List.Nodup
import GatewayFeed.Proofs.Cycle.Moves
import GatewayFeed.Proofs.Cycle.Turns
import GatewayFeed.Proofs.Lookup

/-! What the lock on cycles gives. The call that has it is the last one that was given it, and all that
were given it before have returned; and whatever the fetches of a call have done so far, they have done
from the store as it is. -/

namespace GatewayFeed

namespace Race

/-- Whether a call has a client is not up to the store. -/
def Call.Ready (call : Call) : Prop := ∀ store, (call.start store).ending = none

theorem Call.ready_of_ending {call : Call} {store : Store} (h : (call.start store).ending = none) :
    call.Ready := by
  intro store'
  cases call with
  | loadWith p => rfl
  | load files s =>
    unfold Call.start at h ⊢
    simp only at h ⊢
    split at h
    · cases h
    · rfl

theorem Call.store_start (call : Call) (store : Store) : (call.start store).store = store := by
  cases call with
  | loadWith p => rfl
  | load files s =>
    unfold Call.start
    simp only
    split <;> rfl

/-- Fetches that go on leave the store alone. -/
theorem store_eq_of_run {call : Call} {store : Store} {as : List Act} {r : Race}
    (h : (call.start store).run as = some r) (he : r.ending = none) : r.store = store := by
  have hstart : (call.start store).ending = none := by
    by_contra hn
    have hsame := run_of_ended (Option.isSome_iff_ne_none.2 hn) h
    exact hn (hsame ▸ he)
  have hsettled : Settled store (call.start store) :=
    ⟨fun _ => call.store_start store, fun e hc => by rw [hstart] at hc; cases hc⟩
  exact (run_induction settled_step h hsettled).before he

/-- Whatever is decided after the barrier, the cycle could have decided it with nobody else around. -/
theorem run_conclude {call : Call} {store : Store} {as : List Act} {r : Race}
    (h : (call.start store).run as = some r) (he : r.ending = none) (hw : r.waiting = false) :
    ∃ r', (call.start store).run (as ++ [.conclude]) = some r' ∧
      r'.ending = some (Cycle.conclude store r.gathered r.shutdown) ∧
      r'.store = (Cycle.conclude store r.gathered r.shutdown).store := by
  refine ⟨r.conclude, ?_, ?_, ?_⟩
  · rw [run_append, h, Option.bind_some]
    exact run_of_step he (.conclude hw)
  · rw [← store_eq_of_run h he]
    rfl
  · rw [← store_eq_of_run h he]
    rfl

end Race

namespace Turns

variable {store : Store} {calls : List Race.Call} {t t' : Turns} {i j : Nat} {c d : Caller} {a : Act}
  {p : Caller.Phase} {e : Cycle.Ending}

/-- What holds of a call where it stands. -/
def Fits (t : Turns) (i : Nat) (c : Caller) : Prop :=
  match c.phase with
  | .called => i ∉ t.order ∧ c.steps = []
  | .waiting => i ∉ t.order ∧ c.steps = [] ∧ c.call.Ready
  | .admitted => t.holder = some i ∧ c.steps = [] ∧ c.call.Ready
  | .fetching r => t.holder = some i ∧ r.ending = none ∧ (c.call.start t.store).run c.steps = some r
  | .accepted r =>
    t.holder = some i ∧ ∃ r', (c.call.start t.store).run (c.steps ++ [.conclude]) = some r' ∧
      r'.ending = some (Cycle.published t.store r.gathered) ∧
      r'.store = (Cycle.published t.store r.gathered).store
  | .decided _ => t.holder = some i
  | .returned _ => t.holder ≠ some i

theorem Fits.holder (h : t.Fits i c) (hp : c.phase.Inside) : t.holder = some i := by
  unfold Fits at h
  split at h
  · rename_i hc
    rw [hc] at hp
    exact hp.elim
  · rename_i hc
    rw [hc] at hp
    exact hp.elim
  · exact h.1
  · exact h.1
  · exact h.1
  · exact h
  · rename_i hc
    rw [hc] at hp
    exact hp.elim

/-- Whom another call's taking, having or giving back of the lock concerns. -/
theorem Fits.other (h : t.Fits j d) (hj : j ≠ i) (hh : t.holder ≠ some j) (hh' : t'.holder ≠ some j)
    (ho : ∀ k, k ∈ t'.order → k ∈ t.order ∨ k = i) : t'.Fits j d := by
  have hout : j ∉ t.order → j ∉ t'.order := by
    intro hn hmem
    exact (ho j hmem).elim hn hj
  unfold Fits at h ⊢
  split at h
  · exact ⟨hout h.1, h.2⟩
  · exact ⟨hout h.1, h.2⟩
  · exact absurd h.1 hh
  · exact absurd h.1 hh
  · exact absurd h.1 hh
  · exact absurd h hh
  · exact hh'

def Returned (t : Turns) (i : Nat) : Prop := ∃ c e, t.callers[i]? = some c ∧ c.phase = .returned e

/-- Every call fits where it stands, and of those that were given the lock only the last may still have it. -/
structure Orderly (calls : List Race.Call) (t : Turns) : Prop where
  calls : t.callers.map (·.call) = calls
  fits : ∀ (i : Nat) (c : Caller), t.callers[i]? = some c → t.Fits i c
  nodup : t.order.Nodup
  served : ∃ served, t.order = served ++ t.holder.toList ∧ ∀ i ∈ served, t.Returned i

theorem orderly_begin (store : Store) (calls : List Race.Call) : Orderly calls (begin store calls) := by
  refine ⟨?_, ?_, List.nodup_nil, [], rfl, nofun⟩
  · simp [begin, Function.comp_def]
  · intro i c hi
    rw [begin, List.getElem?_map] at hi
    obtain ⟨call, -, rfl⟩ := Option.map_eq_some_iff.1 hi
    exact ⟨List.not_mem_nil, rfl⟩

theorem getElem?_setCaller (hi : t.callers[i]? = some c) (d : Caller) :
    (t.setCaller i d).callers[i]? = some d := getElem?_set_of_some hi d

/-- A call that has returned takes no step. -/
theorem Returned.setCaller (hi : t.callers[i]? = some c) (hc : ∀ e, c.phase ≠ .returned e) (h : t.Returned j)
    (c' : Caller) : (t.setCaller i c').Returned j := by
  obtain ⟨d, e, hj, hd⟩ := h
  have hne : i ≠ j := by
    intro he
    rw [← he, hi] at hj
    cases hj
    exact hc e hd
  exact ⟨d, e, (List.getElem?_set_ne hne).trans hj, hd⟩

theorem Orderly.served_setCaller (h : Orderly calls t) (hi : t.callers[i]? = some c)
    (hc : ∀ e, c.phase ≠ .returned e) (c' : Caller) :
    ∃ served, t.order = served ++ t.holder.toList ∧ ∀ j ∈ served, (t.setCaller i c').Returned j := by
  obtain ⟨served, ho, hserved⟩ := h.served
  exact ⟨served, ho, fun j hj => (hserved j hj).setCaller hi hc c'⟩

theorem Orderly.calls_setCaller {c' : Caller} (h : Orderly calls t) (hi : t.callers[i]? = some c)
    (hc : c'.call = c.call) : (t.setCaller i c').callers.map (·.call) = calls :=
  (map_set_of_some hi hc).trans h.calls

/-- A step that leaves the lock and the store. -/
theorem Orderly.setCaller {c' : Caller} (h : Orderly calls t) (hi : t.callers[i]? = some c)
    (hp : ∀ e, c.phase ≠ .returned e) (hc : c'.call = c.call) (hf : (t.setCaller i c').Fits i c') :
    Orderly calls (t.setCaller i c') := by
  refine ⟨h.calls_setCaller hi hc, ?_, h.nodup, h.served_setCaller hi hp c'⟩
  intro j d hj
  rcases getElem?_set_cases hj with ⟨rfl, rfl⟩ | ⟨-, hj⟩
  · exact hf
  · exact h.fits j d hj

/-- While a call has the lock, no other does. -/
theorem Orderly.fits_other {H : Option Nat} {O : List Nat} {s : Store} {c' : Caller} (h : Orderly calls t)
    (hh : ∀ j, j ≠ i → t.holder ≠ some j) (hH : ∀ j, j ≠ i → H ≠ some j)
    (hO : ∀ k, k ∈ O → k ∈ t.order ∨ k = i)
    (hf : Fits { t.setCaller i c' with holder := H, order := O, store := s } i c') (j : Nat) (d : Caller)
    (hj : (t.setCaller i c').callers[j]? = some d) :
    Fits { t.setCaller i c' with holder := H, order := O, store := s } j d := by
  rcases getElem?_set_cases hj with ⟨rfl, rfl⟩ | ⟨hne, hj⟩
  · exact hf
  · exact (h.fits j d hj).other hne (hh j hne) (hH j hne) hO

theorem ne_of_holder (hh : t.holder = some i) (j : Nat) (hj : j ≠ i) : t.holder ≠ some j := by
  intro hc
  rw [hh] at hc
  exact hj (Option.some.inj hc).symm

theorem orderly_step (hi : t.callers[i]? = some c) (hs : Step t i c a t') (h : Orderly calls t) :
    Orderly calls t' := by
  have hf := h.fits i c hi
  cases hs with
  | @fail e hp he =>
    rw [Fits, hp] at hf
    refine h.setCaller hi (by simp [hp]) rfl ?_
    -- the holder is the last that was given the lock, and this call was never given it
    intro hh
    obtain ⟨served, ho, -⟩ := h.served
    have hholder : t.holder = some i := hh
    apply hf.1
    rw [ho, hholder]
    exact List.mem_append_right _ (List.mem_singleton_self i)
  | setUp hp he =>
    rw [Fits, hp] at hf
    exact h.setCaller hi (by simp [hp]) rfl ⟨hf.1, hf.2, Race.Call.ready_of_ending he⟩
  | acquire hp hh =>
    rw [Fits, hp] at hf
    obtain ⟨hout, hready⟩ := hf
    have hlock : ∀ j, j ≠ i → some i ≠ some j := fun j hj he => hj (Option.some.inj he).symm
    have hserved := h.served_setCaller hi (by simp [hp]) (c.enter .admitted)
    refine ⟨h.calls_setCaller hi rfl, h.fits_other (by simp [hh]) hlock ?_ ⟨rfl, hready⟩, ?_, ?_⟩
    · intro k hk
      rcases List.mem_append.1 hk with hk | hk
      · exact .inl hk
      · exact .inr (List.mem_singleton.1 hk)
    · refine List.nodup_append.2 ⟨h.nodup, List.pairwise_singleton _ _, ?_⟩
      intro x hx y hy he
      rw [List.mem_singleton.1 hy] at he
      exact hout (he ▸ hx)
    · obtain ⟨served, ho, hserved⟩ := hserved
      rw [hh, Option.toList_none, List.append_nil] at ho
      exact ⟨served, by rw [ho]; rfl, hserved⟩
  | start hp =>
    rw [Fits, hp] at hf
    obtain ⟨hh, hnone, hready⟩ := hf
    refine h.setCaller hi (by simp [hp]) rfl ⟨hh, hready t.store, ?_⟩
    have hsteps : (c.enter (.fetching (c.call.start t.store))).steps = [] := hnone
    rw [hsteps]
    rfl
  | @fetch r r' a hp he ha hs =>
    rw [Fits, hp] at hf
    obtain ⟨hh, -, hrun⟩ := hf
    have hgoing : r'.ending = none := by
      cases hs with
      | conclude => exact absurd rfl ha
      | _ => exact he
    refine h.setCaller hi (by simp [hp]) rfl ⟨hh, hgoing, ?_⟩
    change (c.call.start t.store).run (c.steps ++ [a]) = some r'
    rw [Race.run_append, hrun, Option.bind_some]
    exact Race.run_of_step he hs
  | @check r hp hw =>
    rw [Fits, hp] at hf
    obtain ⟨hh, he, hrun⟩ := hf
    refine h.setCaller hi (by simp [hp]) rfl ?_
    rcases Caller.Phase.checked_cases t.store r with ⟨e, x, hd, -⟩ | ⟨hd, hend⟩
    · rw [hd]
      exact hh
    · rw [hd]
      obtain ⟨r', hrun, he', hs'⟩ := Race.run_conclude hrun he hw
      rw [← hend] at he' hs'
      exact ⟨hh, r', hrun, he', hs'⟩
  | @publish r hp =>
    have hh := hf.holder (by rw [hp]; trivial)
    have hothers := ne_of_holder hh
    exact ⟨h.calls_setCaller hi rfl, h.fits_other hothers hothers (fun k => .inl) hh, h.nodup,
      h.served_setCaller hi (by simp [hp]) _⟩
  | @leave e hp =>
    have hh := hf.holder (by rw [hp]; trivial)
    have hserved := h.served_setCaller hi (by simp [hp]) (c.enter (.returned e))
    refine ⟨h.calls_setCaller hi rfl, h.fits_other (ne_of_holder hh) nofun (fun k => .inl) nofun, h.nodup, ?_⟩
    obtain ⟨served, ho, hserved⟩ := hserved
    refine ⟨t.order, (List.append_nil _).symm, ?_⟩
    intro j hj
    rw [ho, hh] at hj
    rcases List.mem_append.1 hj with hj | hj
    · exact hserved j hj
    · rw [List.mem_singleton.1 hj]
      exact ⟨_, e, getElem?_setCaller hi _, rfl⟩

theorem orderly_run {ms : List (Nat × Act)} (h : (begin store calls).run ms = some t) : Orderly calls t :=
  run_induction orderly_step h (orderly_begin store calls)

/-- Two calls are never both between taking the lock and giving it back. -/
theorem Orderly.inside_unique (h : Orderly calls t) (hi : t.callers[i]? = some c)
    (hj : t.callers[j]? = some d) (hc : c.phase.Inside) (hd : d.phase.Inside) : i = j := by
  have hholder := (h.fits i c hi).holder hc
  rw [(h.fits j d hj).holder hd] at hholder
  exact (Option.some.inj hholder).symm

theorem Orderly.served_of_ne (h : Orderly calls t) (hi : i ∈ t.order) (hh : t.holder ≠ some i) :
    t.Returned i := by
  obtain ⟨served, ho, hserved⟩ := h.served
  rw [ho] at hi
  rcases List.mem_append.1 hi with hi | hi
  · exact hserved i hi
  · exact absurd (Option.mem_toList.1 hi) hh

end Turns

end GatewayFeed
