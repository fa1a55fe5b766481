import Mathlib.Data.List.Induction
import Mathlib.Data.List.Nodup
import Mathlib.Logic.Function.Basic
import GatewayFeed.Proofs.Barrier.Cancelling
import GatewayFeed.Proofs.Cycle.Delivery

/-! Moves of a cycle that hands every result over to the barrier at once. Between two moves the channel
is empty, so a cycle is given by where its workers stand and by what the barrier has seen. -/

namespace GatewayFeed.Race

variable {p : RetryPolicy} {store : Store} {es : List Endpoint} {g : Endpoint → Worker}
  {seen : List Barrier.Event} {sd : Bool} {e : Endpoint} {n : Nat} {x : Fetcher.Fetched}

def standing (p : RetryPolicy) (store : Store) (es : List Endpoint) (g : Endpoint → Worker)
    (seen : List Barrier.Event) (sd : Bool) : Race where
  policy := p
  store
  workers := es.map fun e => (e, g e)
  seen
  shutdown := sd

/-- Some run leads there. -/
def Stands (p : RetryPolicy) (store : Store) (es : List Endpoint) (g : Endpoint → Worker)
    (seen : List Barrier.Event) (sd : Bool) : Prop :=
  ∃ as, (begin p store es).run as = some (standing p store es g seen sd)

theorem run_append (r : Race) (as bs : List Act) :
    r.run (as ++ bs) = (r.run as).bind fun r => r.run bs := by
  induction as generalizing r with
  | nil => rfl
  | cons a as ih =>
    rw [List.cons_append, run_cons, run_cons]
    cases r.step a with
    | none => rfl
    | some r' => exact ih r'

theorem stands_begin : Stands p store es (fun _ => .waiting 0) [] false := ⟨[], rfl⟩

/-- What a run does from where a cycle stands. -/
theorem Stands.run {r : Race} {as : List Act} (h : Stands p store es g seen sd)
    (hrun : (standing p store es g seen sd).run as = some r) :
    ∃ as, (begin p store es).run as = some r := by
  obtain ⟨as₀, h₀⟩ := h
  exact ⟨as₀ ++ as, by rw [run_append, h₀, Option.bind_some, hrun]⟩

theorem run_of_step {r r' : Race} {a : Act} (he : r.ending = none) (h : Step r a r') :
    r.run [a] = some r' := by
  rw [run_cons, h.eq_some he]
  rfl

theorem getElem?_standing (he : e ∈ es) {w : Worker} (hg : g e = w) :
    (standing p store es g seen sd).workers[es.idxOf e]? = some (e, w) := by
  rw [standing, List.getElem?_map, List.getElem?_idxOf he, Option.map_some, hg]

theorem setWorker_standing (hn : es.Nodup) (he : e ∈ es) (w : Worker) :
    (standing p store es g seen sd).setWorker (es.idxOf e) e w =
      standing p store es (Function.update g e w) seen sd := by
  have hupdate : Function.update (fun e => (e, g e)) e (e, w) = fun x => (x, Function.update g e w x) := by
    funext x
    by_cases hx : x = e
    · subst hx
      simp
    · simp [hx]
  have hworkers := hn.map_update (fun e => (e, g e)) e (e, w)
  rw [if_pos he, hupdate] at hworkers
  rw [setWorker, standing, standing, hworkers]

/-- A barrier waits as long as a result is missing or on its way. -/
theorem waiting_of_run {as : List Act} {r : Race} (h : (begin p store es).run as = some r)
    (hr : r.queue ≠ [] ∨ r.allReported = false) : r.waiting = true := by
  by_contra hw
  obtain ⟨hq, hall, -⟩ := (sound_run h (sound_begin p store es)).complete (by simpa using hw)
  obtain hr | hr := hr
  · exact hr hq
  · rw [hall] at hr
    cases hr

theorem allReported_standing : (standing p store es g seen sd).allReported = false ↔
    ∃ e ∈ es, ((g e).report? e) = none := by
  simp [allReported, standing]

namespace Stands

theorem setWorker (hn : es.Nodup) (he : e ∈ es) (h : Stands p store es g seen sd) {a : Act} {w : Worker}
    (hstep : Step (standing p store es g seen sd) a
      ((standing p store es g seen sd).setWorker (es.idxOf e) e w)) :
    Stands p store es (Function.update g e w) seen sd := by
  rw [setWorker_standing hn he] at hstep
  exact h.run (run_of_step rfl hstep)

theorem start (hn : es.Nodup) (he : e ∈ es) (h : Stands p store es g seen sd) (hg : g e = .waiting n)
    (hc : (standing p store es g seen sd).cancelled = false) :
    Stands p store es (Function.update g e (.trying (n + 1))) seen sd :=
  h.setWorker hn he (.start (getElem?_standing he hg) hc)

theorem answer (hn : es.Nodup) (he : e ∈ es) (h : Stands p store es g seen sd) (hg : g e = .trying n)
    (hc : (standing p store es g seen sd).cancelled = false) {o : Outcome} (ho : o ≠ .error .cancelled) :
    Stands p store es (Function.update g e (Worker.afterAttempt p n o)) seen sd :=
  h.setWorker hn he (.answer (getElem?_standing he hg) ho hc)

/-- A cancelled worker ends with the attempt that it is at or that it waits for. -/
theorem stop (hn : es.Nodup) (he : e ∈ es) (h : Stands p store es g seen sd)
    (hg : g e = .waiting n ∧ x = ⟨n + 1, none⟩ ∨ g e = .trying n ∧ x = ⟨n, none⟩)
    (hc : (standing p store es g seen sd).cancelled = true) :
    Stands p store es (Function.update g e (.ended x)) seen sd := by
  obtain ⟨hg, rfl⟩ | ⟨hg, rfl⟩ := hg
  · exact h.setWorker hn he (.stopWaiting (getElem?_standing he hg) hc)
  · exact h.setWorker hn he (.stopTrying (getElem?_standing he hg) hc)

theorem shutdown (h : Stands p store es g seen sd) : Stands p store es g seen true :=
  h.run (run_of_step rfl .shutdown)

theorem deadline (h : Stands p store es g seen sd) (he : e ∈ es) (hg : (g e).report? e = none)
    (hd : (standing p store es g seen sd).collected.deadlineExceeded = false) :
    Stands p store es g (seen ++ [.deadline]) sd := by
  obtain ⟨as, hrun⟩ := id h
  have hw := waiting_of_run hrun (.inr (allReported_standing.2 ⟨e, he, hg⟩))
  exact h.run (run_of_step rfl (.deadline hw hd))

/-- A worker that has ended reports, and the barrier takes its result. -/
theorem report (hn : es.Nodup) (he : e ∈ es) (h : Stands p store es g seen sd) (hg : g e = .ended x) :
    Stands p store es (Function.update g e (.reported x)) (seen ++ [.result (x.result e)]) sd := by
  have hi : (standing p store es g seen sd).workers[es.idxOf e]? = some (e, .ended x) :=
    getElem?_standing he hg
  have hsent := run_of_step rfl (.report hi)
  rw [setWorker_standing hn he] at hsent
  obtain ⟨as, hrun⟩ := h.run hsent
  have hw := waiting_of_run hrun (.inl (List.append_ne_nil_of_right_ne_nil _ (List.cons_ne_nil _ _)))
  have htaken := run_of_step rfl (Step.receive rfl hw)
  refine ⟨as ++ [.receive], ?_⟩
  rw [run_append, hrun, Option.bind_some, htaken]
  rfl

/-- When all workers have reported the cycle ends. -/
theorem conclude (h : Stands p store es g seen sd) (hall : ∀ e ∈ es, (g e).report? e ≠ none) :
    ∃ as, (begin p store es).run as = some (standing p store es g seen sd).conclude := by
  obtain ⟨as, hrun⟩ := id h
  have hreported : (standing p store es g seen sd).allReported = true := by
    rw [← Bool.not_eq_false, allReported_standing]
    exact fun ⟨e, he, hg⟩ => hall e he hg
  have hlen := (sound_run hrun (sound_begin p store es)).delivery.length_eq
  rw [length_reports_of_allReported hreported, List.length_append] at hlen
  have hw : (standing p store es g seen sd).waiting = false := by
    rw [← Bool.not_eq_true, waiting_iff]
    have hqueue : (standing p store es g seen sd).queue.length = 0 := rfl
    omega
  exact h.run (run_of_step rfl (.conclude hw))

/-- Moves of several workers, one after another. -/
theorem each {qs : List (Endpoint × Fetcher.Fetched)} {w : Fetcher.Fetched → Worker}
    {f : Endpoint × Fetcher.Fetched → List Barrier.Event} (h : Stands p store es g seen sd)
    (hq : (qs.map (·.1)).Nodup)
    (hmove : ∀ q ∈ qs, ∀ g' (qs' : List (Endpoint × Fetcher.Fetched)), g' q.1 = g q.1 →
      Stands p store es g' (seen ++ qs'.flatMap f) sd →
      Stands p store es (Function.update g' q.1 (w q.2)) (seen ++ qs'.flatMap f ++ f q) sd) :
    ∃ g', Stands p store es g' (seen ++ qs.flatMap f) sd ∧ (∀ q ∈ qs, g' q.1 = w q.2) ∧
      ∀ e, e ∉ qs.map (·.1) → g' e = g e := by
  induction qs using List.reverseRecOn with
  | nil => exact ⟨g, by simpa using h, nofun, fun _ _ => rfl⟩
  | append_singleton qs q ih =>
    rw [List.map_append, List.nodup_append] at hq
    obtain ⟨g', hs, hdone, hrest⟩ := ih hq.1 fun q hmem => hmove q (List.mem_append_left _ hmem)
    have hnew : q.1 ∉ qs.map (·.1) := fun hmem => hq.2.2 q.1 hmem q.1 (by simp) rfl
    have hnext := hmove q (by simp) g' qs (hrest q.1 hnew) hs
    refine ⟨_, by simpa using hnext, fun q' hq' => ?_, fun e he => ?_⟩
    · by_cases heq : q'.1 = q.1
      · have hsame : q' = q := by
          rw [List.mem_append, List.mem_singleton] at hq'
          exact hq'.resolve_left fun hmem => hnew (heq ▸ List.mem_map_of_mem hmem)
        rw [hsame, Function.update_self]
      · rw [Function.update_of_ne heq]
        rw [List.mem_append, List.mem_singleton] at hq'
        exact hdone q' (hq'.resolve_right fun hsame => heq (by rw [hsame]))
    · rw [List.map_append, List.mem_append, not_or] at he
      rw [Function.update_of_ne (by simpa using he.2)]
      exact hrest e he.1

/-- Moves that the barrier sees nothing of. -/
theorem eachUnseen {qs : List (Endpoint × Fetcher.Fetched)} {w : Fetcher.Fetched → Worker}
    (h : Stands p store es g seen sd) (hq : (qs.map (·.1)).Nodup)
    (hmove : ∀ q ∈ qs, ∀ g', g' q.1 = g q.1 → Stands p store es g' seen sd →
      Stands p store es (Function.update g' q.1 (w q.2)) seen sd) :
    ∃ g', Stands p store es g' seen sd ∧ (∀ q ∈ qs, g' q.1 = w q.2) ∧
      ∀ e, e ∉ qs.map (·.1) → g' e = g e := by
  have hnothing : ∀ qs : List (Endpoint × Fetcher.Fetched),
      seen ++ qs.flatMap (fun _ => ([] : List Barrier.Event)) = seen := by simp
  have hmoved := h.each (w := w) (f := fun _ => []) hq fun q hmem g' qs' hsame hs => by
    rw [hnothing] at hs
    rw [List.append_nil, hnothing]
    exact hmove q hmem g' hsame hs
  rwa [hnothing] at hmoved

end Stands

end GatewayFeed.Race
