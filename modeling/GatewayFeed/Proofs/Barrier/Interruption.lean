import Mathlib.Data.List.Forall2
import GatewayFeed.Proofs.Barrier.Cancelling

/-! A barrier takes results from its channel until it has as many as it expects or the channel is closed,
and leaves the others where they are. A deadline that passes on the way cancels the cycle, once, and is
otherwise not noticed: what is collected depends on the results that were taken and on their order alone. -/

namespace GatewayFeed

/-- Whether a failure says of a result which endpoint it is from, where it failed and why. -/
def Failure.Tells (f : Failure) (r : FetchResult) : Prop :=
  f.endpoint = r.endpoint ∧
    ((∃ x, r.outcome = .error x ∧ f.cause.stage = "fetch" ∧ f.cause.message = x.message) ∨
      ∃ p fault, r.outcome = .ok p ∧ Collection.decode r.endpoint.kind p = .error fault ∧
        f.cause.stage = "decode" ∧ f.cause.message = fault.message)

namespace FetchResult

theorem tells_of_failure? {r : FetchResult} {f : Failure} (h : r.failure? = some f) : f.Tells r := by
  refine ⟨endpoint_of_failure? h, ?_⟩
  obtain ⟨e, o⟩ := r
  cases o with
  | error x =>
    cases h
    exact .inl ⟨x, rfl, rfl, rfl⟩
  | ok p =>
    rw [failure?_ok] at h
    split at h
    · cases h
    · rename_i fault hd
      cases h
      exact .inr ⟨p, fault, rfl, hd, rfl, rfl⟩

/-- Results without a collection have their failures in the same order. -/
theorem forall₂_tells (rs : List FetchResult) :
    List.Forall₂ Failure.Tells (rs.filterMap failure?) (rs.filter (·.collection?.isNone)) := by
  induction rs with
  | nil => exact .nil
  | cons r rs ih =>
    rcases r.collection?_or_failure? with ⟨c, hc, hf⟩ | ⟨f, hc, hf⟩
    · simpa [hc, hf] using ih
    · simpa [hc, hf] using ⟨tells_of_failure? hf, ih⟩

end FetchResult

namespace Barrier

variable {n : Nat} {c : Collected} {es : List Event}

/-- The loop of a barrier, with what it leaves behind. -/
def collectFrom (n : Nat) : Collected → List Event → Collected × List Event
  | c, [] => (c, [])
  | c, e :: es =>
    if c.received < n then
      match e with
      | .result r => collectFrom n (receive c r) es
      | .deadline => collectFrom n (if c.deadlineExceeded then c else expire c) es
      | .closed => (c, es)
    else (c, e :: es)

theorem fst_collectFrom (n : Nat) (c : Collected) (es : List Event) :
    (collectFrom n c es).1 = collect n c es := by
  induction es generalizing c with
  | nil => rfl
  | cons e es ih =>
    unfold collectFrom collect
    split
    · cases e with
      | result r => exact ih _
      | deadline => exact ih _
      | closed => rfl
    · rfl

theorem received_receive (c : Collected) (r : FetchResult) : (receive c r).received = c.received + 1 := by
  obtain ⟨e, o⟩ := r
  cases o with
  | ok p => cases hp : Collection.decode e.kind p <;> simp [receive, fail, hp]
  | error x =>
    cases x with
    | unauthorized s => by_cases hr : c.rejection.isSome = true <;> simp [receive, fail, reject, hr]
    | _ => rfl

/-- The results behind the last one taken are left, wherever the deadline passed. -/
theorem results_left (ho : Event.closed ∉ es) :
    (collectFrom n c (es ++ [.closed])).2.filterMap Event.result? =
      (es.filterMap Event.result?).drop (n - c.received) := by
  induction es generalizing c with
  | nil => by_cases hlt : c.received < n <;> simp [collectFrom, hlt, Event.result?]
  | cons e es ih =>
    simp only [List.mem_cons, not_or] at ho
    by_cases hlt : c.received < n
    · cases e with
      | closed => exact absurd rfl ho.1
      | deadline =>
        have hsame : (if c.deadlineExceeded then c else expire c).received = c.received := by
          split <;> rfl
        have hnext := ih (c := if c.deadlineExceeded then c else expire c) ho.2
        rw [hsame] at hnext
        simpa [collectFrom, hlt, List.filterMap_cons, Event.result?] using hnext
      | result r =>
        obtain ⟨m, hm⟩ : ∃ m, n - c.received = m + 1 := ⟨n - c.received - 1, by omega⟩
        have hnext := ih (c := receive c r) ho.2
        rw [received_receive, show n - (c.received + 1) = m by omega] at hnext
        simpa [collectFrom, hlt, Event.result?, hm] using hnext
    · rw [show n - c.received = 0 by omega]
      simp [collectFrom, hlt, List.filterMap_cons, Event.result?]

/-- Until the channel is closed, what a barrier takes are the first results, whatever comes between them. -/
theorem taken_append_eq_take {tail : List Event} (ho : Event.closed ∉ es) (ht : ∀ m, taken m tail = []) :
    taken n (es ++ tail) = (es.filterMap Event.result?).take n := by
  induction es generalizing n with
  | nil => simpa using ht n
  | cons e es ih =>
    simp only [List.mem_cons, not_or] at ho
    cases n with
    | zero => simp [taken]
    | succ n =>
      cases e with
      | closed => exact absurd rfl ho.1
      | deadline => exact ih ho.2
      | result r => simpa [taken, Event.result?] using ih ho.2

/-- What a barrier sees of its channel until that is closed, if the deadline passes between the results
`before` and the results `after`, or not at all. -/
def interrupted (before : List FetchResult) (fires : Bool) (after : List FetchResult) : List Event :=
  before.map .result ++ (if fires then [.deadline] else []) ++ after.map .result

section

variable (n : Nat) (before after : List FetchResult) (fires : Bool)

theorem closed_notMem_interrupted : Event.closed ∉ interrupted before fires after := by
  cases fires <;> simp [interrupted]

theorem results_interrupted : (interrupted before fires after).filterMap Event.result? = before ++ after := by
  cases fires <;> simp [interrupted, List.filterMap_cons, Event.result?]

theorem accounts_interrupted :
    (collect n {} (interrupted before fires after ++ [.closed])).Accounts ((before ++ after).take n) := by
  have haccounts := accounts_collect_empty n (interrupted before fires after ++ [.closed])
  rwa [taken_append_eq_take (closed_notMem_interrupted _ _ _) (fun m => by cases m <;> rfl),
    results_interrupted] at haccounts

/-- The deadline counts if it passes while results are missing, and not otherwise. -/
theorem deadlineExceeded_interrupted :
    (collect n {} (interrupted before fires after ++ [.closed])).deadlineExceeded = true ↔
      fires = true ∧ before.length < n := by
  have hwaits : (collect n {} (before.map .result)).received < n ↔ before.length < n := by
    have htaken : taken n (before.map .result ++ []) = _ := taken_append_eq_take (by simp) taken_nil
    rw [List.append_nil, List.filterMap_map, result?_comp_result, List.filterMap_some] at htaken
    rw [(accounts_collect_empty n _).received, htaken, List.length_take]
    omega
  have hclosed : ∀ c, (collect n c [.closed]).deadlineExceeded = c.deadlineExceeded := by simp [collect]
  have hbefore : (collect n {} (before.map .result)).deadlineExceeded = false := deadlineExceeded_results n before {}
  rw [collect_append n {} (closed_notMem_interrupted _ _ _), hclosed, interrupted,
    collect_append n {} (by cases fires <;> simp), deadlineExceeded_results, collect_append n {} (by simp)]
  cases fires with
  | false => simp [collect, hbefore]
  | true => by_cases hlt : before.length < n <;> simp [collect, hwaits, hlt, expire, hbefore]

/-- Whatever results come before a channel is closed, and wherever the deadline passes between them: a
barrier that expects `n` takes the first `n`, or all if there are fewer, and leaves the others. In their
order it has the collections of those that decode, a failure that tells of each other one, and the first
rejection among them. It has cancelled the cycle exactly if there was a rejection or the deadline passed
while it still waited. -/
theorem collects_first_results :
    ∃ c rest, collectFrom n {} (interrupted before fires after ++ [.closed]) = (c, rest) ∧
      collect n {} (interrupted before fires after ++ [.closed]) = c ∧
      c.received = min n (before ++ after).length ∧
      rest.filterMap Event.result? = (before ++ after).drop n ∧
      c.decoded = ((before ++ after).take n).filterMap FetchResult.collection? ∧
      List.Forall₂ Failure.Tells c.failures (((before ++ after).take n).filter (·.collection?.isNone)) ∧
      c.decoded.length + c.failures.length = c.received ∧
      c.rejection = ((before ++ after).take n).findSome? FetchResult.rejection? ∧
      (c.deadlineExceeded = true ↔ fires = true ∧ before.length < n) ∧
      (c.cancelled = true ↔ c.rejection ≠ none ∨ fires = true ∧ before.length < n) := by
  obtain ⟨hdecoded, hfailures, hrejection, hreceived⟩ := accounts_interrupted n before after fires
  have hdeadline := deadlineExceeded_interrupted n before after fires
  have hcancelled := cancelled_collect n (interrupted before fires after ++ [.closed])
  have hleft := results_left (n := n) (c := {}) (closed_notMem_interrupted before after fires)
  have hkinds := (FetchResult.kinds_perm ((before ++ after).take n)).length_eq
  rw [results_interrupted] at hleft
  rw [List.length_append, List.length_map, List.length_map, List.length_map] at hkinds
  refine ⟨_, _, rfl, (fst_collectFrom ..).symm, ?_⟩
  rw [fst_collectFrom]
  refine ⟨?_, hleft, hdecoded, ?_, ?_, hrejection, hdeadline, ?_⟩
  · rw [hreceived, List.length_take]
  · rw [hfailures]
    exact FetchResult.forall₂_tells _
  · rw [hdecoded, hfailures, hreceived, hkinds]
  · rw [hcancelled, Bool.or_eq_true, Option.isSome_iff_ne_none, hdeadline]

end

end Barrier

end GatewayFeed
