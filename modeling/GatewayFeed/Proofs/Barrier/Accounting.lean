import GatewayFeed.Barrier

/-! What the barrier has collected is a function of the results it took, in their order: each of
them gives either a collection or a failure, never both and never nothing. `Accounts` says so and
is kept by every event. -/

namespace GatewayFeed

namespace Collection

theorem kind_of_decode {k : Kind} {payload : List UInt8} {c : Collection}
    (h : decode k payload = .ok c) : c.kind = k := by
  unfold decode at h
  cases hd : Json.Reader.document (readItems k) payload with
  | error f => rw [hd] at h; cases h
  | ok items => rw [hd] at h; cases h; rfl

end Collection

namespace FetchResult

/-- The collection that a result brings. -/
def collection? (r : FetchResult) : Option Collection :=
  r.payload?.bind fun p => (Collection.decode r.endpoint.kind p).toOption

/-- Why a result brings no collection. -/
def failure? (r : FetchResult) : Option Failure :=
  match r.outcome with
  | .error e => some ⟨r.endpoint, .fetch e⟩
  | .ok p =>
    match Collection.decode r.endpoint.kind p with
    | .ok _ => none
    | .error f => some ⟨r.endpoint, .decode f⟩

def rejection? (r : FetchResult) : Option Rejection :=
  match r.outcome with
  | .error (.unauthorized s) => some ⟨r.endpoint, s⟩
  | _ => none

@[simp] theorem collection?_error (e : Endpoint) (x : FetchError) :
    collection? ⟨e, .error x⟩ = none := rfl

@[simp] theorem collection?_ok (e : Endpoint) (p : List UInt8) :
    collection? ⟨e, .ok p⟩ = (Collection.decode e.kind p).toOption := rfl

@[simp] theorem failure?_error (e : Endpoint) (x : FetchError) :
    failure? ⟨e, .error x⟩ = some ⟨e, .fetch x⟩ := rfl

theorem failure?_ok (e : Endpoint) (p : List UInt8) :
    failure? ⟨e, .ok p⟩ =
      match Collection.decode e.kind p with
      | .ok _ => none
      | .error f => some ⟨e, .decode f⟩ := rfl

@[simp] theorem rejection?_ok (e : Endpoint) (p : List UInt8) : rejection? ⟨e, .ok p⟩ = none := rfl

theorem kind_of_collection? {r : FetchResult} {c : Collection} (h : r.collection? = some c) :
    c.kind = r.endpoint.kind := by
  obtain ⟨p, -, hp⟩ := Option.bind_eq_some_iff.1 h
  cases hd : Collection.decode r.endpoint.kind p with
  | error f => rw [hd] at hp; cases hp
  | ok d =>
    rw [hd] at hp
    cases hp
    exact Collection.kind_of_decode hd

theorem endpoint_of_failure? {r : FetchResult} {f : Failure} (h : r.failure? = some f) :
    f.endpoint = r.endpoint := by
  unfold failure? at h
  split at h
  · cases h; rfl
  · split at h
    · cases h
    · cases h; rfl

/-- A result is either decoded or a failure. -/
theorem collection?_or_failure? (r : FetchResult) :
    (∃ c, r.collection? = some c ∧ r.failure? = none) ∨
      (∃ f, r.collection? = none ∧ r.failure? = some f) := by
  obtain ⟨e, o⟩ := r
  cases o with
  | error x => exact Or.inr ⟨_, rfl, rfl⟩
  | ok p =>
    cases hd : Collection.decode e.kind p with
    | ok c => exact Or.inl ⟨c, by simp [hd, Except.toOption], by simp [failure?_ok, hd]⟩
    | error f =>
      exact Or.inr ⟨⟨e, .decode f⟩, by simp [hd, Except.toOption], by simp [failure?_ok, hd]⟩

/-- The kinds that were decoded and those that failed are together the kinds of the results. -/
theorem kinds_perm (rs : List FetchResult) :
    ((rs.filterMap collection?).map (·.kind) ++ (rs.filterMap failure?).map (·.endpoint.kind)).Perm
      (rs.map (·.endpoint.kind)) := by
  induction rs with
  | nil => exact List.Perm.refl _
  | cons r rs ih =>
    obtain ⟨c, hc, hf⟩ | ⟨f, hc, hf⟩ := r.collection?_or_failure?
    · simp only [List.filterMap_cons, hc, hf, List.map_cons, List.cons_append, kind_of_collection? hc]
      exact ih.cons _
    · simp only [List.filterMap_cons, hc, hf, List.map_cons, endpoint_of_failure? hf]
      exact List.perm_middle.trans (ih.cons _)

end FetchResult

/-- The result that an event brings to the barrier. -/
def Barrier.Event.result? : Barrier.Event → Option FetchResult
  | result x => some x
  | _ => none

@[simp] theorem Barrier.result?_comp_result : Barrier.Event.result? ∘ Barrier.Event.result = some := rfl

/-- What has been collected from the results `rs`, whether or not the deadline has passed. -/
structure Collected.Accounts (c : Collected) (rs : List FetchResult) : Prop where
  decoded : c.decoded = rs.filterMap FetchResult.collection?
  failures : c.failures = rs.filterMap FetchResult.failure?
  rejection : c.rejection = rs.findSome? FetchResult.rejection?
  received : c.received = rs.length

namespace Barrier

open Collected

theorem accounts_nil : Accounts {} [] := ⟨rfl, rfl, rfl, rfl⟩

theorem accounts_receive {c : Collected} {rs : List FetchResult} (h : Accounts c rs)
    (r : FetchResult) : Accounts (receive c r) (rs ++ [r]) := by
  obtain ⟨hd, hf, hr, hn⟩ := h
  obtain ⟨e, o⟩ := r
  -- one case for each way in which a result changes what was collected
  cases o with
  | ok p =>
    cases hp : Collection.decode e.kind p with
    | ok x =>
      refine ⟨?_, ?_, ?_, ?_⟩ <;>
        simp [receive, hp, hd, hf, hr, hn, FetchResult.failure?_ok, Except.toOption, List.findSome?_append]
    | error f =>
      refine ⟨?_, ?_, ?_, ?_⟩ <;>
        simp [receive, fail, hp, hd, hf, hr, hn, FetchResult.failure?_ok, Except.toOption,
          List.findSome?_append]
  | error x =>
    cases x with
    | unauthorized s =>
      -- only the first rejection is kept
      cases hs : rs.findSome? FetchResult.rejection? with
      | none =>
        refine ⟨?_, ?_, ?_, ?_⟩ <;>
          simp [receive, fail, reject, hd, hf, hr, hn, hs, FetchResult.rejection?, List.findSome?_append]
      | some q =>
        refine ⟨?_, ?_, ?_, ?_⟩ <;>
          simp [receive, fail, reject, hd, hf, hr, hn, hs, List.findSome?_append]
    | _ =>
      refine ⟨?_, ?_, ?_, ?_⟩ <;>
        simp [receive, fail, hd, hf, hr, hn, FetchResult.rejection?, List.findSome?_append]

theorem accounts_expire {c : Collected} {rs : List FetchResult} (h : Accounts c rs) :
    Accounts (expire c) rs :=
  ⟨h.decoded, h.failures, h.rejection, h.received⟩

/-- The results that a barrier takes which waits for `n` more. -/
def taken : Nat → List Event → List FetchResult
  | 0, _ => []
  | _ + 1, [] => []
  | _ + 1, .closed :: _ => []
  | n + 1, .deadline :: es => taken (n + 1) es
  | n + 1, .result r :: es => r :: taken n es

@[simp] theorem taken_nil (n : Nat) : taken n [] = [] := by cases n <;> rfl

theorem accounts_collect {n : Nat} {c : Collected} {rs : List FetchResult} (h : Accounts c rs)
    (es : List Event) :
    Accounts (collect n c es) (rs ++ taken (n - c.received) es) := by
  induction es generalizing c rs with
  | nil => simpa [collect] using h
  | cons e es ih =>
    unfold collect
    split
    · rename_i hlt
      obtain ⟨m, hm⟩ : ∃ m, n - c.received = m + 1 := ⟨n - c.received - 1, by omega⟩
      rw [hm]
      cases e with
      | closed => simpa [taken] using h
      | deadline =>
        have he : Accounts (if c.deadlineExceeded then c else expire c) rs := by
          split
          · exact h
          · exact accounts_expire h
        have := ih he
        rwa [he.received, ← h.received, hm] at this
      | result r =>
        have hr := accounts_receive h r
        have := ih hr
        have hc : n - (receive c r).received = m := by
          rw [hr.received, List.length_append, ← h.received]
          simp only [List.length_singleton]
          omega
        rwa [hc, List.append_assoc, List.singleton_append] at this
    · rename_i hge
      rw [show n - c.received = 0 by omega]
      simpa [taken] using h

/-- A barrier that starts empty has collected from the first `n` results before the closing. -/
theorem accounts_collect_empty (n : Nat) (es : List Event) :
    Accounts (collect n {} es) (taken n es) := by
  simpa using accounts_collect (n := n) accounts_nil es

/-- A barrier that still waits handles the next event after those it has handled before. -/
theorem taken_append {n : Nat} {es : List Event} (hn : (taken n es).length < n)
    (ho : Event.closed ∉ es) (es' : List Event) :
    taken n (es ++ es') = taken n es ++ taken (n - (taken n es).length) es' := by
  fun_induction taken n es with
  | case1 => simp at hn
  | case2 n => rfl
  | case3 n es => simp at ho
  | case4 n es ih =>
    simp only [List.mem_cons, not_or] at ho
    exact ih hn ho.2
  | case5 n r es ih =>
    simp only [List.mem_cons, not_or] at ho
    rw [List.length_cons] at hn ⊢
    rw [List.cons_append, taken, ih (by omega) ho.2, List.cons_append]
    congr 3
    omega

end Barrier

end GatewayFeed
