import GatewayFeed.Proofs.Barrier.Accounting

/-! What makes a barrier cancel the cycle: a rejection, and the deadline. -/

namespace GatewayFeed.Barrier

theorem collect_append (n : Nat) (c : Collected) {es : List Event} (ho : Event.closed ∉ es)
    (es' : List Event) : collect n c (es ++ es') = collect n (collect n c es) es' := by
  induction es generalizing c with
  | nil => rfl
  | cons e es ih =>
    simp only [List.mem_cons, not_or] at ho
    rw [List.cons_append]
    by_cases hlt : c.received < n
    · cases e with
      | closed => exact absurd rfl ho.1
      | deadline =>
        simp only [collect, hlt, if_true]
        exact ih _ ho.2
      | result r =>
        simp only [collect, hlt, if_true]
        exact ih _ ho.2
    · cases es' with
      | nil => simp [collect, hlt]
      | cons e' es' => simp [collect, hlt]

/-- What results and the deadline keep holds of everything a barrier makes of its events. -/
theorem collect_induction {P : Collected → Prop} (hreceive : ∀ c r, P c → P (receive c r))
    (hexpire : ∀ c, P c → P (expire c)) {n : Nat} {c : Collected} (es : List Event) (h : P c) :
    P (collect n c es) := by
  induction es generalizing c with
  | nil => exact h
  | cons e es ih =>
    unfold collect
    split
    · cases e with
      | closed => exact h
      | deadline =>
        refine ih ?_
        split
        · exact h
        · exact hexpire c h
      | result r => exact ih (hreceive c r h)
    · exact h

theorem deadlineExceeded_receive (c : Collected) (r : FetchResult) :
    (receive c r).deadlineExceeded = c.deadlineExceeded := by
  obtain ⟨e, o⟩ := r
  cases o with
  | ok p => cases hp : Collection.decode e.kind p <;> simp [receive, fail, hp]
  | error x =>
    cases x with
    | unauthorized s => by_cases hr : c.rejection.isSome = true <;> simp [receive, fail, reject, hr]
    | _ => rfl

theorem cancelled_receive {c : Collected} (h : c.cancelled = (c.rejection.isSome || c.deadlineExceeded))
    (r : FetchResult) :
    (receive c r).cancelled = ((receive c r).rejection.isSome || (receive c r).deadlineExceeded) := by
  obtain ⟨e, o⟩ := r
  cases o with
  | ok p => cases hp : Collection.decode e.kind p <;> simpa [receive, fail, hp] using h
  | error x =>
    cases x with
    | unauthorized s =>
      by_cases hr : c.rejection.isSome = true
      · simpa [receive, fail, reject, hr] using h
      · simp [receive, fail, reject, hr]
    | _ => exact h

/-- A barrier cancels its cycle for a rejection and for the deadline, and for nothing else. -/
theorem cancelled_collect (n : Nat) (es : List Event) :
    (collect n {} es).cancelled =
      ((collect n {} es).rejection.isSome || (collect n {} es).deadlineExceeded) := by
  refine collect_induction (P := fun c => c.cancelled = (c.rejection.isSome || c.deadlineExceeded))
    (fun c r h => cancelled_receive h r) (fun c _ => ?_) es rfl
  simp [expire]

/-- A barrier that has kept a rejection has cancelled the cycle. -/
theorem cancelled_of_rejection {n : Nat} {es : List Event} (h : (collect n {} es).rejection.isSome = true) :
    (collect n {} es).cancelled = true := by
  rw [cancelled_collect, h, Bool.true_or]

theorem rejects_eq (r : FetchResult) : rejects r = r.rejection?.isSome := by
  obtain ⟨e, o⟩ := r
  cases o with
  | ok p => rfl
  | error x => cases x <;> rfl

theorem taken_results {n : Nat} {rs : List FetchResult} (h : rs.length ≤ n) :
    taken n (rs.map .result) = rs := by
  induction rs generalizing n with
  | nil => exact taken_nil n
  | cons r rs ih =>
    obtain ⟨m, rfl⟩ : ∃ m, n = m + 1 := ⟨n - 1, by rw [List.length_cons] at h; omega⟩
    rw [List.length_cons] at h
    rw [List.map_cons, taken, ih (by omega)]

theorem cancelled_of_rejects {n : Nat} {rs : List FetchResult} (hn : rs.length ≤ n)
    (h : rs.any rejects = true) : (collect n {} (rs.map .result)).cancelled = true := by
  refine cancelled_of_rejection ?_
  rw [(accounts_collect_empty n _).rejection, taken_results hn, List.findSome?_isSome_iff]
  obtain ⟨r, hr, hrejects⟩ := List.any_eq_true.1 h
  exact ⟨r, hr, by rwa [← rejects_eq]⟩

theorem deadlineExceeded_results (n : Nat) (rs : List FetchResult) (c : Collected) :
    (collect n c (rs.map .result)).deadlineExceeded = c.deadlineExceeded := by
  induction rs generalizing c with
  | nil => rfl
  | cons r rs ih =>
    rw [List.map_cons, collect]
    split
    · rw [ih, deadlineExceeded_receive]
    · rfl

/-- The deadline cancels a cycle that still waits for results. -/
theorem cancelled_deadline {n : Nat} {rs : List FetchResult} (hn : rs.length < n) :
    (collect n {} (rs.map .result ++ [.deadline])).cancelled = true := by
  have hreceived : (collect n {} (rs.map .result)).received = rs.length := by
    rw [(accounts_collect_empty n _).received, taken_results (Nat.le_of_lt hn)]
  have hdeadline := deadlineExceeded_results n rs {}
  rw [collect_append n {} (by simp), collect, if_pos (by omega), hdeadline]
  rfl

end GatewayFeed.Barrier
