import GatewayFeed.Proofs.Cycle.Delivery

/-! How a cycle ends: without a client at once, otherwise with the decision on what the barrier has
taken, which is one result for each dataset. -/

namespace GatewayFeed

/-- A cycle is rejected, or it is stopped, or it publishes. -/
theorem Cycle.conclude_cases (store : Store) (c : Collected) (stopped : Bool) :
    (∃ q, c.rejection = some q ∧
      conclude store c stopped = failed store c .unauthorized (.unauthorized q)) ∨
    (c.rejection = none ∧ stopped = true ∧
      conclude store c stopped = failed store c .cancelled .cancelled) ∨
    (c.rejection = none ∧ stopped = false ∧ conclude store c stopped = published store c) := by
  unfold conclude
  cases hr : c.rejection with
  | some q => exact .inl ⟨q, rfl, rfl⟩
  | none =>
    cases stopped with
    | true => exact .inr (.inl ⟨rfl, rfl, rfl⟩)
    | false => exact .inr (.inr ⟨rfl, rfl, rfl⟩)

namespace Race

/-- Until a cycle ends it leaves the store alone, and it ends with the barrier's decision. -/
structure Settled (store : Store) (r : Race) : Prop where
  before : r.ending = none → r.store = store
  after : ∀ e, r.ending = some e →
    r.waiting = false ∧ e = Cycle.conclude store r.gathered r.shutdown ∧ r.store = e.store

theorem settled_step {store : Store} {r r' : Race} {a : Act} (he : r.ending = none)
    (hs : Step r a r') (h : Settled store r) : Settled store r' := by
  have hstore := h.before he
  cases hs with
  | conclude hw =>
    refine ⟨fun hn => ?_, fun e hc => ?_⟩
    · cases hn
    · cases hc
      exact ⟨hw, by rw [← hstore]; rfl, rfl⟩
  | _ =>
    refine ⟨fun _ => hstore, fun e hc => ?_⟩
    have := he.symm.trans hc
    cases this

/-- A cycle that has ended with the outcomes `o` of its fetches. -/
structure Concluded (store : Store) (o : Kind → Outcome) (r : Race) (e : Cycle.Ending) : Prop where
  outcome : ∀ k, r.outcome? (.ofKind k) = some (o k)
  arrived : r.arrived.Perm (Kind.all.map fun k => ⟨.ofKind k, o k⟩)
  ending : e = Cycle.conclude store r.gathered r.shutdown
  store : r.store = e.store

@[simp] theorem kind_ofKind (k : Kind) : (Endpoint.ofKind k).kind = k := rfl

theorem nodup_endpoints : Endpoint.all.Nodup := by decide

theorem concluded_of_run {p : RetryPolicy} {store : Store} {as : List Act} {r : Race}
    {e : Cycle.Ending} (h : (begin p store Endpoint.all).run as = some r) (he : r.ending = some e) :
    ∃ o, Concluded store o r e := by
  have hsound := sound_run h (sound_begin p store Endpoint.all)
  have hsettled : Settled store r :=
    run_induction settled_step h ⟨fun _ => rfl, fun _ hc => (by cases hc)⟩
  obtain ⟨hw, hend, hst⟩ := hsettled.after e he
  obtain ⟨-, hall, hperm⟩ := hsound.complete hw
  obtain ⟨o, ho, hrep⟩ := hsound.reports_eq nodup_endpoints hall
  refine ⟨fun k => o (.ofKind k), fun k => ?_, ?_, hend, hst⟩
  · exact ho _ (List.mem_map_of_mem (Kind.mem_all k))
  · rw [hrep, Endpoint.all, List.map_map] at hperm
    exact hperm

/-- An ended cycle takes no step. -/
theorem run_of_ended {r0 r : Race} {as : List Act} (h0 : r0.ending.isSome = true)
    (h : r0.run as = some r) : r = r0 := by
  cases as with
  | nil => cases h; rfl
  | cons a as =>
    rw [run_cons] at h
    obtain ⟨r1, h1, -⟩ := Option.bind_eq_some_iff.1 h
    rw [(step_of_eq_some h1).1] at h0
    cases h0

/-- Either there was no client, or the cycle ended after its barrier. -/
theorem ending_of_run {call : Call} {store : Store} {as : List Act} {r : Race} {e : Cycle.Ending}
    (h : (call.start store).run as = some r) (he : r.ending = some e) :
    (∃ x, e.result = .error (.trust x) ∧ r.store = store ∧ e.store = store) ∨
      ∃ o, Concluded store o r e := by
  cases call with
  | loadWith p => exact Or.inr (concluded_of_run h he)
  | load files s =>
    unfold Call.start at h
    simp only at h
    split at h
    · rename_i x hx
      cases run_of_ended rfl h
      cases he
      exact Or.inl ⟨x, rfl, rfl, rfl⟩
    · exact Or.inr (concluded_of_run h he)

/-- A run that is known to reach a report. -/
theorem exists_report (r0 : Race) (as : List Act)
    (h : ((r0.run as).bind fun r => r.ending.map fun e => e.result.isOk) = some true) :
    ∃ r e report, r0.run as = some r ∧ r.ending = some e ∧ e.result = .ok report := by
  obtain ⟨r, hr, h⟩ := Option.bind_eq_some_iff.1 h
  obtain ⟨e, he, h⟩ := Option.map_eq_some_iff.1 h
  cases hres : e.result with
  | error x => rw [hres] at h; cases h
  | ok report => exact ⟨r, e, report, hr, he, hres⟩

/-- A run that is known to reach a report of which something is known. -/
theorem exists_report_with {α : Type} (r0 : Race) (as : List Act) (f : Report → α) {v : α}
    (h : ((r0.run as).bind fun r => r.ending.bind fun e => e.result.toOption.map f) = some v) :
    ∃ r e report, r0.run as = some r ∧ r.ending = some e ∧ e.result = .ok report ∧ f report = v := by
  obtain ⟨r, hr, h⟩ := Option.bind_eq_some_iff.1 h
  obtain ⟨e, he, h⟩ := Option.bind_eq_some_iff.1 h
  obtain ⟨report, hok, hf⟩ := Option.map_eq_some_iff.1 h
  cases hres : e.result with
  | error x => rw [hres] at hok; cases hok
  | ok report' =>
    rw [hres] at hok
    cases hok
    exact ⟨r, e, report, hr, he, hres, hf⟩

/-- One payload that decodes and one that does not, a failure before the deadline, and fetches that
the deadline stops in a delay and before their first attempt. -/
def mixedRun : List Act :=
  [.start 0, .start 1, .answer 1 (.error (.httpStatus 503)), .start 2, .answer 2 (.ok []), .report 2,
    .answer 0 (.ok (Utf8.encode Fetch.emptyList.compact)), .start 4, .answer 4 (.error (.httpStatus 404)),
    .receive, .report 0, .deadline, .stop 1, .stop 3, .stop 5, .report 5, .report 4, .receive, .receive,
    .report 1, .receive, .report 3, .receive, .receive, .conclude]

def twoSlots : Store := Store.empty.publish [⟨.subscriptions, []⟩, ⟨.applications, []⟩]

end Race

end GatewayFeed
