import GatewayFeed.Proofs.Cycle.Ending
import GatewayFeed.Proofs.Cycle.Moves
import GatewayFeed.Proofs.Fetch.Retrying

/-! The cycle that is computed is one of those that can happen: the fetches go on until each ends or
hangs, the ended ones report, the deadline or a rejection stops the others, and they report last. -/

namespace GatewayFeed

/-- Where a worker stands whose fetch is left to itself. -/
def Worker.fetching (x : Fetcher.Fetched) : Worker :=
  if x.outcome.isSome then .ended x else .trying x.attempts

namespace Fetcher

theorem request_ne_cancelled (f : Fetcher) (e : Endpoint) : f.request e ≠ .error .cancelled := by
  unfold request
  split
  · nofun
  · split <;> nofun

theorem outcome_ne_cancelled (f : Fetcher) (r : Fetch.Response) : f.outcome r ≠ some (.error .cancelled) := by
  unfold outcome
  split
  · split
    · nofun
    · nofun
    · split <;> nofun
  · split <;> nofun

theorem attempt_ne_cancelled (f : Fetcher) (server : Fetch.Server) (e : Endpoint) (t : Fetch.Traffic) :
    (f.attempt server e t).1 ≠ some (.error .cancelled) := by
  unfold attempt
  split
  · rename_i x hx
    rintro ⟨⟩
    exact f.request_ne_cancelled e hx
  · split
    · split
      · exact f.outcome_ne_cancelled _
      · nofun
      · split <;> nofun
    · nofun

theorem fetchAll_cons (f : Fetcher) (server : Fetch.Server) (e : Endpoint) (es : List Endpoint)
    (t : Fetch.Traffic) :
    (f.fetchAll server (e :: es) t).1 =
      (e, (f.fetch server e t).1) :: (f.fetchAll server es (f.fetch server e t).2).1 := by
  rw [fetchAll]

theorem keys_fetchAll (f : Fetcher) (server : Fetch.Server) (es : List Endpoint) (t : Fetch.Traffic) :
    (f.fetchAll server es t).1.map (·.1) = es := by
  induction es generalizing t with
  | nil => rfl
  | cons e es ih => rw [fetchAll_cons, List.map_cons, ih]

theorem mem_fetchAll {f : Fetcher} {server : Fetch.Server} {es : List Endpoint} {t : Fetch.Traffic}
    {q : Endpoint × Fetched} (h : q ∈ (f.fetchAll server es t).1) :
    ∃ t', q.2 = (f.fetch server q.1 t').1 := by
  induction es generalizing t with
  | nil => cases h
  | cons e es ih =>
    rw [fetchAll_cons] at h
    obtain rfl | h := List.mem_cons.1 h
    · exact ⟨t, by simp only⟩
    · exact ih h

end Fetcher

namespace Race

variable {p : RetryPolicy} {store : Store} {es : List Endpoint} {g : Endpoint → Worker}
  {seen : List Barrier.Event} {sd : Bool}

/-- Some run ends with the decision on what the barrier has made of `events`. -/
def EndsWith (p : RetryPolicy) (store : Store) (es : List Endpoint) (events : List Barrier.Event)
    (recorded : List Recording) (sd : Bool) : Prop :=
  ∃ as r, (begin p store es).run as = some r ∧ r.shutdown = sd ∧
    r.ending = some (Cycle.conclude store
      { Barrier.collect es.length {} events with
        recorded := recorded ++ (Barrier.collect es.length {} events).recorded } sd)

theorem cancelled_standing : (standing p store es g seen sd).cancelled =
    ((Barrier.collect es.length {} seen).cancelled || sd) := by
  simp [cancelled, collected, standing]

namespace Stands

/-- A worker that nothing cancels makes all its attempts. -/
theorem attempts {σ : Type} {tryOnce : σ → Option Outcome × σ} (hn : es.Nodup) {e : Endpoint} (he : e ∈ es)
    (htry : ∀ s, (tryOnce s).1 ≠ some (.error .cancelled))
    (hc : ∀ g, (standing p store es g seen sd).cancelled = false) {left n : Nat} {s : σ}
    {g : Endpoint → Worker} (h : Stands p store es g seen sd) (hg : g e = .waiting n)
    (hleft : left = p.maxAttempts - (n + 1)) :
    Stands p store es
      (Function.update g e (Worker.fetching (Fetcher.attemptsFrom tryOnce left (n + 1) s).1)) seen sd := by
  induction left generalizing n s g with
  | zero =>
    have hstarted := h.start hn he hg (hc _)
    have hlast : p.allowsRetry (n + 1) = false := by simp [RetryPolicy.allowsRetry]; omega
    cases ho : tryOnce s with
    | mk o s' =>
      cases o with
      | none =>
        rw [Fetcher.attemptsFrom_hung ho]
        exact hstarted
      | some o =>
        have hne : o ≠ .error .cancelled := fun heq => htry s (by rw [ho, heq])
        have hanswered := hstarted.answer hn he (Function.update_self ..) (hc _) hne
        rw [Function.update_idem, Worker.afterAttempt, hlast, Bool.and_false] at hanswered
        rw [Fetcher.attemptsFrom_last ho]
        exact hanswered
  | succ left ih =>
    have hstarted := h.start hn he hg (hc _)
    have hmore : p.allowsRetry (n + 1) = true := by simp [RetryPolicy.allowsRetry]; omega
    cases ho : tryOnce s with
    | mk o s' =>
      cases o with
      | none =>
        rw [Fetcher.attemptsFrom_hung ho]
        exact hstarted
      | some o =>
        have hne : o ≠ .error .cancelled := fun heq => htry s (by rw [ho, heq])
        have hanswered := hstarted.answer hn he (Function.update_self ..) (hc _) hne
        rw [Function.update_idem, Worker.afterAttempt, hmore, Bool.and_true] at hanswered
        rw [Fetcher.attemptsFrom_more ho]
        by_cases hr : Fetcher.isRetryable o = true
        · rw [if_pos hr] at hanswered ⊢
          have hrest := ih hanswered (s := s') (Function.update_self ..) (by omega)
          rwa [Function.update_idem] at hrest
        · rw [if_neg hr] at hanswered ⊢
          exact hanswered

theorem fetch (hn : es.Nodup) {e : Endpoint} (he : e ∈ es) {f : Fetcher} {server : Fetch.Server}
    {t : Fetch.Traffic}
    (hc : ∀ g, (standing f.policy store es g seen sd).cancelled = false)
    (h : Stands f.policy store es g seen sd) (hg : g e = .waiting 0) :
    Stands f.policy store es (Function.update g e (Worker.fetching (f.fetch server e t).1)) seen sd :=
  h.attempts hn he (f.attempt_ne_cancelled server e) hc hg rfl

/-- Where every worker has reported, the cycle ends with what they recorded. -/
theorem finish {xs : List (Endpoint × Fetcher.Fetched)} (h : Stands p store es g seen sd)
    (hxs : xs.map (·.1) = es) (hg : ∀ q ∈ xs, g q.1 = .reported q.2) :
    EndsWith p store es seen (xs.flatMap fun q => q.2.recorded q.1) sd := by
  have hworkers : (es.map fun e => (e, g e)) = xs.map fun q => (q.1, .reported q.2) := by
    rw [← hxs, List.map_map]
    exact List.map_congr_left fun q hq => congrArg (Prod.mk q.1) (hg q hq)
  have hreported : ∀ e ∈ es, (g e).report? e ≠ none := by
    intro e he
    rw [← hxs] at he
    obtain ⟨q, hq, rfl⟩ := List.mem_map.1 he
    rw [hg q hq]
    exact nofun
  have hlen : xs.length = es.length := by rw [← hxs, List.length_map]
  have hgathered : (standing p store es g seen sd).gathered =
      { Barrier.collect es.length {} seen with
        recorded := (xs.flatMap fun q => q.2.recorded q.1) ++
          (Barrier.collect es.length {} seen).recorded } := by
    simp only [gathered, collected, standing, hworkers, List.length_map, hlen, List.flatMap_map]
    rfl
  rw [EndsWith, ← hgathered]
  obtain ⟨as, hrun⟩ := h.conclude hreported
  exact ⟨as, _, hrun, rfl, rfl⟩

theorem reports {qs : List (Endpoint × Fetcher.Fetched)} (hn : es.Nodup) (h : Stands p store es g seen sd)
    (hq : (qs.map (·.1)).Nodup) (hg : ∀ q ∈ qs, q.1 ∈ es ∧ g q.1 = .ended q.2) :
    ∃ g', Stands p store es g' (seen ++ (qs.map fun q => q.2.result q.1).map .result) sd ∧
      (∀ q ∈ qs, g' q.1 = .reported q.2) ∧ ∀ e, e ∉ qs.map (·.1) → g' e = g e := by
  have hresults : (qs.map fun q => q.2.result q.1).map Barrier.Event.result =
      qs.flatMap fun q => [.result (q.2.result q.1)] := by
    rw [List.map_map, List.map_eq_flatMap]
    rfl
  rw [hresults]
  refine h.each hq fun q hmem g' qs' hsame hs => ?_
  exact hs.report hn (hg q hmem).1 (hsame.trans (hg q hmem).2)

theorem stops {qs : List (Endpoint × Fetcher.Fetched)} (hn : es.Nodup) (h : Stands p store es g seen sd)
    (hc : (Barrier.collect es.length {} seen).cancelled = true ∨ sd = true) (hq : (qs.map (·.1)).Nodup)
    (hg : ∀ q ∈ qs, q.1 ∈ es ∧
      (g q.1 = .waiting 0 ∧ q.2 = ⟨1, none⟩ ∨ g q.1 = .trying q.2.attempts ∧ q.2.outcome = none)) :
    ∃ g', Stands p store es g' seen sd ∧ (∀ q ∈ qs, g' q.1 = .ended q.2) ∧
      ∀ e, e ∉ qs.map (·.1) → g' e = g e := by
  have hcancelled : ∀ g, (standing p store es g seen sd).cancelled = true := by
    intro g
    rw [cancelled_standing, Bool.or_eq_true]
    exact hc
  refine h.eachUnseen hq fun q hmem g' hsame hs => ?_
  obtain ⟨hmem, ⟨hwaiting, hx⟩ | ⟨htrying, hx⟩⟩ := hg q hmem
  · exact hs.stop hn hmem (.inl ⟨hsame.trans hwaiting, hx⟩) (hcancelled _)
  · refine hs.stop hn hmem (.inr ⟨hsame.trans htrying, ?_⟩) (hcancelled _)
    rw [← hx]

/-- Unless a rejection has cancelled the cycle, the deadline does, as long as a result is missing. -/
theorem expire {rs : List FetchResult} {e : Endpoint} (h : Stands p store es g (rs.map .result) false)
    (he : e ∈ es) (hg : (g e).report? e = none) (hlen : rs.length < es.length) :
    Stands p store es g (rs.map .result ++ if rs.any Barrier.rejects then [] else [.deadline]) false ∧
      (Barrier.collect es.length {}
        (rs.map .result ++ if rs.any Barrier.rejects then [] else [.deadline])).cancelled = true := by
  by_cases hr : rs.any Barrier.rejects = true
  · rw [if_pos hr, List.append_nil]
    exact ⟨h, Barrier.cancelled_of_rejects (Nat.le_of_lt hlen) hr⟩
  · rw [if_neg hr]
    refine ⟨h.deadline he hg ?_, Barrier.cancelled_deadline hlen⟩
    rw [collected]
    exact Barrier.deadlineExceeded_results _ rs {}

/-- Fetches that hang are stopped, unless there are none. -/
theorem giveUp {rs : List FetchResult} {late : List (Endpoint × Fetcher.Fetched)} (hn : es.Nodup)
    (h : Stands p store es g (rs.map .result) false) (hlen : rs.length + late.length = es.length)
    (hlate : (late.map (·.1)).Nodup)
    (hg : ∀ q ∈ late, q.1 ∈ es ∧ g q.1 = .trying q.2.attempts ∧ q.2.outcome = none) :
    ∃ g', Stands p store es g' (rs.map .result ++
        if (late.map fun q => q.2.result q.1).isEmpty || rs.any Barrier.rejects then [] else [.deadline]) false ∧
      (∀ q ∈ late, g' q.1 = .ended q.2) ∧ ∀ e, e ∉ late.map (·.1) → g' e = g e := by
  cases late with
  | nil => exact ⟨g, by simpa using h, nofun, fun _ _ => rfl⟩
  | cons q qs =>
    rw [List.length_cons] at hlen
    obtain ⟨hq, htrying, -⟩ := hg q List.mem_cons_self
    obtain ⟨hs, hc⟩ := h.expire hq (by rw [htrying]; rfl) (by omega)
    exact hs.stops hn (.inl hc) hlate fun q hq => ⟨(hg q hq).1, .inr (hg q hq).2⟩

end Stands

theorem endsWith_stopped (p : RetryPolicy) (store : Store) (hn : es.Nodup) :
    EndsWith p store es (es.map fun e => .result (Cycle.stoppedResult e))
      (es.map fun e => .fetchOutcome e.name FetchError.cancelled.label) true := by
  let qs : List (Endpoint × Fetcher.Fetched) := es.map fun e => (e, ⟨1, none⟩)
  have hkeys : qs.map (·.1) = es := by simp [qs, Function.comp_def]
  have hnodup : (qs.map (·.1)).Nodup := by rwa [hkeys]
  have hbegin : Stands p store es (fun _ => .waiting 0) [] false := stands_begin
  obtain ⟨g, hs, hended, -⟩ := hbegin.shutdown.stops hn (.inr rfl) hnodup
    (List.forall_mem_map.2 fun e he => ⟨he, .inl ⟨rfl, rfl⟩⟩)
  obtain ⟨g', hs', hreported, -⟩ := hs.reports hn hnodup fun q hq =>
    ⟨by rw [← hkeys]; exact List.mem_map_of_mem hq, hended q hq⟩
  have hfinished := hs'.finish hkeys hreported
  have hevents : (qs.map fun q => q.2.result q.1).map Barrier.Event.result =
      es.map fun e => .result (Cycle.stoppedResult e) := by
    simp only [qs, List.map_map]
    rfl
  have hrecorded : (qs.flatMap fun q => q.2.recorded q.1) =
      es.map fun e => .fetchOutcome e.name FetchError.cancelled.label := by
    rw [List.flatMap_map, List.map_eq_flatMap]
    rfl
  rwa [List.nil_append, hevents, hrecorded] at hfinished

theorem endsWith_arrivals (store : Store) (hn : es.Nodup) (f : Fetcher) (server : Fetch.Server)
    (t : Fetch.Traffic) :
    EndsWith f.policy store es (Cycle.arrivals (f.fetchAll server es t).1)
      ((f.fetchAll server es t).1.flatMap fun q => q.2.recorded q.1) false := by
  have hkeys := f.keys_fetchAll server es t
  have hfetch : ∀ q ∈ (f.fetchAll server es t).1, ∃ t', q.2 = (f.fetch server q.1 t').1 :=
    fun q hq => Fetcher.mem_fetchAll hq
  generalize (f.fetchAll server es t).1 = xs at hkeys hfetch
  have hmem : ∀ q ∈ xs, q.1 ∈ es := fun q hq => hkeys ▸ List.mem_map_of_mem hq
  have hnodup : (xs.map (·.1)).Nodup := by rwa [hkeys]
  have hbegin : Stands f.policy store es (fun _ => .waiting 0) [] false := stands_begin
  -- every fetch goes as far as it gets
  obtain ⟨g₁, hs₁, hfetching, -⟩ := hbegin.eachUnseen (w := Worker.fetching) hnodup fun q hq g' hsame hs => by
    obtain ⟨t', hx⟩ := hfetch q hq
    rw [hx]
    exact hs.fetch hn (hmem q hq) (fun g => rfl) hsame
  -- those that ended report, those with fewer attempts first
  let results := (xs.filter Cycle.hasEnded).mergeSort fun a b => a.2.attempts ≤ b.2.attempts
  let late := xs.filter (!Cycle.hasEnded ·)
  have hperm : (results ++ late).Perm xs :=
    ((List.mergeSort_perm _ _).append_right _).trans (List.filter_append_perm _ xs)
  have hnodup' : ((results ++ late).map (·.1)).Nodup := (hperm.map _).nodup_iff.2 hnodup
  rw [List.map_append, List.nodup_append] at hnodup'
  obtain ⟨hresults, hlate, hapart⟩ := hnodup'
  have hended : ∀ q ∈ results, q.1 ∈ es ∧ g₁ q.1 = .ended q.2 := by
    intro q hq
    have hq' := List.mem_filter.1 ((List.mergeSort_perm _ _).mem_iff.1 hq)
    exact ⟨hmem q hq'.1, (hfetching q hq'.1).trans (if_pos hq'.2)⟩
  obtain ⟨g₂, hs₂, hreported₂, hrest₂⟩ := hs₁.reports hn hresults hended
  have hhangs : ∀ q ∈ late, q.1 ∈ es ∧ g₂ q.1 = .trying q.2.attempts ∧ q.2.outcome = none := by
    intro q hq
    have hq' := List.mem_filter.1 hq
    have hnone : q.2.outcome = none := by simpa [Cycle.hasEnded] using hq'.2
    have hfresh : q.1 ∉ results.map (·.1) := fun hr => hapart q.1 hr q.1 (List.mem_map_of_mem hq) rfl
    refine ⟨hmem q hq'.1, ?_, hnone⟩
    rw [hrest₂ q.1 hfresh, hfetching q hq'.1, Worker.fetching, hnone]
    rfl
  -- the others are stopped, and report last
  have hlength := hperm.length_eq
  rw [List.length_append] at hlength
  have hcount : xs.length = es.length := by rw [← hkeys, List.length_map]
  rw [List.nil_append] at hs₂
  obtain ⟨g₃, hs₃, hended₃, hrest₃⟩ := hs₂.giveUp hn (by rw [List.length_map]; omega) hlate hhangs
  obtain ⟨g₄, hs₄, hreported₄, hrest₄⟩ := hs₃.reports hn hlate fun q hq => ⟨(hhangs q hq).1, hended₃ q hq⟩
  refine hs₄.finish hkeys fun q hq => ?_
  obtain hq | hq := List.mem_append.1 (hperm.mem_iff.2 hq)
  · have hfresh : q.1 ∉ late.map (·.1) := fun hl => hapart q.1 (List.mem_map_of_mem hq) q.1 hl rfl
    rw [hrest₄ q.1 hfresh, hrest₃ q.1 hfresh, hreported₂ q hq]
  · exact hreported₄ q hq

end Race

namespace Cycle

/-- A cycle with a client ends as one of its runs does. -/
theorem exists_run (f : Fetcher) (server : Fetch.Server) (stop : Stop) (store : Store) :
    ∃ as r, ((Race.Call.loadWith f.policy).start store).run as = some r ∧
      r.shutdown = stop.reached (run f server stop store).2 ∧ r.ending = some (run f server stop store).1 := by
  have hn := Race.nodup_endpoints
  have hstopped := Race.endsWith_stopped f.policy store hn
  have harrivals := Race.endsWith_arrivals store hn f server []
  unfold run fetches
  by_cases hbefore : stop = .before
  · rw [if_pos hbefore, hbefore]
    exact hstopped
  rw [if_neg hbefore]
  generalize f.fetchAll server Endpoint.all [] = ended at harrivals
  obtain ⟨xs, t⟩ := ended
  by_cases hreached : stop.reached t = true
  · simp only [hreached, if_true]
    exact hstopped
  · rw [Bool.not_eq_true] at hreached
    simp only [hreached, Bool.false_eq_true, if_false]
    exact harrivals

/-- A cycle that sets up its client first ends as one of its runs does. -/
theorem exists_run_load (files : FileSystem) (s : Settings) (server : Fetch.Server) (stop : Stop)
    (store : Store) :
    ∃ as r, ((Race.Call.load files s).start store).run as = some r ∧
      (stop.reached (load files s server stop store).2 = false → r.shutdown = false) ∧
      r.ending = some (load files s server stop store).1 := by
  unfold Race.Call.start load
  cases ht : Trust.check files s.controlPlane with
  | some e => exact ⟨[], _, rfl, fun _ => by simp only [ht]; rfl, by simp only [ht]⟩
  | none =>
    simp only [ht]
    obtain ⟨as, r, hrun, hshutdown, hend⟩ := exists_run (.ofSettings s true) server stop store
    exact ⟨as, r, hrun, fun h => hshutdown.trans h, hend⟩

end Cycle

end GatewayFeed
