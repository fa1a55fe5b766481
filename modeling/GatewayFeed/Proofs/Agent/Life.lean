import GatewayFeed.Proofs.Agent.Cycles
import GatewayFeed.Proofs.Cycle.Cancellation
import GatewayFeed.Proofs.Cycle.Schedule

/-! An agent's life, in which a cycle is one step, is one of the runs in which a cycle takes its time. -/

namespace GatewayFeed

namespace Race

variable {files : FileSystem} {s : Settings} {server : Fetch.Server} {stop : Cycle.Stop} {store : Store}

theorem shutdown_of_mem {r r' : Race} {bs : List Act} (h : r.run bs = some r') (hb : .shutdown ∈ bs) :
    r'.shutdown = true := by
  obtain ⟨before, after, rfl⟩ := List.append_of_mem hb
  obtain ⟨r₁, -, h₁⟩ := foldlM_append_eq_some h
  obtain ⟨r₂, h₂, h₃⟩ := foldlM_cons_eq_some h₁
  cases (step_of_eq_some h₂).2
  exact shutdown_run h₃ rfl

/-- A cycle that was told to stop and is over has left the store. -/
theorem exists_run_of_reached (h : stop.reached (Cycle.load files s server stop store).2 = true) : ∃ bs r e,
    (((Call.load files s).start store).told true).run bs = some r ∧ (∀ b ∈ bs, b ≠ .shutdown) ∧
    r.ending = some e ∧ e.result = (Cycle.load files s server stop store).1.result ∧
    r.store = (Cycle.load files s server stop store).1.store := by
  cases ht : Trust.check files s.controlPlane with
  | some x =>
    let e : Cycle.Ending := { result := .error (.trust x), store, recorded := [] }
    have hload : (Cycle.load files s server stop store).1 = e := by simp only [Cycle.load, ht]; rfl
    have hstart : (Call.load files s).start store =
        { begin (.ofSettings s.retries) store Endpoint.all with ending := some e } := by simp only [Call.start, ht]; rfl
    rw [hload, hstart]
    exact ⟨[], _, e, rfl, List.forall_mem_nil _, rfl, rfl, rfl⟩
  | none =>
    have hload : Cycle.load files s server stop store = Cycle.run (.ofSettings s true) server stop store := by
      simp only [Cycle.load, ht]
    have hstart : (Call.load files s).start store = begin (.ofSettings s.retries) store Endpoint.all := by
      simp only [Call.start, ht]
    rw [hload] at h ⊢
    rw [hstart]
    obtain ⟨hresult, hstore⟩ := Cycle.result_of_reached h
    have hsound := sound_begin (.ofSettings s.retries) store Endpoint.all
    obtain ⟨bs, r, hbs, hrun, hend⟩ := exists_ending
      (r := { begin (.ofSettings s.retries) store Endpoint.all with shutdown := true })
      ⟨hsound.endpoints, hsound.delivery, hsound.opened⟩
    obtain ⟨e, he⟩ := Option.isSome_iff_exists.1 hend
    obtain ⟨-, hcancelled, hkept⟩ := result_of_stopped hrun he
    have hbegin : (begin (.ofSettings s.retries) store Endpoint.all).run (.shutdown :: bs) = some r := hrun
    obtain ⟨o, hc⟩ := concluded_of_run hbegin he
    refine ⟨bs, r, e, hrun, fun b hb => ne_shutdown_of_isUnaided (hbs b hb), he, ?_, ?_⟩
    · rw [hcancelled, hresult]
    · rw [hc.store, hkept, hstore]

/-- Whether it is told to stop or not, a cycle that is computed ends as one of its runs does. -/
theorem exists_run_told (files : FileSystem) (s : Settings) (server : Fetch.Server) (stop : Cycle.Stop)
    (store : Store) : ∃ bs r e,
      (((Call.load files s).start store).told (stop.reached (Cycle.load files s server stop store).2)).run bs = some r ∧
      (∀ b ∈ bs, b ≠ .shutdown) ∧ r.ending = some e ∧
      e.result = (Cycle.load files s server stop store).1.result ∧
      r.store = (Cycle.load files s server stop store).1.store := by
  cases hreached : stop.reached (Cycle.load files s server stop store).2 with
  | true => exact exists_run_of_reached hreached
  | false =>
    obtain ⟨bs, r, hrun, hshutdown, he⟩ := Cycle.exists_run_load files s server stop store
    refine ⟨bs, r, _, hrun, ?_, he, rfl, ?_⟩
    · rintro b hb rfl
      have hcontra := (shutdown_of_mem hrun hb).symm.trans (hshutdown hreached)
      cases hcontra
    · obtain ⟨-, -, hr, hstore⟩ | ⟨o, hc⟩ := ending_of_run hrun he
      · rw [hr, hstore]
      · exact hc.store

end Race

namespace Agent

variable {w : Surroundings} {once : Bool} {p : Service} {l : Life} {stop : Cycle.Stop}

theorem runCycle_eq (w : Surroundings) (stop : Cycle.Stop) (a : Agent) : a.runCycle w stop =
    let stop := if a.router.triggered then .before else stop
    let cycle := Cycle.load w.files a.settings w.server stop a.store
    { a with
      store := cycle.1.store
      router := if stop.reached cycle.2 then a.router.trigger.settle else a.router
      cycles := a.cycles ++ [a.settings]
      events := a.events ++ Event.ofCycle a.settings cycle.1.result } := rfl

def Stage.activity : Stage → Activity
  | .launched => .launched
  | .loaded => .loaded
  | .watching => .waiting

namespace Service

theorem trigger_settle_of_triggered {r : Router} (h : Whole r) (ht : r.triggered = true) : r.trigger.settle = r := by
  obtain ⟨triggered, cancelled, finished, dropped, queued⟩ := r
  obtain ⟨hf, hc, -⟩ := h
  dsimp only at hf hc ht
  subst hf hc ht
  rfl

/-- A cycle that is told to stop is told at its start. -/
theorem exists_cycle (w : Surroundings) (once : Bool) (p : Service) (first : Bool) (stop : Cycle.Stop) (hw : Whole p.agent.router) :
    ∃ as r e, (p.begin w first).run w once as = some { p.begin w first with
        agent.router := (p.agent.runCycle w stop).router, activity := .cycling first r } ∧
      r.ending = some e ∧ r.store = (p.agent.runCycle w stop).store ∧
      (p.agent.runCycle w stop).events = p.agent.events ++ Event.ofCycle p.agent.settings e.result := by
  rw [runCycle_eq]
  cases ht : p.agent.router.triggered with
  | true =>
    obtain ⟨bs, r, e, hrun, hbs, he, hresult, hstore⟩ :=
      Race.exists_run_told w.files p.agent.settings w.server .before p.agent.store
    refine ⟨bs.map .cycle, r, e, ?_, he, hstore, by rw [hresult]; rfl⟩
    have hactivity : (p.begin w first).activity = .cycling first
        (((Race.Call.load w.files p.agent.settings).start p.agent.store).told true) := by
      simp only [begin, ht, Activity.told]
    rw [run_cycle hactivity hrun hbs]
    simp only [Cycle.Stop.reached, if_true, trigger_settle_of_triggered hw ht]
    rfl
  | false =>
    obtain ⟨bs, r, e, hrun, hbs, he, hresult, hstore⟩ :=
      Race.exists_run_told w.files p.agent.settings w.server stop p.agent.store
    have hactivity : (p.begin w first).activity = .cycling first
        ((Race.Call.load w.files p.agent.settings).start p.agent.store) := by
      simp only [begin, ht, Activity.told]
      rfl
    simp only [if_false, Bool.false_eq_true] at hstore ⊢
    cases hreached : stop.reached (Cycle.load w.files p.agent.settings w.server stop p.agent.store).2 with
    | true =>
      rw [hreached] at hrun
      have hrouter : ((p.begin w first).agent.router.step (.signal .shutdown)).settle = p.agent.router.trigger.settle :=
        settle_shutdown hw
      have htold : ((p.begin w first).signal .shutdown).activity = .cycling first
          (((Race.Call.load w.files p.agent.settings).start p.agent.store).told true) := by
        simp only [Service.signal, hactivity, hrouter, Activity.told]
        rfl
      -- the signal comes before the first step of the cycle
      refine ⟨.signal .shutdown :: bs.map .cycle, r, e, foldlM_cons rfl ?_, he, hstore, by rw [hresult]⟩
      refine (run_cycle htold hrun hbs).trans ?_
      simp only [Service.signal, hrouter]
      rfl
    | false =>
      rw [hreached] at hrun
      refine ⟨bs.map .cycle, r, e, ?_, he, hstore, by rw [hresult]⟩
      rw [run_cycle hactivity hrun hbs]
      rfl

/-- The cycle, and what comes right after it. -/
theorem exists_left_cycle (w : Surroundings) (once : Bool) (p : Service) (first : Bool) (stop : Cycle.Stop) (hw : Whole p.agent.router) :
    ∃ as, (p.begin w first).run w once as = some { p with
      agent := if first then Life.afterFirst once (p.agent.runCycle w stop) else p.agent.runCycle w stop
      activity := if first then .loaded else .waiting } := by
  obtain ⟨as, r, e, hrun, he, hstore, hevents⟩ := exists_cycle w once p first stop hw
  have hagent : { p.agent with
      router := (p.agent.runCycle w stop).router, cycles := p.agent.cycles ++ [p.agent.settings]
      store := r.store, events := p.agent.events ++ Event.ofCycle p.agent.settings e.result } =
      p.agent.runCycle w stop := by
    rw [hstore, ← hevents]
    rfl
  have hleave : step w once { p.begin w first with
      agent.router := (p.agent.runCycle w stop).router, activity := .cycling first r } .leave = some { p with
        agent := if first then Life.afterFirst once (p.agent.runCycle w stop) else p.agent.runCycle w stop
        activity := if first then .loaded else .waiting } := by
    simp only [step, he, Option.map_some, leave, begin, hagent]
  exact ⟨as ++ [.leave], foldlM_append hrun (foldlM_cons hleave rfl)⟩

/-- An agent in between two steps of its life. -/
def ofLife (l : Life) (taken : List Request) : Service where
  agent := l.agent
  watcher := l.watcher
  activity := l.stage.activity
  watching := l.stage = .watching
  taken

theorem run_sends (w : Surroundings) (once : Bool) {new : List Settings} (hp : p.inHand = new) :
    p.run w once (List.replicate new.length .send) =
      some { p with agent.updates := p.agent.updates ++ new, inHand := [] } := by
  induction new generalizing p with
  | nil =>
    obtain ⟨agent, watcher, activity, watching, inHand, taken⟩ := p
    cases hp
    rw [List.append_nil]
    rfl
  | cons s rest ih =>
    have hstep : p.step w once .send = some { p with agent.updates := p.agent.updates ++ [s], inHand := rest } := by
      simp only [step, hp]
    refine foldlM_cons hstep ((ih rfl).trans ?_)
    simp only [List.append_assoc, List.singleton_append]

/-- The cycle that an agent runs when it has taken something up. -/
theorem exists_poll (q : Service) (stop : Cycle.Stop) (hw : Whole q.agent.router)
    (h : p.step w once .poll = some (q.begin w false)) :
    ∃ as, p.run w once as = some { q with agent := q.agent.runCycle w stop, activity := .waiting } := by
  obtain ⟨as, has⟩ := exists_left_cycle w once q false stop hw
  exact ⟨.poll :: as, foldlM_cons h has⟩

theorem exists_run_poll (a : Agent) (watcher : Watcher) (taken : List Request) (stop : Cycle.Stop) (hw : Whole a.router) :
    ∃ as taken', (ofLife ⟨a, watcher, .watching⟩ taken).run w once as =
      some (ofLife ⟨a.poll w watcher.file stop, watcher, .watching⟩ taken') := by
  cases he : a.ended with
  | true =>
    have hpoll : a.poll w watcher.file stop = a := by simp only [Agent.poll, he, if_true]
    rw [hpoll]
    exact ⟨[], taken, rfl⟩
  | false =>
    have hstep : (ofLife ⟨a, watcher, .watching⟩ taken).step w once .poll =
        some ((ofLife ⟨a, watcher, .watching⟩ taken).poll w) := by
      simp only [step, ofLife, Stage.activity, he]
      rfl
    cases ht : a.router.triggered with
    | true =>
      refine ⟨[.poll], taken, foldlM_cons hstep ?_⟩
      simp only [Agent.poll, Service.poll, ofLife, he, ht]
      rfl
    | false =>
      cases hu : a.updates with
      | cons s rest =>
        have hpoll : a.poll w watcher.file stop = { a with settings := s, updates := rest }.runCycle w stop := by
          simp only [Agent.poll, he, ht, hu]
          rfl
        have hservice : (ofLife ⟨a, watcher, .watching⟩ taken).poll w = begin w
            (ofLife ⟨{ a with settings := s, updates := rest }, watcher, .watching⟩ (taken ++ [.update s])) false := by
          simp only [Service.poll, ofLife, ht, hu]
          rfl
        obtain ⟨as, has⟩ := exists_poll _ stop hw (hstep.trans (congrArg some hservice))
        exact ⟨as, taken ++ [.update s], by rw [hpoll]; exact has⟩
      | nil =>
        by_cases hq : 0 < a.router.queued
        · let a' := { a with router.queued := a.router.queued - 1 }.reload w watcher.file
          have hpoll : a.poll w watcher.file stop = a'.runCycle w stop := by
            simp only [a', Agent.poll, he, ht, hu, hq, if_true, Bool.false_eq_true, if_false]
          have hservice : (ofLife ⟨a, watcher, .watching⟩ taken).poll w =
              begin w (ofLife ⟨a', watcher, .watching⟩ (taken ++ [.reload watcher.file])) false := by
            simp only [Service.poll, ofLife, ht, hu, hq]
            rfl
          have hw' : Whole a'.router := by
            obtain ⟨es, hreload⟩ := Agent.reload_eq w watcher.file { a with router.queued := a.router.queued - 1 }
            simp only [a', hreload]
            exact ⟨hw.finished, hw.cycleCancelled, hw.receiverDropped⟩
          obtain ⟨as, has⟩ := exists_poll _ stop hw' (hstep.trans (congrArg some hservice))
          exact ⟨as, taken ++ [.reload watcher.file], by rw [hpoll]; exact has⟩
        · have hpoll : a.poll w watcher.file stop = a := by
            simp only [Agent.poll, he, ht, hu, hq]
            rfl
          rw [hpoll]
          exact ⟨[], taken, rfl⟩

theorem exists_run_step (w : Surroundings) (once : Bool) (l : Life) (taken : List Request) (hw : Whole l.agent.router) (s : Life.Step) :
    ∃ as taken', (ofLife l taken).run w once as = some (ofLife (l.step w once s) taken') := by
  obtain ⟨agent, watcher, stage⟩ := l
  cases s with
  | change c => cases stage <;> exact ⟨[.change c], taken, rfl⟩
  | signal s => cases stage <;> exact ⟨[.signal s], taken, rfl⟩
  | first stop =>
    cases stage with
    | launched =>
      obtain ⟨as, has⟩ := exists_left_cycle w once (ofLife ⟨agent, watcher, .launched⟩ taken) true stop hw
      exact ⟨.begin :: as, taken, foldlM_cons rfl has⟩
    | _ => exact ⟨[], taken, rfl⟩
  | watch =>
    cases stage with
    | loaded =>
      cases he : agent.ended with
      | true => exact ⟨[], taken, by simp only [Life.step, he]; rfl⟩
      | false =>
        have hstep : (ofLife ⟨agent, watcher, .loaded⟩ taken).step w once (.watch true) =
            some (ofLife ⟨agent, watcher, .watching⟩ taken) := by
          simp only [step, ofLife, Stage.activity, he]
          rfl
        exact ⟨[.watch true], taken, foldlM_cons hstep (by simp only [Life.step, he]; rfl)⟩
    | _ => exact ⟨[], taken, rfl⟩
  | handle =>
    cases stage with
    | watching =>
      have hsent := run_sends w once (p := (ofLife ⟨agent, watcher, .watching⟩ taken).handle w) rfl
      exact ⟨.handle :: _, taken, foldlM_cons rfl hsent⟩
    | _ => exact ⟨[], taken, rfl⟩
  | poll stop =>
    cases stage with
    | watching => exact exists_run_poll agent watcher taken stop hw
    | _ => exact ⟨[], taken, rfl⟩

/-- Each life of an agent is one of its runs. -/
theorem exists_run {file : Option (List UInt8)} (h : Life.launch w once file = .ok l) (steps : List Life.Step) :
    ∃ as taken, (launched l).run w once as = some (ofLife (l.run w once steps) taken) := by
  induction steps using List.reverseRecOn with
  | nil =>
    obtain ⟨s, -, rfl⟩ := launch_eq_ok h
    exact ⟨[], [], rfl⟩
  | append_singleton steps s ih =>
    obtain ⟨as, taken, hrun⟩ := ih
    have hwhole : Whole (l.run w once steps).agent.router := (run_induction sound_step hrun (sound_launched h)).whole
    obtain ⟨bs, taken', hbs⟩ := exists_run_step w once (l.run w once steps) taken hwhole s
    refine ⟨as ++ bs, taken', ?_⟩
    rw [Life.run, List.foldl_append]
    exact foldlM_append hrun hbs

end Service

end Agent

end GatewayFeed
