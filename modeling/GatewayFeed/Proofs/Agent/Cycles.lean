import GatewayFeed.Proofs.Agent.Requests
import GatewayFeed.Proofs.Cycle.Progress

/-! Which load cycles an agent runs, and with which settings. -/

namespace GatewayFeed.Agent.Service

variable {w : Surroundings} {once : Bool} {p p' : Service} {a : Act} {as : List Act} {s₀ : Settings}

/-- The cycle that runs is one with the settings in use. -/
def Runs (w : Surroundings) (p : Service) : Prop :=
  ∀ first r, p.activity = .cycling first r →
    ∃ bs, ((Race.Call.load w.files p.agent.settings).start p.agent.store).run bs = some r

theorem exists_run_told {r₀ r : Race} {bs : List Race.Act} (triggered : Bool) (h : r₀.run bs = some r) :
    ∃ bs', r₀.run bs' = some (r.told triggered) := by
  cases triggered with
  | false => exact ⟨bs, h⟩
  | true =>
    rw [Race.told, if_pos rfl]
    cases hr : r.step .shutdown with
    | none => exact ⟨bs, h⟩
    | some r' => exact ⟨bs ++ [.shutdown], foldlM_append h (foldlM_cons hr rfl)⟩

theorem runs_begin (p : Service) (first : Bool) : Runs w (p.begin w first) := by
  intro first' r hr
  cases hr
  let r₀ := (Race.Call.load w.files p.agent.settings).start p.agent.store
  have hstart : r₀.run [] = some r₀ := rfl
  exact exists_run_told _ hstart

theorem runs_step (hs : Step w once p a p') (h : Runs w p) : Runs w p' := by
  cases hs with
  | signal s =>
    intro first r hr
    cases hp : p.activity with
    | cycling first' r' =>
      obtain ⟨bs, hbs⟩ := h first' r' hp
      simp only [Service.signal, hp] at hr
      cases hr
      exact exists_run_told _ hbs
    | _ =>
      simp only [Service.signal, hp] at hr
      cases hr
  | begin hp => exact runs_begin p true
  | cycle hp hr =>
    intro first' r'' hp'
    obtain ⟨bs, hbs⟩ := h _ _ hp
    cases hp'
    exact ⟨bs ++ [_], foldlM_append hbs (foldlM_cons hr rfl)⟩
  | @leave first r e hp he =>
    intro first' r' hp'
    cases first <;> cases hp'
  | watch works hp he =>
    intro first' r' hp'
    cases hp'
  | update hp he ht hu => exact runs_begin _ false
  | reload hp he ht hu hq => exact runs_begin _ false
  | _ => exact h

/-- What may have happened to an agent that is where it is. -/
def Fits (once : Bool) (p : Service) : Prop :=
  match p.activity with
  | .launched => p.agent.ended = false ∧ p.taken = []
  | .cycling true _ => p.agent.ended = false ∧ p.taken = []
  | .cycling false _ => p.agent.ended = false ∧ once = false
  | .loaded => (once = true → p.agent.ended = true) ∧ p.taken = []
  | .waiting => once = false

theorem fits_step (hs : Step w once p a p') (h : Fits once p) : Fits once p' := by
  unfold Fits at h
  cases hs with
  | change c => exact h
  | signal s =>
    unfold Fits Service.signal
    cases hp : p.activity with
    | cycling first r => cases first <;> (rw [hp] at h; exact h)
    | _ => rw [hp] at h; exact h
  | begin hp =>
    rw [hp] at h
    exact h
  | @cycle first r r' b hp hr =>
    rw [hp] at h
    cases first <;> exact h
  | @leave first r e hp he =>
    rw [hp] at h
    obtain ⟨es, hleave⟩ := leave_eq once p first r e
    rw [hleave]
    cases first with
    | true => exact ⟨fun honce => by simp [honce], h.2⟩
    | false => exact h.2
  | watch works hp he =>
    rw [hp] at h
    show once = false
    by_contra honce
    rw [h.1 (by simpa using honce)] at he
    cases he
  | handle hw hh => exact h
  | send hh => exact h
  | finish hp he ht =>
    rw [hp] at h
    unfold Fits
    rw [hp]
    exact h
  | update hp he ht hu =>
    rw [hp] at h
    exact ⟨he, h⟩
  | reload hp he ht hu hq =>
    rw [hp] at h
    obtain ⟨es, hreload⟩ := reload_eq w p
    rw [hreload]
    exact ⟨he, h⟩
  | idle hp he ht hu hq => exact h

theorem run_cycle {first : Bool} {r r' : Race} {bs : List Race.Act} (hp : p.activity = .cycling first r)
    (h : r.run bs = some r') (hbs : ∀ b ∈ bs, b ≠ .shutdown) :
    p.run w once (bs.map .cycle) = some { p with activity := .cycling first r' } := by
  induction bs generalizing p r with
  | nil =>
    cases h
    rw [← hp]
    rfl
  | cons b bs ih =>
    obtain ⟨r₁, h₁, h₂⟩ := foldlM_cons_eq_some h
    obtain ⟨hb, hrest⟩ := List.forall_mem_cons.1 hbs
    have hstep : p.step w once (.cycle b) = some { p with activity := .cycling first r₁ } := by
      cases b with
      | shutdown => exact absurd rfl hb
      | _ => simp only [step, hp, h₁, Option.map_some]
    exact foldlM_cons hstep (ih rfl h₂ hrest)

theorem exists_end_of_cycle {r : Race} (hruns : Runs w p) (hp : p.activity = .cycling true r) :
    ∃ more p', p.run w true more = some p' ∧ p'.agent.ended = true := by
  obtain ⟨bs, hbs⟩ := hruns _ _ hp
  obtain ⟨cs, r', hcs, hrun, hend⟩ := Race.exists_ending (Race.sound_run hbs (Race.sound_start _ _))
  obtain ⟨e, he⟩ := Option.isSome_iff_exists.1 hend
  have hcycle : p.run w true (cs.map .cycle) = some { p with activity := .cycling true r' } :=
    run_cycle hp hrun fun b hb => Race.ne_shutdown_of_isUnaided (hcs b hb)
  have hstep : step w true { p with activity := .cycling true r' } .leave =
      some (leave true { p with activity := .cycling true r' } true r' e) := by
    simp only [step, he, Option.map_some]
  refine ⟨cs.map Act.cycle ++ [.leave], _, foldlM_append hcycle (foldlM_cons hstep rfl), ?_⟩
  obtain ⟨es, hleave⟩ := leave_eq true { p with activity := .cycling true r' } true r' e
  rw [hleave]
  simp

/-- An agent that runs one cycle only comes to its end. -/
theorem exists_end (hfits : Fits true p) (hruns : Runs w p) :
    ∃ more p', p.run w true more = some p' ∧ p'.agent.ended = true := by
  unfold Fits at hfits
  cases hp : p.activity with
  | launched =>
    have hstep : p.step w true .begin = some (p.begin w true) := by simp only [step, hp]
    obtain ⟨more, p', hmore, hend⟩ := exists_end_of_cycle (runs_begin p true) rfl
    exact ⟨.begin :: more, p', foldlM_cons hstep hmore, hend⟩
  | cycling first r =>
    rw [hp] at hfits
    cases first with
    | true => exact exists_end_of_cycle hruns hp
    | false => cases hfits.2
  | loaded =>
    rw [hp] at hfits
    exact ⟨[], p, rfl, hfits.1 rfl⟩
  | waiting =>
    rw [hp] at hfits
    cases hfits

theorem taken_of_fits_once (h : Fits true p) : p.taken = [] ∧ (p.agent.ended = true → p.activity.isLaunched = false) := by
  unfold Fits at h
  cases hp : p.activity with
  | cycling first r =>
    rw [hp] at h
    cases first with
    | true => exact ⟨h.2, fun _ => rfl⟩
    | false => cases h.2
  | launched =>
    rw [hp] at h
    exact ⟨h.2, fun he => by rw [h.1] at he; cases he⟩
  | loaded =>
    rw [hp] at h
    exact ⟨h.2, fun _ => rfl⟩
  | waiting =>
    rw [hp] at h
    cases h

/-- What holds of an agent wherever it is. -/
structure Sound (w : Surroundings) (once : Bool) (s₀ : Settings) (p : Service) : Prop where
  faithful : Faithful w s₀ p
  valid : ∀ s ∈ p.watcher.sent, s.problems = []
  runs : Runs w p
  fits : Fits once p
  whole : Whole p.agent.router

theorem sound_step (hs : Step w once p a p') (h : Sound w once s₀ p) : Sound w once s₀ p' where
  faithful := faithful_step hs h.faithful
  valid := valid_sent_step hs h.valid
  runs := runs_step hs h.runs
  fits := fits_step hs h.fits
  whole := (asked_step hs h.whole).1

theorem sound_launched {l : Life} {file : Option (List UInt8)} (h : Life.launch w once file = .ok l) :
    Sound w once l.agent.settings (launched l) := by
  obtain ⟨s, -, rfl⟩ := launch_eq_ok h
  exact ⟨⟨rfl, rfl, fun _ => rfl, rfl⟩, List.forall_mem_nil _, nofun, ⟨rfl, rfl⟩, ⟨rfl, rfl, rfl⟩⟩

theorem Sound.cycles_valid (h : Sound w once s₀ p) (hs₀ : s₀.problems = []) : ∀ s ∈ p.agent.cycles, s.problems = [] := by
  rw [h.faithful.cycles]
  split
  · exact List.forall_mem_nil _
  · refine valid_scanl hs₀ fun new hnew => h.valid new ?_
    rw [← h.faithful.delivered, List.append_assoc]
    exact List.mem_append_left _ hnew

theorem next_taken (h : p.run w once (.poll :: as) = some p') (ht : p.agent.router.triggered = false) :
    (∀ s (rest : List Settings), p.agent.updates = s :: rest → p.taken ++ [Request.update s] <+: p'.taken) ∧
    (p.agent.updates = [] → 0 < p.agent.router.queued → p.taken ++ [Request.reload p.watcher.file] <+: p'.taken) := by
  obtain ⟨p₁, h₁, h₂⟩ := foldlM_cons_eq_some h
  have hkept := taken_run h₂
  cases step_of_eq_some h₁ with
  | finish hp he hc =>
    rw [ht] at hc
    cases hc
  | update hp he ht hu =>
    refine ⟨fun s rest hs => ?_, fun hnone => ?_⟩
    · rw [hu] at hs
      cases hs
      exact hkept
    · rw [hu] at hnone
      cases hnone
  | reload hp he ht hu hq =>
    refine ⟨fun s rest hs => ?_, fun _ _ => hkept⟩
    rw [hu] at hs
    cases hs
  | idle hp he ht hu hq =>
    refine ⟨fun s rest hs => ?_, fun _ hpos => ?_⟩
    · rw [hu] at hs
      cases hs
    · omega

/-- An agent on its own, with a control plane that does not answer. -/
def alone : Surroundings where
  files _ := .missing
  server := Fetch.nowhere

def userText (user : String) : List UInt8 :=
  Utf8.encode ("control_plane=['http://[::1]','" ++ user ++ "']")

/-- A cycle whose fetches hang until the deadline. -/
def hangingCycle : List Act :=
  ([Race.Act.deadline] ++ (List.range 6).map Race.Act.stop ++ (List.range 6).map Race.Act.report
    ++ List.replicate 6 Race.Act.receive ++ [Race.Act.conclude]).map Act.cycle ++ [.leave]

/-- While the cycle with new settings runs, the file is spoiled, and then it is to be read again. The shutdown
comes in the cycle after that, when one more request waits. -/
def spoiledFile : List Act :=
  [Act.begin] ++ hangingCycle ++
  [Act.watch true, Act.change (.replaced Watcher.fileName (userText "b")), Act.handle, Act.signal .reload, Act.send,
    Act.poll, Act.change (.replaced Watcher.fileName [255])] ++ hangingCycle ++
  [Act.poll, Act.signal .reload, Act.signal .shutdown] ++ hangingCycle ++ [Act.poll]

/-- Whatever the watcher sends, whatever is asked for and whenever the shutdown comes, while the agent waits or
while a cycle runs: there is one cycle for each request that was taken up, after the first one, and each cycle
runs with the settings that were accepted last before it, of which none has a broken rule; where reading the
file again gives no settings, these are those that were in use. What the watcher has sent is taken up in that
order, and before any request to read the file again as long as something is there; of those requests that came
before the shutdown none is lost, and after it nothing is taken up. An agent that is to run one cycle takes up
nothing, and it can always come to its end, with that cycle run. -/
theorem cycles_follow_requests {l : Life} {file : Option (List UInt8)} (h₀ : Life.launch w once file = .ok l)
    (h : (launched l).run w once as = some p) :
    p.agent.cycles =
      (if p.activity.isLaunched then [] else p.taken.scanl (accept w.password) l.agent.settings) ∧
    (∀ s ∈ p.agent.cycles, s.problems = []) ∧
    (∀ first r, p.activity = .cycling first r → p.agent.cycles.getLast? = some p.agent.settings ∧
      ∃ bs, ((Race.Call.load w.files p.agent.settings).start p.agent.store).run bs = some r) ∧
    p.taken.filterMap Request.update? ++ p.agent.updates ++ p.inHand = p.watcher.sent ∧
    p.taken.countP Request.isReload + p.agent.router.queued = requests as ∧
    (∀ before after p₁, as = before ++ .poll :: after → (launched l).run w once before = some p₁ →
      p₁.agent.router.triggered = false →
      (∀ s (rest : List Settings), p₁.agent.updates = s :: rest → p₁.taken ++ [Request.update s] <+: p.taken) ∧
      (p₁.agent.updates = [] → 0 < p₁.agent.router.queued →
        p₁.taken ++ [Request.reload p₁.watcher.file] <+: p.taken)) ∧
    (∀ before after p₁, as = before ++ .signal .shutdown :: after → (launched l).run w once before = some p₁ →
      p.taken = p₁.taken) ∧
    (once = true → p.taken = [] ∧ (p.agent.ended = true → p.agent.cycles = [l.agent.settings]) ∧
      ∃ more p', p.run w once more = some p' ∧ p'.agent.ended = true) := by
  have hlaunched := sound_launched h₀
  have hsound : Sound w once l.agent.settings p := run_induction sound_step h hlaunched
  have hvalid : l.agent.settings.problems = [] := by
    obtain ⟨s, hs, rfl⟩ := launch_eq_ok h₀
    exact Settings.problems_of_load hs
  refine ⟨hsound.faithful.cycles, hsound.cycles_valid hvalid, ?_, hsound.faithful.delivered, ?_, ?_, ?_, ?_⟩
  · intro first r hp
    refine ⟨?_, hsound.runs first r hp⟩
    rw [hsound.faithful.cycles, hp, hsound.faithful.settings]
    exact List.getLast?_scanl
  · have hasked := asked_run h hlaunched.whole
    obtain ⟨s, -, rfl⟩ := launch_eq_ok h₀
    exact hasked.trans (Nat.zero_add _)
  · rintro before after p₁ rfl h₁ ht
    obtain ⟨q, hq, hrest⟩ := foldlM_append_eq_some h
    cases hq.symm.trans h₁
    exact next_taken hrest ht
  · rintro before after p₁ rfl h₁
    obtain ⟨q, hq, hrest⟩ := foldlM_append_eq_some h
    cases hq.symm.trans h₁
    have hwhole : Whole p₁.agent.router := (run_induction sound_step h₁ hlaunched).whole
    exact taken_of_shutdown hrest hwhole
  · rintro rfl
    obtain ⟨htaken, hended⟩ := taken_of_fits_once hsound.fits
    refine ⟨htaken, fun he => ?_, exists_end hsound.fits hsound.runs⟩
    rw [hsound.faithful.cycles, hended he, htaken]
    rfl

theorem cycles_follow_spoiled_file :
    ∃ l p, Life.launch alone false (some (userText "a")) = .ok l ∧
      (launched l).run alone false spoiledFile = some p ∧
      p.agent.cycles.map (·.controlPlane.username) = ["a", "b", "b"] ∧ (∀ s ∈ p.agent.cycles, s.problems = []) ∧
      p.taken.countP Request.isReload + p.agent.router.queued = 2 := by
  have hrun : (Life.launch alone false (some (userText "a"))).toOption.bind (fun l =>
      ((launched l).run alone false spoiledFile).map fun p => p.agent.cycles.map (·.controlPlane.username)) =
      some ["a", "b", "b"] := by decide +kernel
  obtain ⟨l, hl, hrun⟩ := Option.bind_eq_some_iff.1 hrun
  obtain ⟨p, hp, hcycles⟩ := Option.map_eq_some_iff.1 hrun
  have h₀ := eq_ok_of_toOption hl
  obtain ⟨-, hvalid, -, -, hasked, -⟩ := cycles_follow_requests h₀ hp
  exact ⟨l, p, h₀, hp, hcycles, hvalid, hasked⟩

end GatewayFeed.Agent.Service
