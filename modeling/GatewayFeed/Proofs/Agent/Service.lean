import GatewayFeed.Agent.Life
import GatewayFeed.Proofs.Cycle.Race
import GatewayFeed.Proofs.Run
import GatewayFeed.Proofs.Watcher.Sending

/-! An agent and all that happens around it. Its load cycles take their time, one step after another. Meanwhile
the settings file changes, the watcher comes to a change, reads the file, and later sends what it has read, and
signals arrive. When no cycle runs, the agent looks what is to be done next. A life of an agent, whose cycles
are over as soon as they begin, is one of the runs here (`Service.exists_run`). -/

namespace GatewayFeed

/-- A shutdown reaches a cycle, unless that is over. -/
def Race.told (triggered : Bool) (r : Race) : Race := if triggered then (r.step .shutdown).getD r else r

namespace Agent

/-- What the agent is doing. -/
inductive Activity where
  | launched
  /-- A load cycle runs, which is the first one or a later one. -/
  | cycling (first : Bool) (r : Race)
  /-- The first cycle is over, and the watcher has not been started. -/
  | loaded
  | waiting

namespace Activity

def told (triggered : Bool) : Activity → Activity
  | cycling first r => cycling first (r.told triggered)
  | a => a

def isLaunched : Activity → Bool
  | launched => true
  | _ => false

@[simp] theorem isLaunched_told (triggered : Bool) (a : Activity) : (a.told triggered).isLaunched = a.isLaunched := by
  cases a <;> rfl

end Activity

/-- What the agent takes up: settings that the watcher has sent, or a request to read the file, with what the
file holds when that is done. -/
inductive Request where
  | update (s : Settings)
  | reload (file : Option (List UInt8))

def Request.update? : Request → Option Settings
  | update s => some s
  | reload _ => none

def Request.isReload : Request → Bool
  | update _ => false
  | reload _ => true

/-- The settings in use after a request was taken up. A file that gives no settings changes nothing. -/
def accept (password : Option String) (s : Settings) : Request → Settings
  | .update new => new
  | .reload file =>
    match Settings.load file password with
    | .ok new => new
    | .error _ => s

/-- `inHand` is what the watcher has read but not sent yet. `taken` is what the agent has taken up so far. -/
structure Service where
  agent : Agent
  watcher : Watcher
  activity : Activity := .launched
  watching : Bool := false
  inHand : List Settings := []
  taken : List Request := []

theorem reload_eq (w : Surroundings) (file : Option (List UInt8)) (a : Agent) :
    ∃ es, a.reload w file =
      { a with settings := accept w.password a.settings (.reload file), events := a.events ++ es } := by
  cases h : Settings.load file w.password with
  | ok s => exact ⟨[], by simp only [Agent.reload, accept, h, List.append_nil]⟩
  | error e => exact ⟨[.reloadFailed], by simp only [Agent.reload, accept, h, log]⟩

theorem Life.afterFirst_eq (once : Bool) (a : Agent) : ∃ es, Life.afterFirst once a =
    { a with ended := a.ended || (once || a.router.triggered), events := a.events ++ es } := by
  cases h : once || a.router.triggered with
  | true => exact ⟨[.finished], by simp [Life.afterFirst, h, finish, log]⟩
  | false => exact ⟨[], by simp [Life.afterFirst, h]⟩

theorem launch_eq_ok {w : Surroundings} {once : Bool} {file : Option (List UInt8)} {l : Life}
    (h : Life.launch w once file = .ok l) :
    ∃ s, Settings.load file w.password = .ok s ∧ l = { agent := .launch w once s, watcher := { file } } := by
  unfold Life.launch at h
  cases hs : Settings.load file w.password with
  | error e => rw [hs] at h; cases h
  | ok s =>
    rw [hs] at h
    cases h
    exact ⟨s, rfl, rfl⟩

namespace Service

inductive Act where
  | change (c : Change)
  | signal (s : Signal)
  /-- The first cycle begins. -/
  | begin
  | cycle (a : Race.Act)
  /-- The cycle that runs has come to its end. -/
  | leave
  /-- The agent begins to wait, with the watcher started if that `works`. -/
  | watch (works : Bool)
  /-- The watcher comes to the next change. -/
  | handle
  /-- The watcher sends what it has read. -/
  | send
  /-- The agent looks what is to be done. -/
  | poll

def launched (l : Life) : Service where
  agent := l.agent
  watcher := l.watcher

/-- Changes that nobody watches only change the file. -/
def change (w : Surroundings) (p : Service) (c : Change) : Service :=
  { p with
    watcher :=
      if p.watching then p.watcher.step w.password (.change c)
      else { p.watcher with file := Watcher.content p.watcher.file c } }

def signal (p : Service) (s : Signal) : Service :=
  let router := (p.agent.router.step (.signal s)).settle
  { p with agent.router := router, activity := p.activity.told router.triggered }

/-- A cycle with the settings in use. It is cancelled from the start if the shutdown came before. -/
def begin (w : Surroundings) (p : Service) (first : Bool) : Service :=
  let r := (Race.Call.load w.files p.agent.settings).start p.agent.store
  { p with
    agent.cycles := p.agent.cycles ++ [p.agent.settings]
    activity := (Activity.cycling first r).told p.agent.router.triggered }

def leave (once : Bool) (p : Service) (first : Bool) (r : Race) (e : Cycle.Ending) : Service :=
  let a : Agent := { p.agent with
    store := r.store, events := p.agent.events ++ Event.ofCycle p.agent.settings e.result }
  { p with
    agent := if first then Life.afterFirst once a else a
    activity := if first then .loaded else .waiting }

def handle (w : Surroundings) (p : Service) : Service :=
  let watcher := p.watcher.step w.password .handle
  { p with watcher, inHand := watcher.sent.drop p.watcher.sent.length }

def update (w : Surroundings) (p : Service) (s : Settings) (rest : List Settings) : Service :=
  begin w { p with
    agent.settings := s, agent.updates := rest, taken := p.taken ++ [.update s] } false

def reload (w : Surroundings) (p : Service) : Service :=
  begin w { p with
    agent := { p.agent with router.queued := p.agent.router.queued - 1 }.reload w p.watcher.file
    taken := p.taken ++ [.reload p.watcher.file] } false

/-- The end comes before new settings, and these before requests. -/
def poll (w : Surroundings) (p : Service) : Service :=
  if p.agent.router.triggered then { p with agent := p.agent.finish }
  else
    match p.agent.updates with
    | s :: rest => p.update w s rest
    | [] => if 0 < p.agent.router.queued then p.reload w else p

def step (w : Surroundings) (once : Bool) (p : Service) : Act → Option Service
  | .change c => some (p.change w c)
  | .signal s => some (p.signal s)
  | .begin =>
    match p.activity with
    | .launched => some (p.begin w true)
    | _ => none
  -- a shutdown comes from outside the cycle
  | .cycle .shutdown => none
  | .cycle a =>
    match p.activity with
    | .cycling first r => (r.step a).map fun r => { p with activity := .cycling first r }
    | _ => none
  | .leave =>
    match p.activity with
    | .cycling first r => r.ending.map fun e => p.leave once first r e
    | _ => none
  | .watch works =>
    match p.activity with
    | .loaded => if p.agent.ended then none else some { p with watching := works, activity := .waiting }
    | _ => none
  | .handle => if p.watching && p.inHand.isEmpty then some (p.handle w) else none
  | .send =>
    match p.inHand with
    | s :: rest => some { p with agent.updates := p.agent.updates ++ [s], inHand := rest }
    | [] => none
  | .poll =>
    match p.activity with
    | .waiting => if p.agent.ended then none else some (p.poll w)
    | _ => none

def run (w : Surroundings) (once : Bool) (p : Service) (as : List Act) : Option Service := as.foldlM (step w once) p

/-- What a single step can do. -/
inductive Step (w : Surroundings) (once : Bool) (p : Service) : Act → Service → Prop
  | change (c : Change) : Step w once p (.change c) (p.change w c)
  | signal (s : Signal) : Step w once p (.signal s) (p.signal s)
  | begin (hp : p.activity = .launched) : Step w once p .begin (p.begin w true)
  | cycle {first : Bool} {r r' : Race} {a : Race.Act} (hp : p.activity = .cycling first r)
      (hr : r.step a = some r') : Step w once p (.cycle a) { p with activity := .cycling first r' }
  | leave {first : Bool} {r : Race} {e : Cycle.Ending} (hp : p.activity = .cycling first r)
      (he : r.ending = some e) : Step w once p .leave (p.leave once first r e)
  | watch (works : Bool) (hp : p.activity = .loaded) (he : p.agent.ended = false) :
      Step w once p (.watch works) { p with watching := works, activity := .waiting }
  | handle (hw : p.watching = true) (hh : p.inHand = []) : Step w once p .handle (p.handle w)
  | send {s : Settings} {rest : List Settings} (hh : p.inHand = s :: rest) :
      Step w once p .send { p with agent.updates := p.agent.updates ++ [s], inHand := rest }
  | finish (hp : p.activity = .waiting) (he : p.agent.ended = false) (ht : p.agent.router.triggered = true) :
      Step w once p .poll { p with agent := p.agent.finish }
  | update {s : Settings} {rest : List Settings} (hp : p.activity = .waiting) (he : p.agent.ended = false)
      (ht : p.agent.router.triggered = false) (hu : p.agent.updates = s :: rest) :
      Step w once p .poll (p.update w s rest)
  | reload (hp : p.activity = .waiting) (he : p.agent.ended = false) (ht : p.agent.router.triggered = false)
      (hu : p.agent.updates = []) (hq : 0 < p.agent.router.queued) : Step w once p .poll (p.reload w)
  | idle (hp : p.activity = .waiting) (he : p.agent.ended = false) (ht : p.agent.router.triggered = false)
      (hu : p.agent.updates = []) (hq : p.agent.router.queued = 0) : Step w once p .poll p

variable {w : Surroundings} {once : Bool} {p p' : Service} {a : Act} {as : List Act}

theorem step_poll (hp : p.activity = .waiting) (he : p.agent.ended = false) : Step w once p .poll (p.poll w) := by
  unfold poll
  split
  · rename_i ht
    exact .finish hp he ht
  · rename_i ht
    rw [Bool.not_eq_true] at ht
    split
    · rename_i s rest hu
      exact .update hp he ht hu
    · rename_i hu
      split
      · rename_i hq
        exact .reload hp he ht hu hq
      · rename_i hq
        exact .idle hp he ht hu (Nat.eq_zero_of_not_pos hq)

theorem step_of_eq_some (h : p.step w once a = some p') : Step w once p a p' := by
  cases a with
  | change c => cases h; exact .change c
  | signal s => cases h; exact .signal s
  | begin =>
    simp only [step] at h
    split at h
    · rename_i hp
      cases h
      exact .begin hp
    · cases h
  | cycle b =>
    cases hp : p.activity with
    | cycling first r =>
      cases b with
      | shutdown => cases h
      | _ =>
        simp only [step, hp] at h
        obtain ⟨r', hr, rfl⟩ := Option.map_eq_some_iff.1 h
        exact .cycle hp hr
    | _ => cases b <;> simp only [step, hp] at h <;> cases h
  | leave =>
    simp only [step] at h
    split at h
    · rename_i first r hp
      obtain ⟨e, he, rfl⟩ := Option.map_eq_some_iff.1 h
      exact .leave hp he
    · cases h
  | watch works =>
    simp only [step] at h
    split at h
    · rename_i hp
      split at h
      · cases h
      · rename_i he
        cases h
        exact .watch works hp (by simpa using he)
    · cases h
  | handle =>
    simp only [step] at h
    split at h
    · rename_i hw
      rw [Bool.and_eq_true, List.isEmpty_iff] at hw
      cases h
      exact .handle hw.1 hw.2
    · cases h
  | send =>
    simp only [step] at h
    split at h
    · rename_i s rest hh
      cases h
      exact .send hh
    · cases h
  | poll =>
    simp only [step] at h
    split at h
    · rename_i hp
      split at h
      · cases h
      · rename_i he
        cases h
        exact step_poll hp (by simpa using he)
    · cases h

@[simp] theorem sent_change (w : Surroundings) (p : Service) (c : Change) :
    (p.change w c).watcher.sent = p.watcher.sent := by
  unfold change
  split
  · rfl
  · rfl

theorem leave_eq (once : Bool) (p : Service) (first : Bool) (r : Race) (e : Cycle.Ending) :
    ∃ es, p.leave once first r e = { p with
      agent := { p.agent with
        store := r.store, events := es, ended := p.agent.ended || (first && (once || p.agent.router.triggered)) }
      activity := if first then .loaded else .waiting } := by
  cases first with
  | true =>
    obtain ⟨es, h⟩ := Life.afterFirst_eq once { p.agent with
      store := r.store, events := p.agent.events ++ Event.ofCycle p.agent.settings e.result }
    exact ⟨_, by rw [leave, if_pos rfl, h]; rfl⟩
  | false => exact ⟨p.agent.events ++ Event.ofCycle p.agent.settings e.result, by simp [leave]⟩

theorem handle_eq (w : Surroundings) (p : Service) : p.handle w =
    let new := if p.watcher.pending.head? = some true then Watcher.reading w.password p.watcher.file else []
    { p with
      watcher := { p.watcher with pending := p.watcher.pending.tail, sent := p.watcher.sent ++ new }
      inHand := new } := by
  rcases Watcher.handle_cases w.password p.watcher with ⟨hp, hs⟩ | ⟨rest, hp, hs⟩ | ⟨rest, hp, hs⟩
  · have hsame : { p.watcher with pending := [] } = p.watcher := by rw [← hp]
    simp [handle, hs, hp, hsame]
  · simp [handle, hs, hp]
  · simp [handle, hs, hp]

theorem reload_eq (w : Surroundings) (p : Service) : ∃ es, p.reload w = begin w { p with
    agent := { p.agent with
      settings := accept w.password p.agent.settings (.reload p.watcher.file)
      router.queued := p.agent.router.queued - 1
      events := es }
    taken := p.taken ++ [.reload p.watcher.file] } false := by
  obtain ⟨es, h⟩ := Agent.reload_eq w p.watcher.file { p.agent with router.queued := p.agent.router.queued - 1 }
  exact ⟨p.agent.events ++ es, by rw [reload, h]⟩

/-- What every step keeps holds after every run. -/
theorem run_induction {P : Service → Prop} (hstep : ∀ {p p' a}, Step w once p a p' → P p → P p')
    (h : p.run w once as = some p') (h0 : P p) : P p' :=
  foldlM_induction (fun h => hstep (step_of_eq_some h)) h h0

end Service

end Agent

end GatewayFeed
