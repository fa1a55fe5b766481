import GatewayFeed.Agent
import GatewayFeed.Watcher

/-!
An agent from its start, together with its settings file. The settings are read first, then the
first cycle runs, and only then the file is watched and the agent begins to wait.
-/

namespace GatewayFeed.Agent

inductive Stage where
  | launched
  | loaded
  | watching
  deriving DecidableEq, Repr

structure Life where
  agent : Agent
  watcher : Watcher
  stage : Stage := .launched

namespace Life

inductive Step where
  /-- Something in the directory of the settings file changes. -/
  | change (c : Change)
  | signal (s : Signal)
  /-- The first cycle runs. -/
  | first (stop : Cycle.Stop)
  /-- The watcher starts. -/
  | watch
  /-- The watcher comes to the next change. -/
  | handle
  /-- The agent looks what is to be done. -/
  | poll (stop : Cycle.Stop)
  deriving DecidableEq, Repr

/-- An agent that was started with the settings file `file`. -/
def launch (w : Surroundings) (once : Bool) (file : Option (List UInt8)) :
    Except Settings.Refusal Life := do
  return { agent := .launch w once (← Settings.load file w.password), watcher := { file } }

/-- Ends the agent if it is to stop after its first cycle, or was told to stop while it ran. -/
def afterFirst (once : Bool) (a : Agent) : Agent :=
  if once || a.router.triggered then a.finish else a

/-- A change that nobody watches only changes the file. -/
def change (p : Life) (password : Option String) (c : Change) : Life :=
  if p.stage = .watching then { p with watcher := p.watcher.step password (.change c) }
  else { p with watcher.file := Watcher.content p.watcher.file c }

/-- Settings that the watcher sends wait to be taken up. -/
def handle (p : Life) (password : Option String) : Life :=
  let watcher := p.watcher.step password .handle
  let new := watcher.sent.drop p.watcher.sent.length
  { p with watcher, agent.updates := p.agent.updates ++ new }

/-- A step that does not fit the stage changes nothing. -/
def step (w : Surroundings) (once : Bool) (p : Life) : Step → Life
  | .change c => p.change w.password c
  | .signal s => { p with agent.router := (p.agent.router.step (.signal s)).settle }
  | .first stop =>
    if p.stage = .launched then
      { p with agent := afterFirst once (p.agent.runCycle w stop), stage := .loaded }
    else p
  | .watch => if p.stage = .loaded && !p.agent.ended then { p with stage := .watching } else p
  | .handle => if p.stage = .watching then p.handle w.password else p
  | .poll stop =>
    if p.stage = .watching then { p with agent := p.agent.poll w p.watcher.file stop } else p

def run (w : Surroundings) (once : Bool) (p : Life) (steps : List Step) : Life :=
  steps.foldl (step w once) p

end Life

end GatewayFeed.Agent
