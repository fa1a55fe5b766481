/-!
Signals to the agent. A router takes them one at a time: a reload request is passed on, a request
to shut down cancels everything that runs and ends the router.
-/

namespace GatewayFeed

inductive Signal where
  | reload
  | shutdown
  deriving DecidableEq, Repr

/-- `queued` counts the reload requests that nobody has taken yet. -/
structure Router where
  triggered : Bool := false
  cycleCancelled : Bool := false
  finished : Bool := false
  receiverDropped : Bool := false
  queued : Nat := 0
  deriving DecidableEq, Repr

namespace Router

/-- What can happen around a router: a signal comes, shutdown is triggered elsewhere, the running
cycle is cancelled, or nobody wants reload requests any more. -/
inductive Event where
  | signal (s : Signal)
  | trigger
  | cancelCycle
  | dropReloads
  | nothing
  deriving DecidableEq, Repr

/-- Shutdown cancels every token below it. -/
def trigger (r : Router) : Router := { r with triggered := true, cycleCancelled := true }

/-- Takes one signal. -/
def take (r : Router) : Signal → Router
  | .reload => if r.receiverDropped then r else { r with queued := r.queued + 1 }
  | .shutdown => { r.trigger with finished := true }

/-- The router ends when it sees that shutdown was triggered. -/
def settle (r : Router) : Router := if r.triggered then { r with finished := true } else r

def step (r : Router) : Event → Router
  | .signal s => if r.finished then r else r.take s
  | .trigger => r.trigger
  | .cancelCycle => { r with cycleCancelled := true }
  | .dropReloads => { r with receiverDropped := true, queued := 0 }
  | .nothing => r

/-- A router that has ended has closed its channel, unless the other end is gone. -/
def reloadsClosed (r : Router) : Bool := r.finished && !r.receiverDropped

/-- Takes the queued reload requests. -/
def drain (r : Router) : Nat × Router := (r.queued, { r with queued := 0 })

end Router

end GatewayFeed
