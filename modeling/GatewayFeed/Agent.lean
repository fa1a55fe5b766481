import GatewayFeed.Admin.Listener
import GatewayFeed.Agent.Event
import GatewayFeed.Settings.Document
import GatewayFeed.Signals

/-!
The agent. After a first load cycle it waits for new settings, for requests to read its settings
again, and for the end, and every settings it takes up and every request gives one more cycle. The
end comes before new settings, and these before requests.
-/

namespace GatewayFeed

/-- What the agent finds around it. -/
structure Surroundings where
  files : FileSystem
  server : Fetch.Server
  /-- A password that replaces the one of the settings file. -/
  password : Option String := none
  /-- Addresses that others listen on. -/
  taken : List SocketAddress := []

/-- `updates` and the requests queued in `router` wait to be taken up; `cycles` holds the settings
of every cycle so far. -/
structure Agent where
  settings : Settings
  store : Store := .empty
  updates : List Settings := []
  router : Router := {}
  ended : Bool := false
  cycles : List Settings := []
  events : List Agent.Event := []

namespace Agent

def log (a : Agent) (es : List Event) : Agent := { a with events := a.events ++ es }

/-- The failure of a listener, and the addresses that are taken after it has started. -/
def listen (taken : List SocketAddress) (address : String) : Bool × List SocketAddress :=
  match SocketAddress.parse? address with
  | none => (false, taken)
  | some a => if taken.any (a.clashes ·) then (true, taken) else (false, a :: taken)

/-- What goes wrong with the listeners. The admin pages are for an agent that stays. -/
def listenerEvents (taken : List SocketAddress) (once : Bool) (s : Settings) : List Event :=
  let (failed, taken) :=
    if s.observability.metricsEnabled then listen taken s.observability.metricsAddress
    else (false, taken)
  let metrics :=
    if failed then [Event.exporterFailed ("failed to create HTTP listener: " ++ Admin.addressInUse)]
    else []
  let pages :=
    if s.admin.enabled && !once && (listen taken s.admin.bindAddress).1 then
      [Event.adminStopped Admin.addressInUse]
    else []
  metrics ++ pages

def launch (w : Surroundings) (once : Bool) (s : Settings) : Agent :=
  { settings := s, events := [.starting, .configured s] ++ listenerEvents w.taken once s }

/-- A load cycle with the settings in use. It may be stopped by a shutdown that comes while it
runs. -/
def runCycle (w : Surroundings) (stop : Cycle.Stop) (a : Agent) : Agent :=
  let stop := if a.router.triggered then .before else stop
  let (e, traffic) := Cycle.load w.files a.settings w.server stop a.store
  let router := if stop.reached traffic then a.router.trigger.settle else a.router
  { a with
    store := e.store
    router
    cycles := a.cycles ++ [a.settings]
    events := a.events ++ Event.ofCycle a.settings e.result }

def finish (a : Agent) : Agent := { a.log [.finished] with ended := true }

/-- Reads the settings again, which stay as they are if the file gives none. -/
def reload (w : Surroundings) (file : Option (List UInt8)) (a : Agent) : Agent :=
  match Settings.load file w.password with
  | .ok s => { a with settings := s }
  | .error _ => a.log [.reloadFailed]

/-- Takes up what is to be done next, with the settings file as it is then. -/
def poll (w : Surroundings) (file : Option (List UInt8)) (stop : Cycle.Stop) (a : Agent) : Agent :=
  if a.ended then a
  else if a.router.triggered then a.finish
  else
    match a.updates with
    | s :: rest => { a with settings := s, updates := rest }.runCycle w stop
    | [] =>
      if 0 < a.router.queued then
        ({ a with router.queued := a.router.queued - 1 }.reload w file).runCycle w stop
      else a

/-- The filter for lines of the log; there are lines only in one of its formats. -/
def lineFilter? (fromEnvironment : Option String) (o : Observability) : Option Log.Filter :=
  if o.logFormat = "json" then some (.choose fromEnvironment o.logLevel) else none

def lines (f : Option Log.Filter) (a : Agent) : List Json :=
  match f with
  | none => []
  | some f => (a.events.filter (·.isShown f)).map Event.line

end Agent

end GatewayFeed
