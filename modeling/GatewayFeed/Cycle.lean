import GatewayFeed.Barrier
import GatewayFeed.Fetch.Fetcher
import GatewayFeed.Fetch.Script
import GatewayFeed.Store
import GatewayFeed.Trust

/-!
A load cycle: all datasets are fetched at once, the barrier collects them, and what was decoded is
published together. A cycle that was rejected or stopped publishes nothing.
-/

namespace GatewayFeed

/-- Why a cycle as a whole failed. -/
inductive LoadError where
  | unauthorized (r : Rejection)
  | cancelled
  | trust (e : TrustError)
  deriving DecidableEq, Repr

def LoadError.message : LoadError → String
  | .unauthorized r =>
    "control plane rejected the credentials (status " ++ toString r.status ++ " on /"
      ++ r.endpoint.name ++ ")"
  | .cancelled => "load cycle cancelled"
  | .trust e => e.message

/-- What a cycle that published has done. -/
structure Report where
  published : List Kind
  failures : List Failure
  deadlineExceeded : Bool
  populated : Nat
  deriving DecidableEq, Repr

/-- Whether every dataset was fetched and decoded. -/
def Report.isComplete (r : Report) : Bool := r.failures.isEmpty && !r.deadlineExceeded

namespace Cycle

structure Ending where
  result : Except LoadError Report
  store : Store
  recorded : List Recording

def failed (store : Store) (c : Collected) (outcome : CycleOutcome) (e : LoadError) : Ending where
  result := .error e
  store
  recorded := c.recorded ++ [.cycle outcome]

def reportOf (store : Store) (c : Collected) : Report where
  published := c.decoded.map (·.kind)
  failures := c.failures
  deadlineExceeded := c.deadlineExceeded
  populated := store.snapshot.populated

def published (store : Store) (c : Collected) : Ending :=
  let store := store.publish c.decoded
  let report := reportOf store c
  { result := .ok report
    store
    recorded := c.recorded ++ c.decoded.map (fun x => .collectionItems x.kind x.size)
      ++ [.populatedSlots report.populated,
        .cycle (if report.isComplete then .complete else .incomplete)] }

/-- The end of a cycle after its barrier. A rejection counts before a shutdown. -/
def conclude (store : Store) (c : Collected) (shutdown : Bool) : Ending :=
  match c.rejection with
  | some r => failed store c .unauthorized (.unauthorized r)
  | none => if shutdown then failed store c .cancelled .cancelled else published store c

/-- When the agent is told to stop. -/
inductive Stop where
  | never
  | before
  /-- When a request for a dataset arrives. -/
  | onRequest (dataset : String)
  deriving DecidableEq, Repr

def Stop.reached (stop : Stop) (t : Fetch.Traffic) : Bool :=
  match stop with
  | .never => false
  | .before => true
  | .onRequest name => 0 < Fetch.Traffic.count t (some name)

/-- Whether a fetch has come to an end by itself. -/
def hasEnded (x : Endpoint × Fetcher.Fetched) : Bool := x.2.outcome.isSome

/-- Fetches that end come first, those with fewer attempts before those with more. If others are
left and nothing has cancelled them, the deadline does. -/
def arrivals (xs : List (Endpoint × Fetcher.Fetched)) : List Barrier.Event :=
  let results := (((xs.filter hasEnded).mergeSort fun a b => a.2.attempts ≤ b.2.attempts)).map
    fun x => x.2.result x.1
  let late := (xs.filter (!hasEnded ·)).map fun x => x.2.result x.1
  results.map .result
    ++ (if late.isEmpty || results.any Barrier.rejects then [] else [.deadline])
    ++ late.map .result

/-- A fetch that was told to stop before it ended. -/
def stoppedResult (e : Endpoint) : FetchResult := ⟨e, .error .cancelled⟩

/-- The fetches of a cycle: what reaches the barrier, what was recorded, and the traffic. Stopping
cancels all fetches. -/
def fetches (f : Fetcher) (server : Fetch.Server) (stop : Stop) (es : List Endpoint) :
    List Barrier.Event × List Recording × Fetch.Traffic :=
  let cancelled := es.map fun e => Recording.fetchOutcome e.name FetchError.cancelled.label
  let stopped := es.map fun e => Barrier.Event.result (stoppedResult e)
  if stop = .before then (stopped, cancelled, [])
  else
    let (xs, traffic) := f.fetchAll server es []
    if stop.reached traffic then (stopped, cancelled, traffic)
    else (arrivals xs, xs.flatMap fun x => x.2.recorded x.1, traffic)

/-- A whole cycle, and the requests that reached the server. -/
def run (f : Fetcher) (server : Fetch.Server) (stop : Stop) (store : Store) :
    Ending × Fetch.Traffic :=
  let (events, recorded, traffic) := fetches f server stop Endpoint.all
  let c := Barrier.collect Endpoint.all.length {} events
  let ending := conclude store { c with recorded := recorded ++ c.recorded } (stop.reached traffic)
  (ending, traffic)

/-- A cycle that sets up its client first. -/
def load (files : FileSystem) (s : Settings) (server : Fetch.Server) (stop : Stop) (store : Store) :
    Ending × Fetch.Traffic :=
  match Trust.check files s.controlPlane with
  | some e => ({ result := .error (.trust e), store, recorded := [] }, [])
  | none => run (.ofSettings s true) server stop store

end Cycle

end GatewayFeed
