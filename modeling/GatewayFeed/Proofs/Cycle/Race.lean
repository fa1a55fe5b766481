import GatewayFeed.Cycle
import GatewayFeed.Proofs.Barrier.Accounting

/-! A load cycle as it runs: one worker for each dataset, a channel for their results, the barrier
at its other end, and the decision after the barrier. Any of these may take the next step, the
deadline may pass and the shutdown may be triggered at any time, and an attempt may end with
whatever the control plane makes of it. A cycle that is computed ends as one of these runs does
(`Cycle.exists_run`). -/

namespace GatewayFeed

/-- Where the fetch of a dataset stands. -/
inductive Worker where
  /-- In the delay after attempt number `attempt`; before the first attempt this is zero. -/
  | waiting (attempt : Nat)
  | trying (attempt : Nat)
  /-- The result is known but not yet in the channel. -/
  | ended (x : Fetcher.Fetched)
  | reported (x : Fetcher.Fetched)

namespace Worker

/-- What a worker that has sent its result has sent. -/
def report? (e : Endpoint) : Worker → Option FetchResult
  | reported x => some (x.result e)
  | _ => none

/-- How a fetch ended, if it has. -/
def fetched? : Worker → Option Fetcher.Fetched
  | ended x => some x
  | reported x => some x
  | _ => none

/-- Where a worker goes when attempt number `n` ends. -/
def afterAttempt (p : RetryPolicy) (n : Nat) (o : Outcome) : Worker :=
  if Fetcher.isRetryable o && p.allowsRetry n then waiting n else ended ⟨n, some o⟩

def recorded (e : Endpoint) : Worker → List Recording
  | waiting n => List.replicate n (.fetchDuration e.name)
  | trying n => List.replicate (n - 1) (.fetchDuration e.name)
  | ended x => x.recorded e
  | reported x => x.recorded e

end Worker

structure Race where
  policy : RetryPolicy
  store : Store
  workers : List (Endpoint × Worker)
  queue : List FetchResult := []
  /-- What the barrier has handled, in this order. -/
  seen : List Barrier.Event := []
  shutdown : Bool := false
  ending : Option Cycle.Ending := none

namespace Race

/-- Workers go by their position in the list. -/
inductive Act where
  | start (i : Nat)
  | answer (i : Nat) (o : Outcome)
  | stop (i : Nat)
  | report (i : Nat)
  | receive
  | deadline
  | hangUp
  | shutdown
  | conclude

def collected (r : Race) : Collected := Barrier.collect r.workers.length {} r.seen

/-- The cycle's token is cancelled with the shutdown's. -/
def cancelled (r : Race) : Bool := r.collected.cancelled || r.shutdown

def isClosed : Barrier.Event → Bool
  | .closed => true
  | _ => false

/-- Whether the barrier goes on. -/
def waiting (r : Race) : Bool :=
  r.collected.received < r.workers.length && !r.seen.any isClosed

/-- What the workers have sent so far. -/
def reports (r : Race) : List FetchResult := r.workers.filterMap fun w => w.2.report? w.1

def allReported (r : Race) : Bool := r.workers.all fun w => (w.2.report? w.1).isSome

/-- What was collected, with everything recorded on the way. -/
def gathered (r : Race) : Collected :=
  { r.collected with
    recorded := (r.workers.flatMap fun w => w.2.recorded w.1) ++ r.collected.recorded }

def setWorker (r : Race) (i : Nat) (e : Endpoint) (w : Worker) : Race :=
  { r with workers := r.workers.set i (e, w) }

def see (r : Race) (e : Barrier.Event) : Race := { r with seen := r.seen ++ [e] }

def conclude (r : Race) : Race :=
  let e := Cycle.conclude r.store r.gathered r.shutdown
  { r with ending := some e, store := e.store }

/-- A cycle that has ended takes no more steps. Cancellation stops a worker that has not ended
before anything else it could do. -/
def step (r : Race) (a : Act) : Option Race :=
  if r.ending.isSome then none
  else
    match a with
    | .start i =>
      match r.workers[i]? with
      | some (e, .waiting n) =>
        if r.cancelled then none else some (r.setWorker i e (.trying (n + 1)))
      | _ => none
    | .answer i o =>
      match r.workers[i]?, o with
      -- an attempt that is cancelled has no outcome of its own
      | _, .error .cancelled => none
      | some (e, .trying n), o =>
        if r.cancelled then none else some (r.setWorker i e (Worker.afterAttempt r.policy n o))
      | _, _ => none
    | .stop i =>
      match r.workers[i]? with
      | some (e, .waiting n) =>
        if r.cancelled then some (r.setWorker i e (.ended ⟨n + 1, none⟩)) else none
      | some (e, .trying n) =>
        if r.cancelled then some (r.setWorker i e (.ended ⟨n, none⟩)) else none
      | _ => none
    | .report i =>
      match r.workers[i]? with
      | some (e, .ended x) =>
        some { r.setWorker i e (.reported x) with queue := r.queue ++ [x.result e] }
      | _ => none
    | .receive =>
      match r.queue with
      | x :: rest => if r.waiting then some { r.see (.result x) with queue := rest } else none
      | [] => none
    | .deadline =>
      if r.waiting && !r.collected.deadlineExceeded then some (r.see .deadline) else none
    | .hangUp =>
      if r.waiting && r.allReported && r.queue.isEmpty then some (r.see .closed) else none
    | .shutdown => some { r with shutdown := true }
    | .conclude => if r.waiting then none else some r.conclude

def run (r : Race) (as : List Act) : Option Race := as.foldlM step r

/-- The two ways to ask for a cycle: with a client that is there, or with settings that say how to
set one up. -/
inductive Call where
  | loadWith (policy : RetryPolicy)
  | load (files : FileSystem) (s : Settings)

def begin (policy : RetryPolicy) (store : Store) (es : List Endpoint) : Race where
  policy
  store
  workers := es.map fun e => (e, .waiting 0)

/-- Without a client there is no cycle. -/
def Call.start (store : Store) : Call → Race
  | .loadWith p => begin p store Endpoint.all
  | .load files s =>
    let r := begin (.ofSettings s.retries) store Endpoint.all
    match Trust.check files s.controlPlane with
    | some e => { r with ending := some { result := .error (.trust e), store, recorded := [] } }
    | none => r

/-- How the fetch of an endpoint ended; `none` as long as it has not. -/
def outcome? (r : Race) (e : Endpoint) : Option Outcome :=
  ((r.workers.lookup e).bind Worker.fetched?).map fun x => (x.result e).outcome

end Race

end GatewayFeed
