import GatewayFeed.Collection
import GatewayFeed.Fetch.Error
import GatewayFeed.Metrics

/-!
The barrier waits until every endpoint has reported and decodes what arrives by the kind of its
endpoint. When the deadline passes, or the control plane rejects the credentials, it cancels the
cycle and goes on collecting what the fetches still report.
-/

namespace GatewayFeed

inductive FailureCause where
  | fetch (e : FetchError)
  | decode (f : Json.Fault)
  deriving DecidableEq, Repr

namespace FailureCause

def stage : FailureCause → String
  | fetch _ => "fetch"
  | decode _ => "decode"

def message : FailureCause → String
  | fetch e => e.message
  | decode f => f.message

end FailureCause

/-- An endpoint that gave no collection. -/
structure Failure where
  endpoint : Endpoint
  cause : FailureCause
  deriving DecidableEq, Repr

/-- An endpoint that did not accept the credentials, and its status. -/
structure Rejection where
  endpoint : Endpoint
  status : Nat
  deriving DecidableEq, Repr

structure Collected where
  decoded : List Collection := []
  failures : List Failure := []
  rejection : Option Rejection := none
  received : Nat := 0
  deadlineExceeded : Bool := false
  cancelled : Bool := false
  recorded : List Recording := []

namespace Barrier

/-- What happens to a waiting barrier. -/
inductive Event where
  | result (r : FetchResult)
  | deadline
  | closed

def reject (c : Collected) (e : Endpoint) (status : Nat) : Collected :=
  if c.rejection.isSome then c
  else { c with rejection := some ⟨e, status⟩, cancelled := true }

def fail (c : Collected) (e : Endpoint) (cause : FailureCause) : Collected :=
  { c with failures := c.failures ++ [⟨e, cause⟩] }

def receive (c : Collected) (r : FetchResult) : Collected :=
  let c := { c with received := c.received + 1 }
  match r.outcome with
  | .error (.unauthorized s) => fail (reject c r.endpoint s) r.endpoint (.fetch (.unauthorized s))
  | .error e => fail c r.endpoint (.fetch e)
  | .ok payload =>
    match Collection.decode r.endpoint.kind payload with
    | .ok x => { c with decoded := c.decoded ++ [x] }
    | .error f =>
      let c := { c with recorded := c.recorded ++ [.decodeError r.endpoint.name] }
      fail c r.endpoint (.decode f)

/-- The deadline counts once. -/
def expire (c : Collected) : Collected := { c with deadlineExceeded := true, cancelled := true }

/-- Handles events until `expected` results have come or there will be no more. -/
def collect (expected : Nat) : Collected → List Event → Collected
  | c, [] => c
  | c, e :: events =>
    if c.received < expected then
      match e with
      | .result r => collect expected (receive c r) events
      | .deadline => collect expected (if c.deadlineExceeded then c else expire c) events
      | .closed => c
    else c

/-- A result that a sender delivers at `at` or later, and after the cycle was cancelled if
`afterCancel` is set. Times are in milliseconds. -/
structure Delivery where
  result : FetchResult
  notBefore : Nat
  afterCancel : Bool

/-- Whether a result makes the barrier cancel the cycle. -/
def rejects (r : FetchResult) : Bool :=
  match r.outcome with
  | .error (.unauthorized _) => true
  | _ => false

/-- What the barrier sees of deliveries made one after another, then of the closing of the
channel: `now` is the time of the last one, `deadline` is the time of the deadline as long as it
has not passed, `cancelled` tells whether the cycle was cancelled. A delivery that waits for the
cancellation waits for the deadline, since nothing else happens before it. -/
def timeline : Nat → Option Nat → Bool → List Delivery → List Event
  | _, _, _, [] => [.closed]
  | now, none, _, d :: rest => .result d.result :: timeline (max now d.notBefore) none true rest
  | now, some limit, cancelled, d :: rest =>
    let time := max now d.notBefore
    if limit < time || (d.afterCancel && !cancelled) then
      .deadline :: .result d.result :: timeline (max time limit) none true rest
    else .result d.result :: timeline time (some limit) (cancelled || rejects d.result) rest

/-- Collects deliveries against a deadline in milliseconds. -/
def collectTimed (expected deadline : Nat) (ds : List Delivery) : Collected :=
  collect expected {} (timeline 0 (some deadline) false ds)

end Barrier

end GatewayFeed
