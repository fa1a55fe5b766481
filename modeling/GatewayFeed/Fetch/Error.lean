import GatewayFeed.Kind
import GatewayFeed.Retry

/-!
Why an endpoint gave no data, and the result of a fetch.
-/

namespace GatewayFeed

inductive FetchError where
  | requestBuild (reason : String)
  | transport (reason : String)
  | timeout (after : Duration)
  | httpStatus (status : Nat)
  | unauthorized (status : Nat)
  | bodyRead (reason : String)
  | cancelled
  deriving DecidableEq, Repr

namespace FetchError

/-- Only what the control plane or the way to it caused may be tried again. -/
def isRetryable : FetchError → Bool
  | transport _ => true
  | timeout _ => true
  | httpStatus s => isRetryableStatus s
  | _ => false

def label : FetchError → String
  | requestBuild _ => "request_build"
  | transport _ => "transport"
  | timeout _ => "timeout"
  | httpStatus _ => "http_status"
  | unauthorized _ => "unauthorized"
  | bodyRead _ => "body_read"
  | cancelled => "cancelled"

def message : FetchError → String
  | requestBuild r => "failed to build request: " ++ r
  | transport r => "transport error: " ++ r
  | timeout d => "request timed out after " ++ d.text
  | httpStatus s => "control plane responded with status " ++ toString s
  | unauthorized s => "control plane rejected the credentials with status " ++ toString s
  | bodyRead r => "failed to read response body: " ++ r
  | cancelled => "fetch cancelled"

end FetchError

/-- The bytes of a payload, or why there are none. -/
abbrev Outcome := Except FetchError (List UInt8)

structure FetchResult where
  endpoint : Endpoint
  outcome : Outcome

namespace FetchResult

def failed (r : FetchResult) : Bool :=
  match r.outcome with
  | .ok _ => false
  | .error _ => true

def payload? (r : FetchResult) : Option (List UInt8) := r.outcome.toOption

def error? (r : FetchResult) : Option FetchError :=
  match r.outcome with
  | .ok _ => none
  | .error e => some e

end FetchResult

end GatewayFeed
