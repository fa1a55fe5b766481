import GatewayFeed.Credential
import GatewayFeed.Fetch.Client
import GatewayFeed.Fetch.Error
import GatewayFeed.Metrics

/-!
Fetching a dataset: one request with the gateway's label and type in its query, tried again as long
as the failure may go away and the policy allows it.
-/

namespace GatewayFeed

/-- What all requests to one control plane have in common. -/
structure Fetcher where
  baseUrl : String
  query : List (String × String)
  credential : Credential
  policy : RetryPolicy
  /-- How long a request may take, as reports tell it. -/
  requestTimeout : Duration
  /-- Whether requests are given up at all. -/
  givesUp : Bool

namespace Fetcher

def queryOf (label connectorType : String) : List (String × String) :=
  [("gatewayLabel", label), ("type", connectorType)]

def ofSettings (s : Settings) (givesUp : Bool) : Fetcher where
  baseUrl := s.controlPlane.serviceUrl
  query := queryOf s.controlPlane.gatewayLabel s.controlPlane.connectorType
  credential := ⟨s.controlPlane.username, s.controlPlane.password⟩
  policy := .ofSettings s.retries
  requestTimeout := .ofSecs s.timeouts.requestSecs.toNat
  givesUp

/-- A user in the address is no part of the request's URL. -/
def withoutUser (u : Url) : Url := { u with username := [], password := [] }

/-- The request for a dataset. A URL without a host cannot have one. -/
def request (f : Fetcher) (e : Endpoint) : Except FetchError Fetch.Request :=
  match Url.parse (e.url f.baseUrl) with
  | .error _ => .error (.requestBuild "builder error")
  | .ok u =>
    if u.host.isNone then .error (.requestBuild (Fetch.forUrl "builder error" u))
    else .ok ⟨(withoutUser u).appendQuery f.query, some f.credential.header⟩

/-- The outcome of a response that has come; `none` if its body never does. -/
def outcome (f : Fetcher) (r : Fetch.Response) : Option Outcome :=
  if r.status = 200 then
    match r.body with
    | .whole bytes => some (.ok bytes)
    | .cut => some (.error (.bodyRead "error decoding response body"))
    | .stalled => if f.givesUp then some (.error (.timeout f.requestTimeout)) else none
  else if r.status = 401 || r.status = 403 then some (.error (.unauthorized r.status))
  else some (.error (.httpStatus r.status))

/-- One attempt; without an outcome it lasts until it is cancelled. -/
def attempt (f : Fetcher) (server : Fetch.Server) (e : Endpoint) (t : Fetch.Traffic) :
    Option Outcome × Fetch.Traffic :=
  match f.request e with
  | .error e => (some (.error e), t)
  | .ok r =>
    if Fetch.isWebScheme r.url && Fetch.isTarget r.url then
      match Fetch.send server r Fetch.maxRedirects r t with
      | (.answered x, t) => (f.outcome x, t)
      | (.failed reason, t) => (some (.error (.transport reason)), t)
      | (.silent, t) => (if f.givesUp then some (.error (.timeout f.requestTimeout)) else none, t)
    else (some (.error (.transport (Fetch.forUrl "builder error" r.url))), t)

/-- What a fetch came to. -/
structure Fetched where
  /-- Number of the last attempt. -/
  attempts : Nat
  /-- `none` if the last attempt lasts until it is cancelled. -/
  outcome : Option Outcome

def isRetryable : Outcome → Bool
  | .ok _ => false
  | .error e => e.isRetryable

/-- Attempts from number `n` on, with `left` more after it. -/
def attemptsFrom {σ : Type} (tryOnce : σ → Option Outcome × σ) : Nat → Nat → σ → Fetched × σ
  | left, n, s =>
    match tryOnce s, left with
    | (some o, s), left + 1 =>
      if isRetryable o then attemptsFrom tryOnce left (n + 1) s else (⟨n, some o⟩, s)
    | (o, s), _ => (⟨n, o⟩, s)

def fetch (f : Fetcher) (server : Fetch.Server) (e : Endpoint) (t : Fetch.Traffic) :
    Fetched × Fetch.Traffic :=
  attemptsFrom (f.attempt server e) (f.policy.maxAttempts - 1) 1 t

/-- Fetches of several datasets, whose requests arrive one dataset after another. -/
def fetchAll (f : Fetcher) (server : Fetch.Server) :
    List Endpoint → Fetch.Traffic → List (Endpoint × Fetched) × Fetch.Traffic
  | [], t => ([], t)
  | e :: es, t =>
    let (x, t) := f.fetch server e t
    let (xs, t) := fetchAll f server es t
    ((e, x) :: xs, t)

end Fetcher

namespace Fetcher.Fetched

def outcomeLabel : Outcome → String
  | .ok _ => "success"
  | .error e => e.label

/-- A fetch that was cancelled before it ended has timed only its finished attempts. -/
def recorded (e : Endpoint) (x : Fetched) : List Recording :=
  match x.outcome with
  | some o =>
    List.replicate x.attempts (.fetchDuration e.name) ++ [.fetchOutcome e.name (outcomeLabel o)]
  | none =>
    List.replicate (x.attempts - 1) (.fetchDuration e.name)
      ++ [.fetchOutcome e.name FetchError.cancelled.label]

/-- A fetch that does not end reports its cancellation. -/
def result (e : Endpoint) (x : Fetched) : FetchResult := ⟨e, x.outcome.getD (.error .cancelled)⟩

end Fetcher.Fetched

end GatewayFeed
