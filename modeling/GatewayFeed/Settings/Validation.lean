import GatewayFeed.Net.SocketAddress
import GatewayFeed.Settings.Basic
import GatewayFeed.Text.Blank
import GatewayFeed.Url.Parser

/-!
Settings that make sense. Every rule that is broken gives one problem, in the order of the rules.
-/

namespace GatewayFeed

inductive UrlProblem where
  | unreadable (e : Url.Error)
  | unsupportedScheme (scheme : String)
  deriving DecidableEq, Repr

def UrlProblem.message : UrlProblem → String
  | unreadable e => e.message
  | unsupportedScheme s => "unsupported scheme '" ++ s ++ "'"

inductive Problem where
  | invalidServiceUrl (url : String) (reason : UrlProblem)
  | emptyUsername
  | zeroValue (field : String)
  | cycleShorterThanRequest (cycle request : UInt64)
  | backoffBounds (base limit : UInt64)
  | unknownLogFormat (format : String)
  | invalidAddress (field value : String)
  deriving DecidableEq, Repr

def Problem.message : Problem → String
  | invalidServiceUrl u r => "control_plane.service_url '" ++ u ++ "' is invalid: " ++ r.message
  | emptyUsername => "control_plane.username must not be empty"
  | zeroValue f => f ++ " must be greater than zero"
  | cycleShorterThanRequest c r =>
    "timeouts.cycle_secs (" ++ toString c.toNat ++ ") must be >= timeouts.request_secs ("
      ++ toString r.toNat ++ ")"
  | backoffBounds b m =>
    "retries.base_delay_ms (" ++ toString b.toNat ++ ") must be <= retries.max_delay_ms ("
      ++ toString m.toNat ++ ")"
  | unknownLogFormat f => "observability.log_format '" ++ f ++ "' is not one of: pretty, json"
  | invalidAddress f v => f ++ " '" ++ v ++ "' is not a valid socket address"

namespace Settings

/-- Only the web's own schemes will do. -/
def serviceUrlProblem? (url : String) : Option UrlProblem :=
  match Url.parse url with
  | .error e => some (.unreadable e)
  | .ok u =>
    if u.scheme = "http".toList || u.scheme = "https".toList then none
    else some (.unsupportedScheme (String.ofList u.scheme))

/-- A problem if a rule is broken. -/
def when (broken : Bool) (p : Problem) : List Problem := if broken then [p] else []

def controlPlaneProblems (c : ControlPlane) : List Problem :=
  ((serviceUrlProblem? c.serviceUrl).map (Problem.invalidServiceUrl c.serviceUrl)).toList
    ++ when (Text.allBlank c.username) .emptyUsername

def timeoutProblems (t : Timeouts) : List Problem :=
  when (t.connectSecs = 0) (.zeroValue "timeouts.connect_secs")
    ++ when (t.requestSecs = 0) (.zeroValue "timeouts.request_secs")
    ++ when (t.cycleSecs = 0) (.zeroValue "timeouts.cycle_secs")
    ++ when (t.cycleSecs < t.requestSecs) (.cycleShorterThanRequest t.cycleSecs t.requestSecs)

def retryProblems (r : Retries) : List Problem :=
  when (r.maxAttempts = 0) (.zeroValue "retries.max_attempts")
    ++ when (r.maxDelayMs < r.baseDelayMs) (.backoffBounds r.baseDelayMs r.maxDelayMs)

def isAddress (s : String) : Bool := (SocketAddress.parse? s).isSome

/-- A listener that is switched off needs no address. -/
def observabilityProblems (o : Observability) : List Problem :=
  when (o.logFormat ≠ "pretty" && o.logFormat ≠ "json") (.unknownLogFormat o.logFormat)
    ++ when (o.metricsEnabled && !isAddress o.metricsAddress)
      (.invalidAddress "observability.metrics_address" o.metricsAddress)

def adminProblems (a : AdminSettings) : List Problem :=
  when (a.enabled && !isAddress a.bindAddress) (.invalidAddress "admin.bind_address" a.bindAddress)

def problems (s : Settings) : List Problem :=
  controlPlaneProblems s.controlPlane ++ timeoutProblems s.timeouts ++ retryProblems s.retries
    ++ observabilityProblems s.observability ++ adminProblems s.admin

/-- Settings that are accepted, but not as they may have been meant. -/
def warnings (s : Settings) : List String :=
  if s.controlPlane.skipTlsVerification && s.controlPlane.caCertPath.isSome then
    ["control_plane.ca_cert_path is ignored while skip_tls_verification is enabled"]
  else []

end Settings

end GatewayFeed
