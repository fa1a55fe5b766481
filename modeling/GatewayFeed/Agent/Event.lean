import GatewayFeed.Cycle
import GatewayFeed.Log.Filter

/-!
What the agent logs about itself. A line of the log is an object with the event's own fields, its
message and its level.
-/

namespace GatewayFeed.Agent

inductive Event where
  | starting
  | configured (s : Settings)
  | exporterFailed (reason : String)
  | adminStopped (reason : String)
  | loaded (populated : Nat)
  | notRefreshed (f : Failure)
  | rejected (r : Rejection) (username : String)
  | cycleCancelled
  | cycleFailed (e : LoadError)
  | reloadFailed
  | finished
  deriving DecidableEq

namespace Event

def version : String := "0.1.0"

def level : Event → Log.Level
  | notRefreshed _ => .warn
  | exporterFailed _ | adminStopped _ | rejected _ _ | cycleFailed _ | reloadFailed => .error
  | _ => .info

def message : Event → String
  | starting => "gateway-adapter starting"
  | configured _ => "Configuration loaded"
  | exporterFailed _ => "Failed to start metrics exporter"
  | adminStopped _ => "Admin API stopped"
  | loaded _ => "Control-plane data fully loaded"
  | notRefreshed _ => "Collection not refreshed this cycle"
  | rejected _ _ => "Control plane rejected the configured credentials; update them to retry"
  | cycleCancelled => "Load cycle cancelled by shutdown"
  | cycleFailed _ => "Load cycle failed"
  | reloadFailed => "Failed to reload config, keeping current configuration"
  | finished => "Shutdown complete"

def stageName : FailureCause → String
  | .fetch _ => "Fetch"
  | .decode _ => "Decode"

def fields : Event → List (String × Json)
  | starting => [("version", .text version)]
  | configured s => [
      ("service_url", .text s.controlPlane.serviceUrl),
      ("skip_tls_verification", .flag s.controlPlane.skipTlsVerification),
      ("request_timeout_secs", .integer s.timeouts.requestSecs.toNat),
      ("cycle_timeout_secs", .integer s.timeouts.cycleSecs.toNat)]
  | exporterFailed reason | adminStopped reason => [("error", .text reason)]
  | loaded populated => [("populated", .integer populated)]
  | notRefreshed f => [
      ("endpoint", .text f.endpoint.name),
      ("stage", .text (stageName f.cause)),
      ("error", .text f.cause.message)]
  | rejected r username => [
      ("endpoint", .text r.endpoint.name),
      ("status", .integer r.status),
      ("username", .text username)]
  | cycleFailed e => [("error", .text e.message)]
  | cycleCancelled | reloadFailed | finished => []

def line (e : Event) : Json :=
  .ofMembers (("level", .text e.level.name) :: ("message", .text e.message) :: e.fields)

/-- The part of the agent that logs these events. -/
def target : String := "gateway_adapter"

def isShown (f : Log.Filter) (e : Event) : Bool :=
  f.shows target.toList e.level ("message".toList :: e.fields.map (·.1.toList))

/-- What a cycle with the settings `s` says about its end. -/
def ofCycle (s : Settings) : Except LoadError Report → List Event
  | .ok r => if r.isComplete then [loaded r.populated] else r.failures.map notRefreshed
  | .error (.unauthorized r) => [rejected r s.controlPlane.username]
  | .error .cancelled => [cycleCancelled]
  | .error e => [cycleFailed e]

end Event

end GatewayFeed.Agent
