/-!
What the agent can be told: where the control plane is and how to sign in, how long to wait, how
often to try again, what to log and measure, and where to answer questions about the store.
-/

namespace GatewayFeed

structure ControlPlane where
  serviceUrl : String := "https://localhost:9443"
  username : String := "admin"
  password : String := ""
  skipTlsVerification : Bool := true
  caCertPath : Option String := none
  gatewayLabel : String := "Production and Sandbox"
  connectorType : String := "Envoy"
  deriving DecidableEq, Repr

structure Timeouts where
  connectSecs : UInt64 := 5
  requestSecs : UInt64 := 30
  cycleSecs : UInt64 := 120
  deriving DecidableEq, Repr

structure Retries where
  enabled : Bool := true
  maxAttempts : UInt32 := 3
  baseDelayMs : UInt64 := 200
  maxDelayMs : UInt64 := 5000
  deriving DecidableEq, Repr

structure Observability where
  logLevel : String := "info"
  logFormat : String := "pretty"
  metricsEnabled : Bool := true
  metricsAddress : String := "0.0.0.0:9091"
  deriving DecidableEq, Repr

structure AdminSettings where
  enabled : Bool := true
  apiKey : String := "CHANGE_ME_IN_PRODUCTION"
  bindAddress : String := "127.0.0.1:9095"
  deriving DecidableEq, Repr

structure Settings where
  controlPlane : ControlPlane := {}
  timeouts : Timeouts := {}
  retries : Retries := {}
  observability : Observability := {}
  admin : AdminSettings := {}
  deriving DecidableEq, Repr

end GatewayFeed
