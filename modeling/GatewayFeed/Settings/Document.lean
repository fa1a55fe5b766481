import GatewayFeed.Settings.Validation
import GatewayFeed.Text.Utf8
import GatewayFeed.Toml.Parser
import GatewayFeed.Toml.Place

/-!
Settings as a TOML document. What the document leaves out keeps its default, and what it has beyond
the known keys is passed over. A section may also be an array of its values in the order of the
fields. The password may come from elsewhere, and the settings must make sense.
-/

namespace GatewayFeed

/-- A key of a section and what its value does to the section. -/
structure Setting (σ : Type) where
  key : String
  update : σ → Toml → Except Mismatch σ

namespace Toml

def toText : Toml → Except Mismatch String
  | .text s => .ok s
  | v => .error (.wrongType v.found .text)

def toFlag : Toml → Except Mismatch Bool
  | .flag b => .ok b
  | v => .error (.wrongType v.found .flag)

/-- A natural number below `limit`. -/
def toNatural (expected : Expected) (limit : Nat) : Toml → Except Mismatch Nat
  | .integer n =>
    if 0 ≤ n.toInt ∧ n.toInt < limit then .ok n.toInt.toNat
    else .error (.wrongValue n.toInt expected)
  | v => .error (.wrongType v.found expected)

def toNatural64 (v : Toml) : Except Mismatch UInt64 :=
  (v.toNatural .natural64 0x10000000000000000).map UInt64.ofNat

def toNatural32 (v : Toml) : Except Mismatch UInt32 :=
  (v.toNatural .natural32 0x100000000).map UInt32.ofNat

end Toml

namespace Setting

variable {σ : Type}

def ofReader {α : Type} (key : String) (read : Toml → Except Mismatch α) (set : σ → α → σ) :
    Setting σ :=
  ⟨key, fun s v => (read v).map (set s)⟩

/-- Updates in the order of the document. -/
def updateAll (settings : List (Setting σ)) (start : σ) (members : List (String × Toml)) :
    Except Mismatch σ :=
  members.foldlM (fun s m =>
    match settings.find? (·.key = m.1) with
    | some f => f.update s m.2
    | none => .ok s) start

/-- A section. A date counts as a map without any known key. -/
def readSection (name : String) (settings : List (Setting σ)) (start : σ) :
    Toml → Except Mismatch σ
  | .table ms => updateAll settings start ms
  | .array items => (settings.zip items).foldlM (fun s p => p.1.update s p.2) start
  | .moment => .ok start
  | v => .error (.wrongType v.found (.record name))

end Setting

open Setting

def ControlPlane.settings : List (Setting ControlPlane) :=
  [ofReader "service_url" Toml.toText fun s x => { s with serviceUrl := x },
   ofReader "username" Toml.toText fun s x => { s with username := x },
   ofReader "password" Toml.toText fun s x => { s with password := x },
   ofReader "skip_tls_verification" Toml.toFlag fun s x => { s with skipTlsVerification := x },
   ofReader "ca_cert_path" Toml.toText fun s x => { s with caCertPath := some x },
   ofReader "gateway_label" Toml.toText fun s x => { s with gatewayLabel := x },
   ofReader "connector_type" Toml.toText fun s x => { s with connectorType := x }]

def Timeouts.settings : List (Setting Timeouts) :=
  [ofReader "connect_secs" Toml.toNatural64 fun s x => { s with connectSecs := x },
   ofReader "request_secs" Toml.toNatural64 fun s x => { s with requestSecs := x },
   ofReader "cycle_secs" Toml.toNatural64 fun s x => { s with cycleSecs := x }]

def Retries.settings : List (Setting Retries) :=
  [ofReader "enabled" Toml.toFlag fun s x => { s with enabled := x },
   ofReader "max_attempts" Toml.toNatural32 fun s x => { s with maxAttempts := x },
   ofReader "base_delay_ms" Toml.toNatural64 fun s x => { s with baseDelayMs := x },
   ofReader "max_delay_ms" Toml.toNatural64 fun s x => { s with maxDelayMs := x }]

def Observability.settings : List (Setting Observability) :=
  [ofReader "log_level" Toml.toText fun s x => { s with logLevel := x },
   ofReader "log_format" Toml.toText fun s x => { s with logFormat := x },
   ofReader "metrics_enabled" Toml.toFlag fun s x => { s with metricsEnabled := x },
   ofReader "metrics_address" Toml.toText fun s x => { s with metricsAddress := x }]

def AdminSettings.settings : List (Setting AdminSettings) :=
  [ofReader "enabled" Toml.toFlag fun s x => { s with enabled := x },
   ofReader "api_key" Toml.toText fun s x => { s with apiKey := x },
   ofReader "bind_address" Toml.toText fun s x => { s with bindAddress := x }]

namespace Settings

def sections : List (Setting Settings) :=
  [ofReader "control_plane" (readSection "ControlPlaneConfig" ControlPlane.settings {})
     fun s x => { s with controlPlane := x },
   ofReader "timeouts" (readSection "TimeoutConfig" Timeouts.settings {})
     fun s x => { s with timeouts := x },
   ofReader "retries" (readSection "RetryConfig" Retries.settings {})
     fun s x => { s with retries := x },
   ofReader "observability" (readSection "ObservabilityConfig" Observability.settings {})
     fun s x => { s with observability := x },
   ofReader "admin" (readSection "AdminConfig" AdminSettings.settings {})
     fun s x => { s with admin := x }]

def ofDocument (members : List (String × Toml)) : Except Mismatch Settings :=
  updateAll sections {} members

/-- Why a text or a file gives no settings. That a text is no document or that a value has another type is
reported with the place where it is so. -/
inductive Refusal where
  | notFound
  | notUtf8
  | notToml
  | mismatch (m : Mismatch)
  | invalid (problems : List Problem)
  deriving DecidableEq, Repr

/-- Reports every problem. -/
def invalidMessage (problems : List Problem) : String :=
  "Validation failed: " ++ ", ".intercalate (problems.map Problem.message)

/-- The whole message, as it is logged. -/
def Refusal.message (text : String) (fault : Toml.Fault) : Refusal → String
  | notFound => "IO error: No such file or directory (os error 2)"
  | notUtf8 => "IO error: stream did not contain valid UTF-8"
  | notToml => "Parse error: " ++ fault.place.report text fault.words
  | mismatch m => "Parse error: " ++ fault.place.report text m.message
  | invalid problems => invalidMessage problems

/-- A given password replaces that of the document, even if it is empty. -/
def withPassword (password : Option String) (s : Settings) : Settings :=
  match password with
  | some p => { s with controlPlane := { s.controlPlane with password := p } }
  | none => s

def validated (s : Settings) : Except Refusal Settings :=
  if s.problems.isEmpty then .ok s else .error (.invalid s.problems)

def parse (text : String) (password : Option String) : Except Refusal Settings :=
  match Toml.parse? text with
  | none => .error .notToml
  | some ms =>
    match ofDocument ms with
    | .error m => .error (.mismatch m)
    | .ok s => (s.withPassword password).validated

/-- Settings from the content of a file, if there is one. -/
def load (content : Option (List UInt8)) (password : Option String) : Except Refusal Settings :=
  match content with
  | none => .error .notFound
  | some bytes =>
    match Utf8.decode? bytes with
    | none => .error .notUtf8
    | some text => parse text password

end Settings

end GatewayFeed
