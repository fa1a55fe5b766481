import GatewayFeed.Text.Base64
import GatewayFeed.Text.Utf8

/-!
Signing in to the control plane with a user name and a password.
-/

namespace GatewayFeed

structure Credential where
  username : String
  password : String
  deriving DecidableEq, Repr

namespace Credential

/-- The user name, a colon and the password. -/
def bytes (c : Credential) : List UInt8 :=
  Utf8.encode c.username ++ [':'.toUInt8] ++ Utf8.encode c.password

def token (c : Credential) : String := String.ofList (Base64.encode c.bytes)

/-- Value of the `Authorization` header. -/
def header (c : Credential) : String := "Basic " ++ c.token

/-- What a log may show of a token. -/
def redacted : String := "AccessToken([REDACTED])"

/-- Header values that hold a token are never shown. -/
def headerIsSensitive : Bool := true

end Credential

end GatewayFeed
