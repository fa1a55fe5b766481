import GatewayFeed.Fetch.StatusText
import GatewayFeed.Json.Printer
import GatewayFeed.Json.Value
import GatewayFeed.Text.Charset

/-!
What is shown of an answer of the admin pages. A JSON document is laid out, whatever the status of
the answer; any other text is shown as it is, or reported if the status tells of a failure.
-/

namespace GatewayFeed.Inspect

/-- What goes to the two output streams. -/
structure Printed where
  out : String := ""
  err : String := ""
  deriving DecidableEq, Repr

def failure (status : Nat) (text : String) : String :=
  "Error: Admin API returned status " ++ Fetch.statusText status ++ "\n"
    ++ if text.isEmpty then "" else "Response: " ++ text ++ "\n"

def print (status : Nat) (text : String) : Printed :=
  match Json.parse text with
  | .ok v => { out := v.pretty ++ "\n" }
  | .error _ =>
    if Fetch.isSuccess status then { out := text ++ "\n" } else { err := failure status text }

/-- The same for a body that is still to be decoded. -/
def printBody (status : Nat) (contentType : Option (List UInt8)) (body : List UInt8) : Printed :=
  print status (Charset.text contentType body)

end GatewayFeed.Inspect
