import GatewayFeed.Url.Parser

/-!
Requests to a control plane and what may come back. A server is a function of the requests that
have reached it and of the one it is to answer.
-/

namespace GatewayFeed.Fetch

/-- A `GET`, perhaps with credentials. -/
structure Request where
  url : Url
  authorization : Option String
  deriving DecidableEq, Repr

inductive Body where
  | whole (bytes : List UInt8)
  /-- The connection ends before all that was announced has come. -/
  | cut
  /-- The rest never comes. -/
  | stalled
  deriving DecidableEq, Repr

/-- The value of a header may be any bytes. -/
structure Response where
  status : Nat
  headers : List (String × List UInt8) := []
  body : Body := .whole []
  deriving DecidableEq, Repr

def Response.header? (r : Response) (name : String) : Option (List UInt8) :=
  (r.headers.find? fun h => h.1.toLower = name).map (·.2)

inductive Reply where
  | response (r : Response)
  /-- There is no connection, so the request does not arrive. -/
  | unreachable
  /-- The connection ends without an answer, or with something that is none. -/
  | broken
  /-- The connection stays, but no answer comes. -/
  | silent
  deriving DecidableEq, Repr

/-- Requests that have reached a server, the latest one last. -/
abbrev Traffic := List Request

abbrev Server := Traffic → Request → Reply

end GatewayFeed.Fetch
