import GatewayFeed.Net.SocketAddress

/-!
The listener of the admin pages: it takes its address or fails, and then serves until it is told to
stop.
-/

namespace GatewayFeed.Admin

inductive Listening where
  | addressInUse
  /-- Stopped, with whether it was serving before it was told to. -/
  | stopped (served : Bool)
  deriving DecidableEq, Repr

def addressInUse : String := "Address already in use (os error 98)"

/-- A listener on an address that is `taken` or free; `stop` says that it is told to stop before it
starts. -/
def listen (taken stop : Bool) : Listening :=
  if taken then .addressInUse else .stopped (!stop)

end GatewayFeed.Admin
