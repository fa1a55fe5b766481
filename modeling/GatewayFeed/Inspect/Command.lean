/-!
What can be asked of a running agent.
-/

namespace GatewayFeed.Inspect

inductive Command where
  /-- Whether it is alive. -/
  | status
  /-- Which collections have been loaded. -/
  | ready
  /-- How many items each collection has. -/
  | snapshot
  /-- One collection with all its items. -/
  | collection (kind : String)
  deriving DecidableEq, Repr

namespace Command

def name : Command → String
  | status => "status"
  | ready => "ready"
  | snapshot => "snapshot"
  | collection _ => "collection"

/-- The page that answers. -/
def path : Command → String
  | status => "/health/live"
  | ready => "/health/ready"
  | snapshot => "/admin/snapshot"
  | collection kind => "/admin/collections/" ++ kind

end Command

/-- A question, where to put it, and the key that opens the page. -/
structure Query where
  url : String
  key : String
  command : Command
  deriving DecidableEq, Repr

namespace Query

def withoutSlashes (s : String) : List Char :=
  (s.toList.reverse.dropWhile (· = '/')).reverse

/-- Slashes at the end of the address do not count. -/
def target (q : Query) : String := String.ofList (withoutSlashes q.url) ++ q.command.path

def authorization (q : Query) : String := "Bearer " ++ q.key

end Query

end GatewayFeed.Inspect
