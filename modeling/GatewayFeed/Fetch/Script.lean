import GatewayFeed.Fetch.Exchange
import GatewayFeed.Json.Printer
import GatewayFeed.Kind

/-!
A control plane that answers from a script: for each dataset a list of replies, of which the last
one is repeated. A dataset without a script is empty, and there is nothing else.
-/

namespace GatewayFeed.Fetch

abbrev Script := List (String × List Reply)

/-- What follows the last occurrence of `mark`. -/
def afterLast? (mark : List Char) : List Char → Option (List Char)
  | [] => none
  | c :: cs =>
    match afterLast? mark cs with
    | some rest => some rest
    | none => if mark.isPrefixOf (c :: cs) then some ((c :: cs).drop mark.length) else none

/-- The dataset that a request asks for, if its target looks like one. -/
def Request.dataset? (r : Request) : Option String :=
  (afterLast? Endpoint.pathPrefix r.url.target.toList).map fun rest =>
    String.ofList (rest.takeWhile fun c => c ≠ '?' && c ≠ '&' && c ≠ '#' && c ≠ '/')

/-- Number of requests for a dataset. -/
def Traffic.count (t : Traffic) (dataset : Option String) : Nat :=
  t.countP fun r => r.dataset? = dataset

def emptyList : Json := .object [("list", .array [])]

def emptyDataset : Reply :=
  .response { status := 200, body := .whole (Utf8.encode emptyList.compact) }

def noDataset : Reply := .response { status := 404 }

/-- Only a status of three digits is one, and one below 200 that is not 101 announces another
answer, which does not come. -/
def final (r : Response) : Reply :=
  if r.status = 101 || (200 ≤ r.status && r.status ≤ 999) then .response r else .broken

namespace Script

def replies (s : Script) (dataset : String) : List Reply := (s.lookup dataset).getD []

/-- There is no way to talk securely to a scripted control plane. -/
def server (s : Script) : Server := fun traffic r =>
  if r.url.scheme = "https".toList then .unreachable
  else
    match r.dataset? with
    | none => noDataset
    | some name =>
      let rs := s.replies name
      (rs[Traffic.count traffic (some name)]?.orElse fun _ => rs.getLast?).getD emptyDataset

end Script

/-- A control plane that no request reaches. -/
def nowhere : Server := fun _ _ => .unreachable

end GatewayFeed.Fetch
