import GatewayFeed.Admin.Request
import GatewayFeed.Json.Printer
import GatewayFeed.Store
import GatewayFeed.Url.Percent

/-!
What the admin pages answer. Anyone may ask whether the process lives and whether the store is
complete; the pages that show what is in it, and all paths without a page, ask for the key first.
-/

namespace GatewayFeed.Admin

inductive Route where
  | live
  | ready
  | snapshot
  /-- The last part of the path as it is written. -/
  | collection (segment : List Char)
  deriving DecidableEq, Repr

namespace Route

def collectionsPath : List Char := "/admin/collections/".toList

def ofPath? (path : List Char) : Option Route :=
  if path = "/health/live".toList then some live
  else if path = "/health/ready".toList then some ready
  else if path = "/admin/snapshot".toList then some snapshot
  else if collectionsPath.isPrefixOf path then
    let segment := path.drop collectionsPath.length
    if segment.isEmpty || segment.contains '/' then none else some (collection segment)
  else none

def isOpen : Route → Bool
  | live | ready => true
  | snapshot | collection _ => false

end Route

structure Answer where
  status : Nat
  contentType : Option String := none
  allow : Option String := none
  body : String := ""
  deriving DecidableEq, Repr

namespace Answer

def json (status : Nat) (v : Json) : Answer :=
  { status, contentType := some "application/json", body := v.compact }

def plain (status : Nat) (text : String) : Answer :=
  { status, contentType := some "text/plain; charset=utf-8", body := text }

def unauthorized : Answer := { status := 401 }

def notFound : Answer := { status := 404 }

def methodNotAllowed : Answer := { status := 405 }

end Answer

def version : String := "0.1.0"

def liveJson : Json := .object [("version", .text version), ("status", .text "ok")]

/-- Whether every kind has been loaded once, and which have not. -/
structure Readiness where
  missing : List Kind
  populated : Nat
  deriving DecidableEq, Repr

namespace Readiness

def ofSnapshot (s : Snapshot) : Readiness := ⟨s.missing, s.populated⟩

def ready (r : Readiness) : Bool := r.missing.isEmpty

def status (r : Readiness) : Nat := if r.ready then 200 else 503

def toJson (r : Readiness) : Json :=
  .object [("ready", .flag r.ready), ("populated", .integer r.populated),
    ("total", .integer Kind.all.length), ("missing", .array (r.missing.map (.text ·.name)))]

end Readiness

def summaryJson (s : SlotSummary) : Json :=
  .object [("collection", .text s.kind.name), ("populated", .flag s.populated),
    ("items", .integer s.size)]

/-- The name that a part of a path stands for. -/
def segmentName? (segment : List Char) : Option String :=
  Utf8.decode? (Url.percentDecode segment)

def collectionAnswer (s : Snapshot) (segment : List Char) : Answer :=
  match segmentName? segment with
  | none => .plain 400 "Invalid URL: Invalid UTF-8 in `kind`"
  | some name =>
    match (Kind.ofName? name).bind s.get with
    | some c => .json 200 c.toJson
    | none => .notFound

/-- The page of a route. -/
def page (s : Snapshot) : Route → Answer
  | .live => .json 200 liveJson
  | .ready => let r := Readiness.ofSnapshot s; .json r.status r.toJson
  | .snapshot => .json 200 (.array (s.summary.map summaryJson))
  | .collection segment => collectionAnswer s segment

/-- Asking for the head of a page is answered like asking for the page, without the body. -/
def atRoute (s : Snapshot) (method : String) (r : Route) : Answer :=
  if method = "GET" then page s r
  else if method = "HEAD" then { page s r with body := "" }
  else .methodNotAllowed

/-- Names the methods of a route where another one was used, whatever the answer is. -/
def allowing (method : String) (a : Answer) : Answer :=
  if method = "GET" || method = "HEAD" then a else { a with allow := some "GET,HEAD" }

def respond (key : String) (s : Snapshot) (r : Request) : Answer :=
  match Route.ofPath? r.path with
  | some route =>
    allowing r.method
      (if route.isOpen || r.authorized key then atRoute s r.method route else .unauthorized)
  | none => if r.authorized key then .notFound else .unauthorized

end GatewayFeed.Admin
