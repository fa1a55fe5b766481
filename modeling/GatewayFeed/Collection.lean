import GatewayFeed.Item.Wire

/-!
A collection is the list of items of one kind. A payload is decoded by the kind that is expected,
never by what it looks like.
-/

namespace GatewayFeed

structure Collection where
  kind : Kind
  items : List kind.Item
  deriving DecidableEq

namespace Collection

open Json (Reader)

def listShape : Shape Unit where
  name := "EntityList"
  fields := [⟨"list", ()⟩]
  partialArray := false

/-- The items of a document, which has them under `list`. -/
def readItems (k : Kind) : Reader (List k.Item) := do
  let r ← Reader.record listShape fun _ => Reader.list k.readItem
  match r.lookup "list" with
  | some items => return items
  | none => Reader.mismatch (.missingField "list")

def decode (k : Kind) (payload : List UInt8) : Except Json.Fault Collection :=
  (Reader.document (readItems k) payload).map fun items => ⟨k, items⟩

def toJson (c : Collection) : Json :=
  .object [("list", .array (c.items.map c.kind.itemJson))]

def size (c : Collection) : Nat := c.items.length

end Collection

end GatewayFeed
