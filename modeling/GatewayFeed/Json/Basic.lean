/-!
JSON values. Objects keep their members in order; `Json.ofMembers` sorts them by key and lets the
last of several members with one key win.
-/

namespace GatewayFeed

/-- Integers are exact; a number outside `-2 ^ 63 ≤ n < 2 ^ 64`, or with a fraction or an
exponent, is real. -/
inductive Json.Number where
  | integer (n : Int)
  | real (x : Float)

inductive Json where
  | null
  | flag (b : Bool)
  | number (n : Json.Number)
  | text (s : String)
  | array (items : List Json)
  | object (members : List (String × Json))

namespace Json

def integer (n : Int) : Json := .number (.integer n)

/-- Puts `key` at its place among members sorted by key, instead of a member it has already. -/
def insertMember (key : String) (v : Json) : List (String × Json) → List (String × Json)
  | [] => [(key, v)]
  | (k, w) :: rest =>
    if key < k then (key, v) :: (k, w) :: rest
    else if key = k then (key, v) :: rest
    else (k, w) :: insertMember key v rest

def sortedMembers (members : List (String × Json)) : List (String × Json) :=
  members.foldl (fun sorted m => insertMember m.1 m.2 sorted) []

def ofMembers (members : List (String × Json)) : Json := .object (sortedMembers members)

end Json

end GatewayFeed
