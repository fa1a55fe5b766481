import GatewayFeed.Url.Percent

/-!
Form encoding of name and value pairs, as a query carries them: `&` between pairs, `=` within,
`+` for a space, and everything but letters, digits and `*-._` percent-encoded.
-/

namespace GatewayFeed.Url.Form

def isPlain (b : UInt8) : Bool :=
  let c := Char.ofNat b.toNat
  b < 0x80 && (c.isAlphanum || ['*', '-', '.', '_'].contains c)

def encodeByte (b : UInt8) : List Char :=
  if isPlain b then [Char.ofNat b.toNat]
  else if b = 0x20 then ['+']
  else percentByte b

def encode (s : String) : List Char := (Utf8.encode s).flatMap encodeByte

def encodePair (p : String × String) : List Char := encode p.1 ++ '=' :: encode p.2

/-- Pairs after a query that may be empty. -/
def append (query : List Char) (pairs : List (String × String)) : List Char :=
  pairs.foldl (fun q p => q ++ (if q.isEmpty then [] else ['&']) ++ encodePair p) query

def splitAt (sep : Char) : List Char → List (List Char)
  | [] => [[]]
  | c :: cs =>
    if c = sep then [] :: splitAt sep cs
    else match splitAt sep cs with
      | part :: parts => (c :: part) :: parts
      | [] => [[c]]

def decode (cs : List Char) : String :=
  Utf8.decodeLossy (percentDecode (cs.map fun c => if c = '+' then ' ' else c))

/-- Empty pieces are no pairs; a piece without `=` has an empty value. -/
def pairs (query : List Char) : List (String × String) :=
  ((splitAt '&' query).filter (!·.isEmpty)).map fun piece =>
    (decode (piece.takeWhile (· ≠ '=')), decode ((piece.dropWhile (· ≠ '=')).drop 1))

end GatewayFeed.Url.Form
