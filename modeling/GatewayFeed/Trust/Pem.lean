import GatewayFeed.Text.Base64

/-!
Blocks of base64 between a line that begins them and a line that ends them, both with a label. What
stands before a block is passed over, and so are blanks at the ends of lines.
-/

namespace GatewayFeed.Pem

structure Block where
  label : List Char
  bytes : List UInt8
  deriving DecidableEq, Repr

/-- Lines without the blanks and controls at their ends. -/
def lines (cs : List Char) : List (List Char) :=
  let (done, last) := cs.foldl (fun (done, line) c =>
    if c = '\n' then (trimmed line :: done, []) else (done, c :: line))
    (([] : List (List Char)), ([] : List Char))
  (trimmed last :: done).reverse
where
  /-- A line that was gathered from its end. -/
  trimmed (reversed : List Char) : List Char := (reversed.dropWhile fun c => c ≤ ' ').reverse

def dashes : List Char := List.replicate 5 '-'

/-- The label of a line that begins a block, if `word` is `BEGIN`, or ends it. -/
def label? (word : List Char) (line : List Char) : Option (List Char) :=
  let start := dashes ++ word ++ [' ']
  if start.isPrefixOf line && dashes.isSuffixOf line && start.length + 5 ≤ line.length then
    some ((line.drop start.length).take (line.length - start.length - 5))
  else none

/-- The lines of a block up to its end, and the lines after it. A block has no headers: no line
holds a colon, and only the first may be blank. -/
def body? (label : List Char) (first : Bool) :
    List (List Char) → Option (List Char × List (List Char))
  | [] => none
  | line :: rest =>
    if (dashes ++ "END ".toList).isPrefixOf line then
      if label? "END".toList line = some label then some ([], rest) else none
    else if line.contains ':' || (line.isEmpty && !first) then none
    else (body? label false rest).map fun (text, rest) => (line ++ text, rest)

/-- The first block with one of the labels; every block before it must be readable, too. -/
def find? (labels : List (List Char)) : Nat → List (List Char) → Option Block
  | 0, _ => none
  | fuel + 1, ls =>
    match ls.dropWhile fun l => (label? "BEGIN".toList l).isNone with
    | [] => none
    | line :: rest => do
      let label ← label? "BEGIN".toList line
      let (text, rest) ← body? label true rest
      let bytes ← Base64.decode? text
      if labels.contains label then some ⟨label, bytes⟩ else find? labels fuel rest

end GatewayFeed.Pem
