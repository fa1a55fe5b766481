/-!
Tables of characters by runs of code points. A table is a text of entries between blanks and line
ends: a run is one or two hexadecimal numbers, `first` or `first-last`, and a mapping has `=` and
its targets after the run, with dots between them.
-/

namespace GatewayFeed.Url.Domain

structure Run where
  first : Nat
  last : Nat

structure Mapping where
  first : Nat
  last : Nat
  target : List Char

def hexOf (cs : List Char) : Nat :=
  cs.foldl (fun n c => n * 16 + (if c.isDigit then c.toNat - 48 else c.toNat - 55)) 0

/-- What stands between the entries of a table. -/
def isBlank (c : Char) : Bool := c == ' ' || c == '\n'

/-- Pieces between separators, without the empty ones. -/
def pieces (isSeparator : Char → Bool) (cs : List Char) : List (List Char) :=
  let (done, last) := cs.foldl (fun (done, cur) c =>
    if isSeparator c then (cur.reverse :: done, []) else (done, c :: cur))
    (([] : List (List Char)), ([] : List Char))
  (last.reverse :: done).reverse.filter (!·.isEmpty)

def Run.parse (cs : List Char) : Run :=
  match pieces (· == '-') cs with
  | [a] => ⟨hexOf a, hexOf a⟩
  | a :: b :: _ => ⟨hexOf a, hexOf b⟩
  | [] => ⟨0, 0⟩

def Run.parseAll (s : String) : Array Run :=
  ((pieces isBlank s.toList).map Run.parse).toArray

def Mapping.parse (cs : List Char) : Mapping :=
  let run := Run.parse (cs.takeWhile (· ≠ '='))
  let targets := pieces (· == '.') ((cs.dropWhile (· ≠ '=')).drop 1)
  ⟨run.first, run.last, targets.map fun t => Char.ofNat (hexOf t)⟩

def Mapping.parseAll (s : String) : Array Mapping :=
  ((pieces isBlank s.toList).map Mapping.parse).toArray

/-- The index of the last entry that starts at `n` or before, between `low` and `high`. -/
def lastStart {α : Type} (first : α → Nat) (table : Array α) (n : Nat) : Nat → Nat → Nat → Nat
  | 0, low, _ => low
  | fuel + 1, low, high =>
    if high ≤ low + 1 then low
    else
      let middle := (low + high) / 2
      match table[middle]? with
      | some x => if first x ≤ n then lastStart first table n fuel middle high
        else lastStart first table n fuel low middle
      | none => low

def inside (table : Array Run) (n : Nat) : Bool :=
  match table[lastStart Run.first table n 32 0 table.size]? with
  | some r => r.first ≤ n && n ≤ r.last
  | none => false

def Mapping.entry? (table : Array Mapping) (n : Nat) : Option Mapping :=
  match table[lastStart Mapping.first table n 32 0 table.size]? with
  | some m => if m.first ≤ n && n ≤ m.last then some m else none
  | none => none

/-- The targets of a character; a single target moves along with the run. -/
def Mapping.find? (table : Array Mapping) (n : Nat) : Option (List Char) :=
  (Mapping.entry? table n).map fun m =>
    match m.target with
    | [t] => [Char.ofNat (t.toNat + (n - m.first))]
    | ts => ts

end GatewayFeed.Url.Domain
