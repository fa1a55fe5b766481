import GatewayFeed.Text.Utf8

/-!
The place of a fault in a document and how it is shown around the words that report the fault: the line of
the document with what is faulty marked below it, before the words, or the way there by keys behind them.
-/

namespace GatewayFeed.Toml

/-- A stretch of the document's bytes, or else the keys that lead to the value. -/
inductive Place where
  | stretch (start length : Nat)
  | path (keys : List String)
  deriving DecidableEq, Repr

/-- What is shown of a document: a line with some of it marked. Lines and columns count from zero. -/
structure Excerpt where
  line : Nat
  column : Nat
  content : String
  marks : Nat
  deriving DecidableEq, Repr

/-- The line and the column of a byte. Columns are characters, but bytes where a character breaks off, and go
on behind the last byte. -/
def position (bytes : List UInt8) (index : Nat) : Nat × Nat :=
  let inside := min index (bytes.length - 1)
  let above := bytes.take inside
  let left := (above.reverse.takeWhile (· ≠ 0x0A)).reverse
  let column :=
    match Utf8.decode? (left ++ (bytes.drop inside).take 1) with
    | some s => s.length - 1
    | none => left.length
  (above.count 0x0A, column + (index - inside))

def lineOf : Nat → List Char → List Char
  | 0, cs => cs.takeWhile (· ≠ '\n')
  | n + 1, cs => lineOf n ((cs.dropWhile (· ≠ '\n')).drop 1)

/-- The line on which a stretch starts. The marks go no farther than the line does, but there is always one. -/
def excerpt (text : String) (start length : Nat) : Excerpt :=
  let (line, column) := position (Utf8.encode text) start
  let content := String.ofList (lineOf line text.toList)
  ⟨line, column, content, max 1 (min length ((Utf8.encode content).length - column))⟩

namespace Excerpt

def times (n : Nat) (c : Char) : String := String.ofList (List.replicate n c)

def number (e : Excerpt) : String := toString (e.line + 1)

def margin (e : Excerpt) : String := times (e.number.length + 1) ' ' ++ "|"

def heading (e : Excerpt) : String :=
  "TOML parse error at line " ++ e.number ++ ", column " ++ toString (e.column + 1)

def shown (e : Excerpt) : String :=
  e.heading ++ "\n" ++ e.margin ++ "\n" ++ e.number ++ " | " ++ e.content ++ "\n" ++ e.margin
    ++ times (e.column + 1) ' ' ++ times e.marks '^' ++ "\n"

end Excerpt

namespace Place

/-- What is shown before the words. -/
def before (text : String) : Place → String
  | stretch start length => (excerpt text start length).shown
  | path _ => ""

/-- What is shown behind the words. -/
def after : Place → String
  | stretch .. | path [] => "\n"
  | path keys => "\nin `" ++ ".".intercalate keys ++ "`\n"

def report (text words : String) (place : Place) : String := place.before text ++ words ++ place.after

end Place

/-- What is told of a fault besides its kind: the place, and the words for a text that is no document. -/
structure Fault where
  place : Place
  words : String
  deriving DecidableEq, Repr

end GatewayFeed.Toml
