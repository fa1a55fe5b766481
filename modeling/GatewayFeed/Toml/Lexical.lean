/-!
The smallest readers of TOML text: blanks, line ends, comments, and the names of keys. A reader
takes characters from the front of the input; it fails on text that is no TOML.
-/

namespace GatewayFeed.Toml

abbrev Reader := StateT (List Char) Option

namespace Reader

/-- The next character, which stays in the input. -/
def peek : Reader (Option Char) := fun cs => some (cs.head?, cs)

def next : Reader Char
  | [] => none
  | c :: cs => some (c, cs)

def remaining : Reader Nat := fun cs => some (cs.length, cs)

/-- Takes a word off the input if it starts with that word. -/
def accept (w : List Char) : Reader Bool := fun cs =>
  if w.isPrefixOf cs then some (true, cs.drop w.length) else some (false, cs)

/-- Takes a character off the input if it is one of those given. -/
def acceptOne (options : List Char) : Reader Bool
  | [] => some (false, [])
  | c :: cs => if options.contains c then some (true, cs) else some (false, c :: cs)

def expect (w : List Char) : Reader Unit := do
  if ← accept w then return () else failure

def span (p : Char → Bool) : Reader (List Char) := fun cs => some (cs.takeWhile p, cs.dropWhile p)

def isBlank (c : Char) : Bool := c = ' ' || c = '\t'

def blanks : Reader Unit := fun cs => some ((), cs.dropWhile isBlank)

/-- What may stand in a comment or, quotes and backslashes aside, in a string: no control
characters but tabs. -/
def isPlain (c : Char) : Bool := c = '\t' || (' ' ≤ c && c ≠ '\x7f')

/-- The rest of the input if a line ends here. -/
def afterLine : List Char → Option (List Char)
  | '\n' :: cs => some cs
  | '\r' :: '\n' :: cs => some cs
  | _ => none

def lineBreak : Reader Unit := fun cs => (afterLine cs).map ((), ·)

def comment : Reader Unit := do
  expect ['#']
  let _ ← span isPlain

def lineBreakOrEnd : Reader Unit := do
  match ← peek with
  | none => return ()
  | some _ => lineBreak

/-- Nothing more on this line but a comment. -/
def endLine : Reader Unit := do
  blanks
  if (← peek) = some '#' then comment
  lineBreakOrEnd

/-- What is left after blanks, line breaks and comments. -/
def afterSpace (inComment : Bool) : List Char → List Char
  | '\n' :: cs => afterSpace false cs
  | '\r' :: '\n' :: cs => afterSpace false cs
  | c :: cs =>
    if isBlank c || (inComment && isPlain c) then afterSpace inComment cs
    else if c = '#' then afterSpace true cs
    else c :: cs
  | [] => []

/-- Between the items of an array. -/
def space : Reader Unit := fun cs => some ((), afterSpace false cs)

end Reader

end GatewayFeed.Toml
