import GatewayFeed.Toml.Lexical

/-!
Strings: between double quotes with escapes or between single quotes as they stand, on one line or,
between three quotes, on several.
-/

namespace GatewayFeed.Toml.Reader

def hexValue (c : Char) : Nat :=
  if c.isDigit then c.toNat - '0'.toNat else c.toLower.toNat - 'a'.toNat + 10

def isHexDigit (c : Char) : Bool :=
  c.isDigit || ('a' ≤ c && c ≤ 'f') || ('A' ≤ c && c ≤ 'F')

def ofDigits (base : Nat) (cs : List Char) : Nat := cs.foldl (fun n c => n * base + hexValue c) 0

/-- The character that exactly `size` hexadecimal digits name. -/
def codePoint (size : Nat) : Reader Char := fun cs =>
  let ds := cs.take size
  let n := ofDigits 16 ds
  if ds.length = size && ds.all isHexDigit && n.isValidChar then some (Char.ofNat n, cs.drop size)
  else none

/-- What follows a backslash. -/
def escape : Reader Char := do
  match ← next with
  | 'b' => return '\x08'
  | 't' => return '\t'
  | 'n' => return '\n'
  | 'f' => return '\x0c'
  | 'r' => return '\r'
  | '"' => return '"'
  | '\\' => return '\\'
  | 'u' => codePoint 4
  | 'U' => codePoint 8
  | _ => failure

/-- The rest of a string with escapes on one line. -/
def basic : Nat → Reader (List Char)
  | 0 => failure
  | fuel + 1 => do
    match ← next with
    | '"' => return []
    | '\\' => return (← escape) :: (← basic fuel)
    | c => if isPlain c then return c :: (← basic fuel) else failure

/-- The rest of a string on one line in which a backslash is a backslash. -/
def literal : Reader (List Char) := do
  let cs ← span fun c => isPlain c && c ≠ '\''
  expect ['\'']
  return cs

/-- Quotes inside a string between three quotes: up to two belong to the text, and so do up to two
in front of the three that end it. The quotes of the text, and whether it ends. -/
def quotes (quote : Char) : Reader (List Char × Bool) := do
  let qs ← span (· = quote)
  if qs.length < 3 then return (qs, false)
  else if qs.length ≤ 5 then return (qs.drop 3, true)
  else failure

/-- What is left if a line ends here, blanks aside, without the blanks and line ends that follow. -/
def afterContinuation (cs : List Char) : Option (List Char) :=
  (afterLine (cs.dropWhile isBlank)).map fun rest =>
    let rec skip : List Char → List Char
      | '\n' :: cs => skip cs
      | '\r' :: '\n' :: cs => skip cs
      | c :: cs => if isBlank c then skip cs else c :: cs
      | [] => []
    skip rest

/-- Whether a backslash at the end of a line is met, which joins the lines. -/
def continuation : Reader Bool := fun cs =>
  match afterContinuation cs with
  | some rest => some (true, rest)
  | none => some (false, cs)

/-- The rest of a string on several lines. A line end in it is one character however it is
written. -/
def lines (quote : Char) (escapes : Bool) : Nat → Reader (List Char)
  | 0 => failure
  | fuel + 1 => do
    match ← peek with
    | none => failure
    | some c =>
      if c = quote then
        let (qs, ends) ← quotes quote
        if ends then return qs else return qs ++ (← lines quote escapes fuel)
      else if c = '\n' || c = '\r' then
        lineBreak
        return '\n' :: (← lines quote escapes fuel)
      else
        let _ ← next
        if escapes && c = '\\' then
          if ← continuation then lines quote escapes fuel
          else return (← escape) :: (← lines quote escapes fuel)
        else if isPlain c then return c :: (← lines quote escapes fuel)
        else failure

/-- A line end right after the opening quotes is no part of the text. -/
def firstLineBreak : Reader Unit := fun cs => some ((), (afterLine cs).getD cs)

/-- A string on one line, of the kind that its first quote tells. -/
def line : Reader String := do
  let fuel := (← remaining) + 1
  match ← next with
  | '"' => return String.ofList (← basic fuel)
  | '\'' => return String.ofList (← literal)
  | _ => failure

def string : Reader String := do
  let fuel := (← remaining) + 1
  if ← accept ['"', '"', '"'] then
    firstLineBreak
    return String.ofList (← lines '"' true fuel)
  else if ← accept ['\'', '\'', '\''] then
    firstLineBreak
    return String.ofList (← lines '\'' false fuel)
  else line

end GatewayFeed.Toml.Reader
