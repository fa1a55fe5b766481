/-!
Arguments of a command line by their looks, and why a command line is refused.
-/

namespace GatewayFeed

/-- A request for help ends the reading of a command line as well. -/
inductive UsageError where
  | unknownArgument
  | invalidSubcommand
  | missingSubcommand
  | missingArgument
  | invalidValue
  | tooManyValues
  | argumentConflict
  | help
  /-- Nothing was asked at all. -/
  | helpOnEmpty
  deriving DecidableEq, Repr

/-- Only help that was asked for is no failure. -/
def UsageError.exitCode : UsageError → Nat
  | .help => 0
  | _ => 2

namespace CommandLine

/-- A long option may have a value behind a `=`; a lone hyphen is a word. -/
inductive Token where
  | escape
  | long (name : List Char) (value : Option (List Char))
  | short (first : Char) (rest : List Char)
  | word
  deriving DecidableEq, Repr

def Token.ofChars : List Char → Token
  | '-' :: '-' :: [] => .escape
  | '-' :: '-' :: cs =>
    match cs.dropWhile (· ≠ '=') with
    | [] => .long cs none
    | _ :: value => .long (cs.takeWhile (· ≠ '=')) (some value)
  | '-' :: c :: cs => .short c cs
  | _ => .word

/-- The value that stands in one argument with a short option, perhaps behind a `=`. -/
def attached? : List Char → Option (List Char)
  | [] => none
  | '=' :: cs => some cs
  | cs => some cs

/-- What is wrong with an option where there is only the one for help. -/
def onlyHelp : Token → UsageError
  | .long name none => if name = "help".toList then .help else .unknownArgument
  | .long name (some _) => if name = "help".toList then .tooManyValues else .unknownArgument
  | .short c _ => if c = 'h' then .help else .unknownArgument
  | _ => .unknownArgument

end CommandLine

end GatewayFeed
