import Flowchart.Cli.Options
import Flowchart.Text.Quote

/-!
# What the command says

The help text, and the report of a command line that cannot be read. An unknown option or a bad
value is reported after the usage line and a hint to ask for help; an option missing its value, or
given one it does not take, is reported alone. Every report ends the run with status 2.

What goes to the error stream is written as text: terminal escape sequences (`ESC [`, then digits,
`;` or `?`, then a letter) are left out, and a lone surrogate is written as its escape `\udxxx`.
-/

set_option autoImplicit false

namespace Flowchart

namespace Cli

def usageLine : String := "Usage: mermaid-layout [OPTIONS] [INPUT]"

def helpText : String :=
  usageLine ++ "\n\n" ++
  "  Mermaid flowchart to laid-out graph record (JSON).\n\n" ++
  "Options:\n" ++
  "  -d, --direction [TD|TB|LR|RL|BT]\n" ++
  "                                  Override direction (TD, TB, LR, RL, BT)\n" ++
  "  -i, --indent INTEGER            JSON indentation (0 for compact output)\n" ++
  "  -o, --output TEXT               Write output to this file instead of stdout\n" ++
  "  -v, --verbose                   Log parser and layout decisions to stderr\n" ++
  "  --help                          Show this message and exit.\n"

def suggestion : List Text → Text
  | [] => []
  | [s] => Text.ofString " Did you mean " ++ s ++ Text.ofString "?"
  | ss => Text.ofString " (Possible options: " ++ (Text.ofString ", ").intercalate (Text.sortLex ss)
      ++ Text.ofString ")"

def UsageError.message : UsageError → Text
  | .noSuchOption name ss => Text.ofString "No such option: " ++ name ++ suggestion ss
  | .missingValue name => Text.ofString "Option " ++ name.quote ++ Text.ofString " requires an argument."
  | .unexpectedValue name =>
    Text.ofString "Option " ++ name.quote ++ Text.ofString " does not take a value."
  | .badValue hint message => Text.ofString ("Invalid value for " ++ hint ++ ": ") ++ message

def UsageError.withUsage : UsageError → Bool
  | .noSuchOption .. | .badValue .. => true
  | .missingValue _ | .unexpectedValue _ => false

def UsageError.report (e : UsageError) : Text :=
  (if e.withUsage then
    Text.ofString (usageLine ++ "\nTry 'mermaid-layout --help' for help.\n\n")
  else []) ++ Text.ofString "Error: " ++ e.message ++ Text.ofString "\n"

def endsEscape (c : CodePoint) : Bool := c.isAsciiLetter

def insideEscape (c : CodePoint) : Bool := c.isAsciiDigit || c.val == 59 || c.val == 63

def escapeLength? (t : Text) : Option Nat :=
  match t with
  | e :: b :: rest =>
    if e.val = 27 ∧ b.val = 91 then
      match rest.dropWhile insideEscape with
      | c :: after => if endsEscape c then some (t.length - after.length) else none
      | [] => none
    else none
  | _ => none

def stripFrom (skip : Nat) : Text → Text
  | [] => []
  | c :: rest =>
    match skip with
    | k + 1 => stripFrom k rest
    | 0 =>
      match escapeLength? (c :: rest) with
      | some n => stripFrom (n - 1) rest
      | none => c :: stripFrom 0 rest

def stripEscapes (t : Text) : Text := stripFrom 0 t

/-- A text as written to the error stream: lone surrogates become `\udxxx`. -/
def replaceSurrogates (t : Text) : Text :=
  t.flatMap fun c =>
    if c.isSurrogate then CodePoint.ofChar '\\' :: CodePoint.ofChar 'u' :: Text.hex 4 c.val else [c]

/-- What a message becomes on the error stream. -/
def toErrorStream (t : Text) : Text := replaceSurrogates (stripEscapes t)

example : stripEscapes (Text.ofString "a\x1b[1;31mb\x1b[c\x1b[") = Text.ofString "ab\x1b[" := by decide

end Cli

end Flowchart
