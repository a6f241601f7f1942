import Flowchart.Text.Similarity

/-!
# Reading the command line

The command `mermaid-layout [OPTIONS] [INPUT]` takes these options:

* `-d`, `--direction` with a value: the direction to lay out in;
* `-i`, `--indent` with a value: the indentation of the JSON output;
* `-o`, `--output` with a value: a file to write the output to;
* `-v`, `--verbose`: report decisions on the error stream;
* `--help`: show the help and stop.

An argument that starts with `-` and is longer than `-` alone is an option; `--` ends the options,
and every other argument is positional, before, between or after options.

An option argument is first read as a long option, what follows its first `=` being its value:
`--indent=4`. A value-taking option without an `=` takes the next argument, whatever it is. When
the argument names no long option and starts with `--`, it is refused, with the long options most
like it as suggestions. Otherwise it is read as a group of short options: `-vd LR`, where a
value-taking option takes the rest of the group as its value (`-dLR`) or else the next argument.

Each option may be given more than once; the last value counts.
-/

set_option autoImplicit false

namespace Flowchart

namespace Cli

/-- An option of the command. -/
inductive Opt where
  | direction
  | indent
  | output
  | verbose
  | help
deriving DecidableEq, Repr, Inhabited

namespace Opt

def all : List Opt := [direction, indent, output, verbose, help]

def long : Opt → String
  | direction => "--direction"
  | indent => "--indent"
  | output => "--output"
  | verbose => "--verbose"
  | help => "--help"

def short : Opt → Option String
  | direction => some "-d"
  | indent => some "-i"
  | output => some "-o"
  | verbose => some "-v"
  | help => none

def takesValue : Opt → Bool
  | direction | indent | output => true
  | verbose | help => false

def ofLong? (name : Text) : Option Opt := all.find? fun o => Text.ofString o.long = name

def ofShort? (name : Text) : Option Opt := all.find? fun o => o.short.map Text.ofString = some name

end Opt

/-- Why a command line cannot be read. -/
inductive UsageError where
  /-- An option that does not exist, with the long options most like it. -/
  | noSuchOption (name : Text) (suggestions : List Text)
  /-- A value-taking option at the end of the command line. -/
  | missingValue (name : Text)
  /-- A value given with `=` to an option that takes none. -/
  | unexpectedValue (name : Text)
  /-- A value the option or argument named by `hint` cannot take. -/
  | badValue (hint : String) (message : Text)
deriving DecidableEq, Repr

/-- A command line read: the options given, in order, each with its value, and the positional
arguments. -/
structure Invocation where
  given : List (Opt × Option Text) := []
  positionals : List Text := []
deriving DecidableEq, Repr, Inhabited

/-- What one option argument holds: the options it gives, and maybe a last option that takes its
value from the next argument, with the name it was given by. -/
inductive Reading where
  | complete (given : List (Opt × Option Text))
  | wantsValue (given : List (Opt × Option Text)) (o : Opt) (name : Text)

def splitAtEquals (arg : Text) : Text × Option Text :=
  let eq := CodePoint.ofChar '='
  match arg.dropWhile (· ≠ eq) with
  | _ :: value => (arg.takeWhile (· ≠ eq), some value)
  | [] => (arg, none)

def longNames : List Text := Opt.all.map fun o => Text.ofString o.long

def readShort (acc : List (Opt × Option Text)) : Text → Except UsageError Reading
  | [] => .ok (.complete acc)
  | c :: more =>
    let name := [CodePoint.ofChar '-', c]
    match Opt.ofShort? name with
    | none => .error (.noSuchOption name [])
    | some o =>
      if o.takesValue then
        match more with
        | [] => .ok (.wantsValue acc o name)
        | _ => .ok (.complete (acc ++ [(o, some more)]))
      else readShort (acc ++ [(o, none)]) more

def readOption (arg : Text) : Except UsageError Reading :=
  let (name, value) := splitAtEquals arg
  match Opt.ofLong? name with
  | some o =>
    if o.takesValue then
      match value with
      | some v => .ok (.complete [(o, some v)])
      | none => .ok (.wantsValue [] o name)
    else
      match value with
      | some _ => .error (.unexpectedValue name)
      | none => .ok (.complete [(o, none)])
  | none =>
    if (Text.dropPrefix? (Text.ofString "--") arg).isSome then
      .error (.noSuchOption name (Text.closeMatches name longNames))
    else readShort [] (arg.drop 1)

def isOptionArg (arg : Text) : Bool := arg.head? = some (CodePoint.ofChar '-') && 1 < arg.length

/-- Reads a command line, what was read before it being `acc`. -/
def readArgs (acc : Invocation) : List Text → Except UsageError Invocation
  | [] => .ok acc
  | arg :: rest =>
    if arg = Text.ofString "--" then .ok { acc with positionals := acc.positionals ++ rest }
    else if isOptionArg arg then
      match readOption arg with
      | .error e => .error e
      | .ok (.complete given) => readArgs { acc with given := acc.given ++ given } rest
      | .ok (.wantsValue given o name) =>
        match rest with
        | v :: more => readArgs { acc with given := acc.given ++ given ++ [(o, some v)] } more
        | [] => .error (.missingValue name)
    else readArgs { acc with positionals := acc.positionals ++ [arg] } rest

namespace Invocation

def has (inv : Invocation) (o : Opt) : Bool := inv.given.any (·.1 = o)

def value? (inv : Invocation) (o : Opt) : Option Text :=
  (inv.given.reverse.find? (·.1 = o)).bind (·.2)

def order (inv : Invocation) : List Opt :=
  inv.given.foldl (fun acc g => if acc.contains g.1 then acc else acc ++ [g.1]) []

end Invocation

example : (readArgs {} [Text.ofString "-vdLR", Text.ofString "--indent=0"]).toOption =
    some { given := [(.verbose, none), (.direction, some (Text.ofString "LR")),
      (.indent, some (Text.ofString "0"))] } := by decide +kernel

end Cli

end Flowchart
