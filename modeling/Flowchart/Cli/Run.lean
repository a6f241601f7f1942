import Flowchart.Cli.Messages
import Flowchart.Syntax.Scan
import Flowchart.Layout.Grid
import Flowchart.Text.Integer
import Flowchart.Cli.Input

/-!
# Running the command

The whole job: read a flowchart source, let a given direction token take the place of the one it
declares, lay it out and give its record (`Flowchart.recordOfSource`).

`mermaid-layout` reads a flowchart on its standard input, lays it out with the default settings and
writes its record as JSON on its standard output, followed by a line feed.

* `--help` anywhere on a readable command line shows the help and nothing else.
* The values of the options given are checked in the order the options first appear, the last
  value of each counting: `--direction` takes `TD`, `TB`, `LR`, `RL` or `BT` in either case and
  overrides the flowchart's direction; `--indent` takes an integer.
* An `INPUT` file is looked up (`Flowchart.Cli.lookup`) after the options' values are checked; as
  no file is there to read, it always stops the run.
* Indentation `0` writes the record on one line, with `", "` between items; any other indentation
  writes it one item a line, nested levels indented by that many blanks, none when it is negative.
  An indentation below `-2^63` (beyond a machine index) or of `2^40` or more (more blanks than can
  be allocated) fails the run with status 1 and no output.
* With `--output`, the record goes to that file and nothing to standard output.

Standard input is read as text: `\r\n` and `\r` both become `\n`.
-/

set_option autoImplicit false

namespace Flowchart

/-- A diagram with its direction set by a token, when one is given. -/
def Diagram.redirect (g : Diagram) : Option Text → Except Fault Diagram
  | none => .ok g
  | some token => (Direction.parse token).map fun d => { g with direction := d }

/-- The laid-out diagram of a source, its direction set by `direction` when given. -/
def layoutSource (src : Text) (direction : Option Text) (s : Settings) : Except Fault Diagram :=
  ((Diagram.ofSource src).redirect direction).map (·.layout s)

/-- The record of the laid-out diagram of a source. -/
def recordOfSource (src : Text) (direction : Option Text) (s : Settings) : Except Fault Json :=
  (layoutSource src direction s).map Diagram.record

namespace Cli

/-- What a run leaves: its exit status and what it wrote to standard output and to standard error. -/
structure Outcome where
  exitCode : Nat
  stdout : Text
  stderr : Text
deriving DecidableEq, Repr

/-- The settings a command line asks for. -/
structure Request where
  direction : Option Direction := none
  indent : Int := 2
  output : Option Text := none
deriving DecidableEq, Repr

def directionChoice (v : Text) : Except UsageError Direction :=
  match Direction.all.find? fun d => Text.toAsciiLower d.tokenText = Text.toAsciiLower v with
  | some d => .ok d
  | none => .error (.badValue "'--direction' / '-d'"
      (v.quote ++ Text.ofString " is not one of 'TD', 'TB', 'LR', 'RL', 'BT'."))

def indentValue (v : Text) : Except UsageError Int :=
  match v.toInt? with
  | some n => .ok n
  | none => .error (.badValue "'--indent' / '-i'" (v.quote ++ Text.ofString " is not a valid integer."))

def Request.apply (inv : Invocation) (r : Request) : Opt → Except UsageError Request
  | .direction =>
    match inv.value? .direction with
    | some v => (directionChoice v).map fun d => { r with direction := some d }
    | none => .ok r
  | .indent =>
    match inv.value? .indent with
    | some v => (indentValue v).map fun n => { r with indent := n }
    | none => .ok r
  | .output => .ok { r with output := inv.value? .output }
  | .verbose | .help => .ok r

/-- Why a run stops before it writes its record. -/
inductive Halt where
  /-- A usage error, reported with status 2. -/
  | usage (e : UsageError)
  /-- A failure reported by nothing but status 1. -/
  | abort
deriving DecidableEq, Repr

/-- The check of a named input file: there is no file to read, so it always stops the run. -/
def inputHalt (p : Text) : Halt :=
  let hint := "'[INPUT]'"
  let name := (shownName p).quote
  match lookup p with
  | .unusable => .abort
  | .missing => .usage (.badValue hint (Text.ofString "File " ++ name ++ Text.ofString " does not exist."))
  | .directory => .usage (.badValue hint (Text.ofString "File " ++ name ++ Text.ofString " is a directory."))

/-- The request of a command line read, or why the run stops: the options' values are checked
first, then the input file. -/
def Request.ofInvocation (inv : Invocation) : Except Halt Request := do
  let r ← (inv.order.foldlM (fun r o => Request.apply inv r o) {}).mapError Halt.usage
  match inv.positionals with
  | p :: _ => .error (inputHalt p)
  | [] => pure r

/-- The least indentation that does not fit a machine index, in absolute value. -/
def indexBound : Int := Int.pow 2 63

/-- The least indentation whose blanks cannot be allocated. -/
def blankBound : Int := Int.pow 2 40

/-- The layout of the output for an indentation; none when it is below `-indexBound` or at least
`blankBound`. -/
def layoutOf (indent : Int) : Option Json.Layout :=
  if indent < -indexBound ∨ blankBound ≤ indent then none
  else if indent = 0 then some .inline
  else some (.block indent.toNat)

def readInput : Text → Text
  | [] => []
  | c :: rest =>
    if c.val = 13 then
      match rest with
      | d :: more => if d.val = 10 then CodePoint.ofChar '\n' :: readInput more
        else CodePoint.ofChar '\n' :: readInput (d :: more)
      | [] => [CodePoint.ofChar '\n']
    else c :: readInput rest

def refused (e : UsageError) : Outcome := ⟨2, [], toErrorStream e.report⟩

def run (args : List Text) (input : Text) : Outcome :=
  match readArgs {} args with
  | .error e => refused e
  | .ok inv =>
    if inv.has .help then ⟨0, Text.ofString helpText, []⟩
    else
      match Request.ofInvocation inv with
      | .error (.usage e) => refused e
      | .error .abort => ⟨1, [], []⟩
      | .ok r =>
        let g := Diagram.ofSource (readInput input)
        let g := match r.direction with
          | some d => { g with direction := d }
          | none => g
        match layoutOf r.indent with
        | none => ⟨1, [], []⟩
        | some layout =>
          let rendered := Json.write layout (g.layout {}).record ++ [CodePoint.ofChar '\n']
          match r.output with
          | some (_ :: _) => ⟨0, [], []⟩
          | _ => ⟨0, rendered, []⟩

def joinLineEnds : Text → Text
  | [] => []
  | c :: rest =>
    match rest with
    | d :: more =>
      if c.val = 13 ∧ d.val = 10 then d :: joinLineEnds more else c :: joinLineEnds (d :: more)
    | [] => [c]

def Outcome.captured (o : Outcome) : Outcome :=
  { o with stdout := joinLineEnds o.stdout, stderr := joinLineEnds o.stderr }

/-- Launches the command with captured streams: the standard input must first become UTF-8
bytes, which fails on a surrogate; then the run's streams are read back as text. -/
def launch (args : List Text) (input : Text) : Except Unencodable Outcome :=
  (input.encode).map fun _ => (run args input).captured

end Cli

end Flowchart
