import StreamBot.Text.Printable

/-! # Checks of the sources

The sources of the bot are formatted, checked and tested by other programs, one after the other.  The first one
that fails ends the run.
-/

namespace StreamBot.Upkeep

inductive Job where
  | check
  | fix
  | test
  deriving Repr, DecidableEq

def Job.programs : Job → List (List String)
  | .check => [["ruff", "format", "--check"], ["ruff", "check"], ["pyright"]]
  | .fix => [["ruff", "format"], ["ruff", "check", "--fix"], ["pyright"]]
  | .test => [["pytest", "-v", "--cov=src/", "--cov-branch", "--cov-report=term-missing:skip-covered",
      "--cov-report=html:coverage_html"]]

def Job.commandLines (job : Job) : List (List String) := job.programs.map (["uv", "run", "--active"] ++ ·)

def Job.name : Job → String
  | .check => "check"
  | .fix => "fix"
  | .test => "test"

def Job.ofArguments? : List String → Option Job
  | [] => some .check
  | ["--fix"] => some .fix
  | ["--test"] => some .test
  | _ => none

def quotedList (texts : List String) : String :=
  "[" ++ Text.join ", " (texts.map Text.quoted) ++ "]"

def usage (arguments : List String) : String :=
  "Usage: " ++ arguments.headD "" ++ " [--fix/--test]\n" ++ quotedList arguments ++ "\n"

/-- What a run has started and printed, and the code with which it was ended early. -/
structure Run where
  started : List (List String) := []
  output : String := ""
  errors : String := ""
  code : Option Int := none
  deriving Repr, DecidableEq

def startLine (line : List String) : String := "Running: `" ++ Text.join " " line ++ "`\n"

/-- Starts programs until one fails.  Their exit codes come in order. -/
def Run.startAll (r : Run) : List (List String) → List Int → Run
  | [], _ => r
  | line :: lines, codes =>
    let r := { r with started := r.started ++ [line], output := r.output ++ startLine line }
    match codes with
    | [] => r.startAll lines []
    | code :: codes => if code = 0 then r.startAll lines codes else { r with code := some code }

def run (arguments : List String) (codes : List Int) : Run :=
  match Job.ofArguments? arguments with
  | some job => Run.startAll {} job.commandLines codes
  | none => { errors := usage arguments, code := some 2 }

def handOn (job : Job) (codes : List Int) : Run :=
  { started := [["poe", job.name]], code := some (codes.headD 0) }

end StreamBot.Upkeep
