import Outline.CommandLine
import Outline.Registration
import Outline.Session.Requests
import Outline.Text.LowerCase
import Outline.Tool.Server

/-!
# The program

What the program does with a command line: it tells its version, registers itself in a workspace, or
serves the tools there.
-/

namespace Outline.Program

/-- How the program ends. -/
structure Outcome where
  exitCode : Nat
  output   : String := ""
  /-- The report of a failure. -/
  report   : Option String := none
  disk     : Disk

/-- Why the program fails: what it could not do, and why. -/
structure Failure where
  message : String
  cause   : Option String := none
  deriving DecidableEq, Repr

namespace Failure

/-- Indents all lines but the first. -/
def indented (s : String) : String :=
  String.ofList (s.toList.flatMap fun c => if c = '\n' then "\n    ".toList else [c])

/-- The failure as a report. -/
def report (f : Failure) : String :=
  "Error: " ++ f.message ++ "\n" ++
    match f.cause with
    | some cause => "\nCaused by:\n    " ++ indented cause ++ "\n"
    | none       => ""

end Failure

/-- The version as it is told. -/
def versionText : String := "symbolsmith 0.1.0\n"

/-- The levels of logging. -/
def logLevels : List String := ["trace", "debug", "info", "warn", "error"]

/-- The level of logging must be one of the known ones, in any letter case. -/
def checkLogLevel (level : String) : Except Failure Unit :=
  if logLevels.contains (lowerText level) then .ok ()
  else .error { message := "invalid log level: " ++ lowerText level }

/-- The checks that come before any work; `workspace` is the place of the workspace with all links
followed. -/
def checkOptions (options : CommandLine.Options) (workspace : Except IoError Place) :
    Except Failure Place := do
  checkLogLevel options.logLevel
  match workspace with
  | .ok place => return place
  | .error e  => throw {
      message := "failed to canonicalize workspace path: " ++ options.workspace,
      cause   := some e.message }

/-- Registers the server in a workspace. -/
def config (disk : Disk) (root : Place) (options : CommandLine.Options) : Outcome :=
  match Registration.register disk (.ofNames root) options.languageServer options.serverArgs with
  | (disk, .ok file) =>
    { exitCode := 0, disk,
      output := "Registered symbolsmith in " ++ file.display ++
        "\nRestart your MCP client to pick up the new server.\n" }
  | (disk, .error e) =>
    { exitCode := 1, disk, report := some (Failure.report ⟨e.message, e.cause?⟩) }

/-- The failure to serve when the command of the language server cannot be run. -/
def cannotServe (disk : Disk) (root : Place) (options : CommandLine.Options) : Outcome :=
  { exitCode := 1, disk,
    report := some (Failure.report {
      message := "failed to start LSP client",
      cause   := some (Session.spawnFailure disk root options.languageServer).message }) }

/-- Does what the options say. -/
def runOptions (disk : Disk) (options : CommandLine.Options) (workspace : Except IoError Place) :
    Outcome :=
  match checkOptions options workspace with
  | .error f => { exitCode := 1, disk, report := some f.report }
  | .ok root =>
    match options.command with
    | .config => config disk root options
    | .serve  => cannotServe disk root options

/-- Runs the program in a directory where no language server can be run. -/
def run (disk : Disk) (cwd : Path) (args : List String) : Outcome :=
  match CommandLine.read args with
  | .usage   => { exitCode := 2, disk }
  | .help    => { exitCode := 0, disk }
  | .version => { exitCode := 0, disk, output := versionText }
  | .run options =>
    runOptions disk options (disk.canonicalize (cwd.join (.ofText options.workspace)))

end Outline.Program
