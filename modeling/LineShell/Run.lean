import LineShell.CommandLine.Arguments
import LineShell.CommandLine.Usage
import LineShell.Input.Script
import LineShell.Input.Session
import LineShell.Settings.File

namespace LineShell.Run

open CommandLine (Arguments Request UsageError complaint)

/-- What a run is given besides its command line. -/
structure Setting where
  environment : Files.Environment
  library : Settings.Library
  /-- How programs behave. -/
  programs : Command.Programs
  interactive : Bool
  readings : List Input.Reading
  /-- What the log shows of the places at which a fatal error is raised. -/
  trace : String

inductive Finish where
  /-- The command line already settled it. -/
  | early (status : Nat)
  | status (code : Nat)
  | unhandled (failure : Unhandled)
deriving Repr, DecidableEq

structure Outcome where
  world : World
  finish : Finish
  ignoresInterrupts : Bool

def leastLevel (a : Arguments) : Log.Level :=
  if a.quiet then .error else if a.verbose then .debug else .warning

/-- How the log of a run is shown. Before the flags are known, nothing is logged. -/
def logStyle (time : String) (texts : List String) : Log.Style :=
  match CommandLine.parse texts with
  | .ok (.run a) => .stamped time (leastLevel a)
  | _ => .stamped time .warning

def lines (sh : Shell) (s : Setting) (a : Arguments) (w : World) : Input.Result :=
  match a.command, a.script with
  | some (.text line), _ =>
    let (w, ending) := Input.runLine sh w line
    ⟨w, ending, none⟩
  | some .dashes, _ => ⟨w, .unhandled .lineIsDashes, none⟩
  | none, some path =>
    let (w, ending) := Input.runScript sh (w.note (.scriptStarted path)) path
    ⟨w, ending, none⟩
  | none, none => Input.session sh s.interactive s.readings w

/-- Reports a fatal error, and gives the status that the ending stands for. -/
def conclude (trace : String) (w : World) : Ending → World × Finish
  | .status code => (w, .status code)
  | .fatal e => ((w.note (.fatalError trace)).complain (complaint e.message), .status 1)
  | .unhandled u => (w, .unhandled u)

def underSettings (settings : Settings) (s : Setting) (a : Arguments) (w : World) : Outcome :=
  let w := if settings.ignoreInterrupts then w.note .interruptsIgnored else w
  let sh : Shell := ⟨settings, s.environment.lookup "PATH", s.programs⟩
  let r := lines sh s a w
  let (w, finish) := conclude s.trace r.world r.ending
  ⟨Input.Saving.carryOut r.saving w, finish, settings.ignoreInterrupts⟩

def withArguments (s : Setting) (a : Arguments) (w : World) : Outcome :=
  let loaded :=
    match a.config with
    | none => Settings.load s.library s.environment w none
    | some (.text path) => Settings.load s.library s.environment w (some (Files.Path.normal path))
    | some .dashes => (w, .error (.unhandled .pathIsDashes))
  match loaded with
  | (w, .ok settings) => underSettings settings s a w
  | (w, .error (.file e)) => ⟨w.complain (complaint (e.message s.library.report)), .status 2, false⟩
  | (w, .error (.unhandled u)) => ⟨w, .unhandled u, false⟩

/-- A run with the given command line, which is read first, then the settings, then the lines. -/
def run (s : Setting) (texts : List String) (w : World) : Outcome :=
  let columns := CommandLine.columns s.environment
  let refuse (e : UsageError) : Outcome := ⟨w.add [.error (e.text columns)], .early 2, false⟩
  match CommandLine.parse texts with
  | .error e => refuse e
  | .ok .help => ⟨w.print (CommandLine.helpText columns), .early 0, false⟩
  | .ok (.run a) => if a.hasTwoSources then refuse .twoSources else withArguments s a w

end LineShell.Run
