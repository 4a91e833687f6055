import LineShell.Command.Program
import LineShell.Command.Resolution
import LineShell.Line.Redirection
import LineShell.Line.Token
import LineShell.Settings.Basic
import LineShell.World

namespace LineShell

open Command (Answer Programs Resolution)

structure Shell where
  settings : Settings
  /-- The search path, if one is set. -/
  searchPath : Option String
  /-- How programs behave. -/
  programs : Programs

inductive Verdict where
  | next
  | exit (status : Nat)
  | fatal (error : FatalError)
deriving Repr, DecidableEq

namespace World

/-- Makes a file hold exactly this text, and says why if it cannot be written. -/
def save (w : World) (path text : String) : World × Option LineError :=
  let w := w.note (.writing text.length path)
  match w.files.write path (Text.Utf8.encode text.toList) with
  | .ok files => ({ w with files := files }, none)
  | .error cause => (w, some (.unwritable path cause))

/-- Shows the error of a line where the line's output goes. If that file cannot be written, this
is shown on standard error. -/
def report (w : World) (target : Option String) (error : LineError) : World :=
  match target with
  | none => w.complain error.message
  | some path =>
    match w.save path error.message with
    | (w, none) => w
    | (w, some failure) => w.complain failure.message

/-- Shows a command's text: a line on standard output, or the whole content of the target. -/
def deliver (w : World) (target : Option String) (text : String) : World :=
  match target with
  | none => w.print (text ++ "\n")
  | some path =>
    match w.save path text with
    | (w, none) => w
    | (w, some failure) => w.complain failure.message

def notes (w : World) (events : List Log.Event) : World := w.add (events.map .log)

end World

namespace Shell

def carryOut (sh : Shell) (w : World) (name : String) (args : List String) :
    Resolution → World × Except LineError Answer
  | .builtin b =>
    let w := match b with
      | .exit => w.note (.exitRequested args.length)
      | .echo => w
    (w, .ok (b.run args))
  | .external path =>
    let r := Command.run sh.programs w.files path args
    ({ w with files := r.files }.notes r.events,
      match r.result with
      | .ok text => .ok (.text text)
      | .error e => .error (.external e))
  | .notFound => (w, .error (.notFound name))

/-- Carries out the command of a line whose redirection has been taken off. -/
def perform (sh : Shell) (w : World) (name : String) (target : Option String)
    (args : List String) : World × Verdict :=
  match Command.resolve w.files sh.searchPath name with
  | .error e => (w, .fatal e)
  | .ok resolution =>
    let w := w.notes (resolution.events name)
    let w := w.note (.commandStarted resolution.kind name args)
    match sh.carryOut w name args resolution with
    | (w, .ok (.exit status)) => (w, .exit status)
    | (w, .ok (.text text)) => (w.deliver target text, .next)
    | (w, .error e) => ((w.note (.commandFailed name e.message)).report target e, .next)

/-- Executes one line. Its tokens lose their redirection, the command is resolved and carried out,
and its text or its error goes to the target of the line. -/
def execute (sh : Shell) (w : World) (line : String) : World × Verdict :=
  match Line.tokens sh.settings.commentMark line with
  | [] => (w, .next)
  | name :: rest =>
    match Line.redirection sh.settings.strictRedirection rest with
    | .error e =>
      ((w.note (.redirectionRejected e.message)).report none (.redirection e), .next)
    | .ok r =>
      let w := if r.dropped.isEmpty then w else w.note (.tokensDropped r.dropped)
      sh.perform w name r.target r.args

end Shell

end LineShell
