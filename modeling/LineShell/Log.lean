import LineShell.Cause

namespace LineShell.Log

inductive Level where
  | debug
  | warning
  | error
deriving Repr, DecidableEq

def Level.rank : Level → Nat
  | .debug => 0
  | .warning => 1
  | .error => 2

def Level.name : Level → String
  | .debug => "DEBUG"
  | .warning => "WARNING"
  | .error => "ERROR"

inductive Event where
  | settingsDefault
  | settingsLoaded (path : String)
  | interruptsIgnored
  | scriptStarted (path : String)
  /-- The lines are ended by a fatal error, which was raised at the places that the trace lists. -/
  | fatalError (trace : String)
  | lineStarted (number : Nat) (line : String)
  | exitOnLine (number : Nat)
  | tokensDropped (tokens : List String)
  | redirectionRejected (message : String)
  | literalPath (name : String)
  | foundInPath (name path : String)
  | notInPath (name : String)
  | commandStarted (kind name : String) (args : List String)
  | exitRequested (ignored : Nat)
  | spawning (argv : List String)
  | programEnded (path : String) (status : Int)
  | commandFailed (name message : String)
  | writing (size : Nat) (path : String)
  | historyUnread (path : String) (cause : Cause)
  | historyUnsaved (path : String) (cause : Cause)
deriving Repr, DecidableEq

namespace Event

open Text

def source : Event → String
  | settingsDefault | settingsLoaded _ => "pathshell.config"
  | interruptsIgnored | scriptStarted _ | fatalError _ => "pathshell.cli"
  | lineStarted .. | exitOnLine _ | historyUnread .. | historyUnsaved .. => "pathshell.shell.repl"
  | tokensDropped _ | writing .. => "pathshell.shell.output"
  | redirectionRejected _ | commandFailed .. => "pathshell.shell.interpreter"
  | literalPath _ | foundInPath .. | notInPath _ | spawning _ | programEnded .. =>
    "pathshell.shell.external"
  | commandStarted .. => "pathshell.shell.command"
  | exitRequested _ => "pathshell.shell.builtins"

def level : Event → Level
  | historyUnread .. | historyUnsaved .. => .warning
  | _ => .debug

def message : Event → String
  | settingsDefault => "No configuration file, using defaults"
  | settingsLoaded path => "Loaded configuration from " ++ path
  | interruptsIgnored => "SIGINT ignored"
  | scriptStarted path => "Running script " ++ path
  | fatalError trace => "Fatal error\n" ++ trace
  | lineStarted number line => "Executing line " ++ toString number ++ ": " ++ line
  | exitOnLine number => "exit on line " ++ toString number
  | tokensDropped tokens =>
    "Dropping tokens after redirection path: " ++ Literal.ofStrings tokens
  | redirectionRejected message => "Redirection error: " ++ message
  | literalPath name => "Resolved " ++ Literal.ofString name ++ " as literal path"
  | foundInPath name path => "Resolved " ++ Literal.ofString name ++ " to " ++ path
  | notInPath name => Literal.ofString name ++ " not found in PATH"
  | commandStarted kind name args =>
    "Executing " ++ kind ++ " command " ++ Literal.ofString name ++ " with " ++
      Literal.ofStrings args
  | exitRequested ignored =>
    "exit requested (ignoring " ++ toString ignored ++ " argument(s))"
  | spawning argv => "Spawning: " ++ Literal.ofStrings argv
  | programEnded path status => path ++ " exited with status " ++ toString status
  | commandFailed name message => "Command " ++ Literal.ofString name ++ " failed: " ++ message
  | writing size path => "Writing " ++ toString size ++ " characters to " ++ path
  | historyUnread path cause => "Could not read history file " ++ path ++ ": " ++ cause.text
  | historyUnsaved path cause => "Could not write history file " ++ path ++ ": " ++ cause.text

end Event

inductive Style where
  /-- Warnings as bare messages. -/
  | bare
  /-- Events from a level on, each with the time, its source and its level. -/
  | stamped (time : String) (least : Level)
deriving Repr, DecidableEq

/-- An event as shown; the empty text if it is not shown. -/
def Style.render (style : Style) (e : Event) : String :=
  match style with
  | .bare => if e.level = .debug then "" else e.message ++ "\n"
  | .stamped time least =>
    if e.level.rank < least.rank then ""
    else time ++ " - " ++ e.source ++ " - " ++ e.level.name ++ " - " ++ e.message ++ "\n"

end LineShell.Log
