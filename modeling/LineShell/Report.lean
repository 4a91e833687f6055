import LineShell.Cause
import LineShell.Text.Quoted

namespace LineShell

namespace Report

def notFound (name : String) : String := "Command not found: " ++ Text.Quoted.ofString name

def builtin (cause : String) : String := "builtin execution error: " ++ cause

def external (cause : String) : String := "external execution error: " ++ cause

def spawn (path : String) (cause : Cause) : String :=
  "failed to spawn " ++ path ++ ": " ++ cause.description

def unwritable (path : String) (cause : Cause) : String :=
  "cannot write to " ++ path ++ ": " ++ cause.description

def input (source : String) : Option Cause → String
  | none => "failed to read " ++ source
  | some cause => "failed to read " ++ source ++ ": " ++ cause.description

def pathNotSet : String := "environment variable PATH is not set"

inductive Kind where
  | general
  | line
  | redirection
  | notFound
  | builtin
  | external
  | spawn
  | failed
  | unwritable
  | fatal
  | pathNotSet
  | input
  | settings
deriving Repr, DecidableEq

def Kind.isLine : Kind → Bool
  | .line | .redirection | .notFound | .builtin | .external | .unwritable => true
  | _ => false

def Kind.isFatal : Kind → Bool
  | .fatal | .pathNotSet | .input => true
  | _ => false

end Report

/-- Why the redirection of a line is malformed. -/
inductive RedirectionError where
  | repeated
  | missingPath
  /-- A token follows the path. -/
  | trailing (token : String)
deriving Repr, DecidableEq

def RedirectionError.message : RedirectionError → String
  | .repeated => "multiple redirections not supported"
  | .missingPath => "file path not found"
  | .trailing token => "unexpected argument after redirection path: " ++ token

inductive ProcessError where
  | spawn (path : String) (cause : Cause)
  /-- It ended with a status other than zero; a negative status is the signal that ended it. -/
  | failed (status : Int) (stderr : String)
deriving Repr, DecidableEq

def ProcessError.message : ProcessError → String
  | .spawn path cause => Report.spawn path cause
  | .failed _ stderr => stderr

inductive LineError where
  | redirection (error : RedirectionError)
  | notFound (name : String)
  | external (error : ProcessError)
  | unwritable (path : String) (cause : Cause)
deriving Repr, DecidableEq

def LineError.message : LineError → String
  | .redirection error => error.message
  | .notFound name => Report.notFound name
  | .external error => Report.external error.message
  | .unwritable path cause => Report.unwritable path cause

inductive FatalError where
  | pathNotSet
  | input (source : String) (cause : Option Cause)
deriving Repr, DecidableEq

def FatalError.message : FatalError → String
  | .pathNotSet => Report.pathNotSet
  | .input source cause => Report.input source cause

end LineShell
