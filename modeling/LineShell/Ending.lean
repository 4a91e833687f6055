import LineShell.Report

namespace LineShell

/-- A failure in something that the shell is built on. -/
structure Failure where
  kind : String
  message : String
deriving Repr, DecidableEq

/-- A failure that passes through the shell as it is. -/
inductive Unhandled where
  /-- A path that the system cannot be asked about. -/
  | nullCharacter
  | undecodable (flaw : Text.Utf8.Flaw)
  /-- Reading or writing a value of a settings file fails, and nothing is said of the file. -/
  | underneath (failure : Failure)
  /-- A setting whose name is no text. -/
  | unnamedSetting
  | homeUnknown
  | system (fault : Files.Fault) (file : String)
  | historyTooLong
  /-- Two dashes stand where a line should be. -/
  | lineIsDashes
  /-- Two dashes stand where the path of the settings should be. -/
  | pathIsDashes
deriving Repr, DecidableEq

def Unhandled.message : Unhandled → String
  | .nullCharacter => Cause.nullCharacter.text
  | .undecodable flaw => flaw.message
  | .underneath failure => failure.message
  | .unnamedSetting => "keywords must be strings"
  | .homeUnknown => "Could not determine home directory."
  | .system fault file => (Cause.ofFaultAt fault file).text
  | .historyTooLong => "Python int too large to convert to C int"
  | .lineIsDashes => "'list' object has no attribute 'split'"
  | .pathIsDashes => "expected str, bytes or os.PathLike object, not list"

inductive Ending where
  | status (code : Nat)
  | fatal (error : FatalError)
  | unhandled (failure : Unhandled)
deriving Repr, DecidableEq

end LineShell
