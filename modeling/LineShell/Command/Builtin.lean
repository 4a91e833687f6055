namespace LineShell.Command

inductive Builtin where
  | echo
  | exit
deriving Repr, DecidableEq

namespace Builtin

def name : Builtin → String
  | echo => "echo"
  | exit => "exit"

def ofName? (name : String) : Option Builtin :=
  if name = "echo" then some echo else if name = "exit" then some exit else none

end Builtin

inductive Answer where
  | text (s : String)
  /-- The shell is to end with this status. -/
  | exit (status : Nat)
deriving Repr, DecidableEq

/-- Carries out a builtin. `echo` gives its arguments with single spaces; `exit` ignores them. -/
def Builtin.run : Builtin → List String → Answer
  | echo, args => .text (String.intercalate " " args)
  | exit, _ => .exit 0

end LineShell.Command
