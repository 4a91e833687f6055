import LineShell.Posix.Grammar
import LineShell.Posix.OptionScan
import LineShell.Posix.Process
import LineShell.Posix.Setting
import LineShell.Posix.Variable

namespace LineShell.Posix

open Files (Fault)

structure Frame where
  /-- The variables of its own, as they were outside. -/
  own : List (Octets × Option Variable)
  settings : Option Settings
deriving Repr, DecidableEq

/-- Of the names that were to be variables of the function's own but cannot name one, the last. -/
def Frame.unnamed? (frame : Frame) : Option Octets :=
  (frame.own.find? fun (name, old) => old.isNone && !Octets.isName name).map (·.1)

structure Located where
  path : Octets
  /-- Whether the working directory has been changed since. -/
  isStale : Bool
deriving Repr, DecidableEq

structure State extends Process where
  bindings : Bindings
  functions : List (Octets × Cmd)
  aliases : List (Octets × Octets)
  /-- The programs that have been found. -/
  located : List (Octets × Located)
  settings : Settings
  /-- What is done on a signal, and at the end under the number zero. -/
  traps : List (Nat × Octets)
  /-- The name that messages begin with. -/
  name : Octets
  args : List Octets
  options : OptionScan
  /-- The name of the working directory, as the script has come to it. -/
  directory : Octets
  /-- What the function is to put back, in a function. -/
  frame : Option Frame
  /-- How many functions and texts the command stands in. -/
  depth : Nat
  /-- How many loops the command stands in. -/
  loops : Nat
  /-- Whether this is a part of the script that leaves the rest as it is. -/
  isInner : Bool
  status : Nat
  /-- The status of the script whose output was taken last. -/
  captured : Nat
  /-- The line of the command. -/
  line : Nat
  /-- The line that reading has come to. -/
  reached : Nat
  /-- The builtin or file that the command belongs to, if it belongs to one. -/
  within : Option Octets
  /-- The commands that have been run beside the others, the last first: their numbers and
  statuses. -/
  jobs : List (Nat × Nat)

inductive Flow where
  | next
  | exit (status : Nat)
  /-- An error ends the script. -/
  | failed (status : Nat)
  /-- Another program has taken the script's place. -/
  | replaced (status : Nat)
  | killed (signal : Nat)
  /-- The process that runs this part of the script is ended by a signal of its own. -/
  | died (signal : Nat)
  /-- Out of a function or a file of commands. -/
  | back (status : Nat)
  | leave (loops : Nat)
  | again (loops : Nat)
deriving Repr, DecidableEq

abbrev Action := ExceptT Octets (StateM State)

def refusal (creating : Bool) (fault : Fault) : Octets :=
  if fault = .noEntry ∨ fault = .notDirectory then
    (if creating then "Directory nonexistent" else "No such file").toList
  else Octets.ofText fault.text

namespace State

def has (st : State) (s : Setting) : Bool := st.settings.has s

def get? (st : State) (name : Octets) : Option Octets := st.bindings.value? name

def withStatus (st : State) (n : Nat) : State := { st with status := n }

def write (st : State) (descriptor : Nat) (s : Octets) : State × Bool :=
  let (p, isDone) := st.toProcess.write descriptor s
  ({ st with toProcess := p }, isDone)

def warn (st : State) (s : Octets) : State := (st.write 2 s).1

def complain (st : State) (message : Octets) : State :=
  let within := (st.within.map (· ++ ": ".toList)).getD []
  st.warn (st.name ++ ": ".toList ++ Octets.ofNat st.line ++ ": ".toList ++ within ++ message ++
    ['\n'])

def noticed (st : State) (name value : Octets) : Except Octets State :=
  match String.ofList name with
  | "OPTIND" =>
    match Octets.natOfDigits? 10 value with
    | some n => .ok { st with options := ⟨max n 1, none⟩ }
    | none => .error ("Illegal number: ".toList ++ value)
  | "PATH" => .ok { st with located := [] }
  | _ => .ok st

def assign (st : State) (name value : Octets) : Except Octets State := do
  let bindings ← st.bindings.assign (st.has .exportsAll) name value
  { st with bindings := bindings }.noticed name value

def setAnyVariable (name value : Octets) : Action Unit := do
  match (← get).assign name value with
  | .ok st => set st
  | .error message => throw message

def setVariable (name value : Octets) : Action Unit := do
  let name := name.takeWhile (· ≠ '=')
  if !Octets.isName name then throw (name ++ ": bad variable name".toList)
  setAnyVariable name value

def param? (st : State) (name : Octets) : Option Octets :=
  match name with
  | ['#'] => some (Octets.ofNat st.args.length)
  | ['?'] => some (Octets.ofNat st.status)
  | ['$'] => some (Octets.ofNat st.number)
  | ['!'] => st.jobs.head?.map fun job => Octets.ofNat job.1
  | ['-'] => some st.settings.letters
  | ['0'] => some st.name
  | c :: r =>
    if c.isDigit then
      match Octets.natOfDigits? 10 (c :: r) with
      | some 0 => some st.name
      | some n => st.args[n - 1]?
      | none => none
    else st.get? (c :: r)
  | [] => none

end State

end LineShell.Posix
