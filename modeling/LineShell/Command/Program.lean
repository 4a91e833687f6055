import LineShell.Files.Access
import LineShell.Log
import LineShell.Report
import LineShell.Text.Lines

namespace LineShell.Command

open Files (Tree Fault)

/-- What comes of starting a program. -/
inductive Launch where
  /-- The system does not start it, and nothing has changed. -/
  | refused (fault : Fault)
  /-- It ran to its end. A negative status is the signal that ended it. -/
  | ended (status : Int) (stdout stderr : List UInt8) (files : Tree)
deriving Repr, DecidableEq

/-- How programs behave: what comes of starting one with these arguments, the first of which is its
path. The shell knows no more of them. -/
abbrev Programs := Tree → List String → Launch

def captured (bytes : List UInt8) : String :=
  String.ofList (Text.uniformNewlines (Text.Utf8.decodeLossy bytes))

/-- The outcome of running a program: the files after it, what the log says of it, and its output
or why it gave none. -/
structure Run where
  files : Tree
  events : List Log.Event
  result : Except ProcessError String

def run (programs : Programs) (files : Tree) (path : String) (args : List String) : Run :=
  let argv := path :: args
  if argv.any Files.hasNull then
    ⟨files, [.spawning argv], .error (.spawn path .nullCharacter)⟩
  else match programs files argv with
    | .refused fault =>
      ⟨files, [.spawning argv], .error (.spawn path (.ofFault fault))⟩
    | .ended status out err files' =>
      ⟨files', [.spawning argv, .programEnded path status],
        if status = 0 then .ok (captured out) else .error (.failed status (captured err))⟩

end LineShell.Command
