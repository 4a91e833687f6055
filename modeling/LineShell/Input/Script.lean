import LineShell.Ending
import LineShell.Shell

namespace LineShell.Input

def runLine (sh : Shell) (w : World) (line : String) : World × Ending :=
  match sh.execute w line with
  | (w, .next) => (w, .status 0)
  | (w, .exit status) => (w, .status status)
  | (w, .fatal e) => (w, .fatal e)

/-- Executes lines in order; `number` is the number of the first. -/
def runLines (sh : Shell) (number : Nat) : List String → World → World × Ending
  | [], w => (w, .status 0)
  | line :: r, w =>
    match sh.execute (w.note (.lineStarted number line)) line with
    | (w, .next) => runLines sh (number + 1) r w
    | (w, .exit status) => (w.note (.exitOnLine number), .status status)
    | (w, .fatal e) => (w, .fatal e)

def scriptLines (text : List Char) : List String :=
  (Text.lines (Text.uniformNewlines text)).map String.ofList

def runScript (sh : Shell) (w : World) (path : String) : World × Ending :=
  match w.files.read path with
  | .error .nullCharacter => (w, .unhandled .nullCharacter)
  | .error cause => (w, .fatal (.input path (some cause)))
  | .ok bytes =>
    match Text.Utf8.decode bytes with
    | .error flaw => (w, .fatal (.input path (some (.undecodable flaw))))
    | .ok text => runLines sh 1 (scriptLines text) w

end LineShell.Input
