import LineShell.Ending
import LineShell.Input.History
import LineShell.Input.Reading

namespace LineShell.Input

def loop (sh : Shell) (interactive : Bool) : List Reading → World → World × Ending
  | readings, w =>
    let w := if interactive then w.print sh.settings.prompt else w
    match readings with
    | [] => (if interactive then w.print "\n" else w, .status 0)
    | .interrupt :: r => loop sh interactive r (w.print "\n")
    | .failed cause :: _ => (w, .fatal (.input "standard input" (some cause)))
    | .line text :: r =>
      match sh.execute w text with
      | (w, .next) => loop sh interactive r w
      | (w, .exit status) => (w, .status status)
      | (w, .fatal e) => (w, .fatal e)

/-- What a session has to write back when everything is done. -/
structure Saving where
  path : String
  lines : List (List UInt8)
  limit : Option Nat
deriving Repr, DecidableEq

def Saving.carryOut (saving : Option Saving) (w : World) : World :=
  match saving with
  | none => w
  | some s =>
    let (files, events) := History.save w.files s.path s.lines s.limit
    { w with files := files }.notes events

/-- What is known after a run: the world, how the run ended, and what is left to write back. -/
structure Result where
  world : World
  ending : Ending
  saving : Option Saving

def session (sh : Shell) (interactive : Bool) (readings : List Reading) (w : World) : Result :=
  match interactive, sh.settings.historyFile with
  | true, some path =>
    if Files.hasNull path then ⟨w, .unhandled .nullCharacter, none⟩
    else
      let (lines, events) := History.load w.files path
      let w := w.notes events
      if sh.settings.historyLength > History.maxLength then
        ⟨w, .unhandled .historyTooLong, some ⟨path, lines, none⟩⟩
      else
        let (w, ending) := loop sh true readings w
        ⟨w, ending, some ⟨path, lines, some sh.settings.historyLength⟩⟩
  | _, _ =>
    let (w, ending) := loop sh interactive readings w
    ⟨w, ending, none⟩

end LineShell.Input
