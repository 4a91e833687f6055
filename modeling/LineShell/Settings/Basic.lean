namespace LineShell

structure Settings where
  /-- Shown before each line that is read from a terminal. -/
  prompt : String
  /-- What a line starts with that is skipped. -/
  commentMark : Option String
  /-- Whether tokens after a redirection's path are an error. -/
  strictRedirection : Bool
  ignoreInterrupts : Bool
  historyFile : Option String
  /-- How many lines of history are kept. -/
  historyLength : Nat
deriving Repr, DecidableEq

def Settings.default : Settings where
  prompt := "$ "
  commentMark := some "#"
  strictRedirection := true
  ignoreInterrupts := true
  historyFile := none
  historyLength := 1000

end LineShell
