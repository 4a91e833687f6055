import LineShell.Cause

namespace LineShell.Input

inductive Reading where
  | line (text : String)
  /-- The user interrupts the prompt. -/
  | interrupt
  | failed (cause : Cause)
deriving Repr, DecidableEq

/-- A reply of a line reader. The empty reply means the end of the input; of any other, one line
feed at the end is no part of the line. -/
def Reading.ofReply (reply : String) : Option Reading :=
  if reply = "" then none
  else if reply.toList.getLast? = some '\n' then some (.line (String.ofList reply.toList.dropLast))
  else some (.line reply)

/-- An event at a terminal. -/
inductive Event where
  | reply (text : String)
  | interrupt
  | failed (cause : Cause)
deriving Repr, DecidableEq

/-- The readings that events come to; nothing is read after the end of the input. -/
def readings : List Event → List Reading
  | [] => []
  | .reply text :: r =>
    match Reading.ofReply text with
    | none => []
    | some reading => reading :: readings r
  | .interrupt :: r => .interrupt :: readings r
  | .failed cause :: r => .failed cause :: readings r

end LineShell.Input
