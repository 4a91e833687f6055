import LineShell.Input.Reading
import LineShell.Text.Chunks
import LineShell.Text.Lines

namespace LineShell.Input

open Text

/-- What is held between two chunks: the bytes of a character that is not complete, a carriage
return whose line feed may still come, and the line begun. -/
structure Stream where
  pending : Utf8.Pending
  heldReturn : Bool
  /-- The line begun. -/
  begun : List Char
deriving Repr, DecidableEq

namespace Stream

def start : Stream := ⟨.none, false, []⟩

/-- Takes in a chunk: the lines that it completes, and what is held after it. -/
def feed (s : Stream) (chunk : List UInt8) :
    Except Utf8.Flaw (List (List Char) × Stream) :=
  match s.pending.feed chunk with
  | .error flaw => .error flaw
  | .ok (text, pending) =>
    let reader := (NewlineReader.mk s.heldReturn []).feed text
    let parts := pieces (· == '\n') (s.begun ++ reader.text)
    .ok (parts.dropLast, ⟨pending, reader.held, parts.getLast?.getD []⟩)

/-- What the end of the input makes of what is held: the last lines, unless it cuts off a
character. -/
def finish (s : Stream) : Except Utf8.Flaw (List (List Char)) :=
  match s.pending.finish with
  | .error flaw => .error flaw
  | .ok () => .ok (linesAt (· == '\n') (s.begun ++ if s.heldReturn then ['\n'] else []))

def readings (s : Stream) : List (List UInt8) → List Reading
  | [] =>
    match s.finish with
    | .error flaw => [.failed (.undecodable flaw)]
    | .ok ls => ls.map fun l => .line (String.ofList l)
  | chunk :: r =>
    match s.feed chunk with
    | .error flaw => [.failed (.undecodable flaw)]
    | .ok (ls, s) => ls.map (fun l => .line (String.ofList l)) ++ s.readings r

end Stream

def ofBytes (bytes : List UInt8) : List Reading :=
  Stream.start.readings (chunks chunkSize bytes)

end LineShell.Input
