import LineShell.Input.Stream
import LineShell.Proofs.Text.Lines
import LineShell.Proofs.Text.Utf8

namespace LineShell.Input

open Text

def lineReadings (ls : List (List Char)) : List Reading :=
  ls.map fun l => .line (String.ofList l)

theorem lineReadings_append (a b : List (List Char)) :
    lineReadings (a ++ b) = lineReadings a ++ lineReadings b :=
  List.map_append

/-- The readings of a stream's text, if its bytes decode up to the end or up to a flaw. -/
def textReadings (begun : List Char) (reader : NewlineReader) : Option Utf8.Flaw → List Reading
  | none => lineReadings (linesAt (· == '\n') (begun ++ reader.finish))
  | some flaw =>
    lineReadings (pieces (· == '\n') (begun ++ reader.text)).dropLast ++
      [.failed (.undecodable flaw)]

namespace Stream

def Unfinished (s : Stream) : Prop := ∀ c ∈ s.begun, (c == '\n') = false

theorem unfinished_start : start.Unfinished := by
  simp [Unfinished, start]

def after (s : Stream) (text : List Char) (pending : Utf8.Pending) : Stream :=
  let reader := (NewlineReader.mk s.heldReturn []).feed text
  ⟨pending, reader.held, lastPiece (· == '\n') (s.begun ++ reader.text)⟩

theorem unfinished_after (s : Stream) (text : List Char) (pending : Utf8.Pending) :
    (s.after text pending).Unfinished :=
  not_of_mem_lastPiece _ _

theorem feed_eq_ok {s : Stream} {chunk : List UInt8} {text : List Char} {pending : Utf8.Pending}
    (h : s.pending.feed chunk = .ok (text, pending)) :
    s.feed chunk = .ok ((pieces (· == '\n')
      (s.begun ++ ((NewlineReader.mk s.heldReturn []).feed text).text)).dropLast,
        s.after text pending) := by
  rw [feed, h]
  rfl

/-- The lines that a chunk completes and the readings of what follows are the readings of the two
texts together. -/
theorem textReadings_append (s : Stream) (text more : List Char) (pending : Utf8.Pending)
    (flaw? : Option Utf8.Flaw) :
    textReadings s.begun ((NewlineReader.mk s.heldReturn []).feed (text ++ more)) flaw? =
      lineReadings (pieces (· == '\n')
        (s.begun ++ ((NewlineReader.mk s.heldReturn []).feed text).text)).dropLast ++
      textReadings (s.after text pending).begun
        ((NewlineReader.mk (s.after text pending).heldReturn []).feed more) flaw? := by
  cases flaw? with
  | none =>
    simp only [textReadings, after, NewlineReader.finish_eq, NewlineReader.text_feed_append,
      NewlineReader.held_feed_append]
    rw [← lineReadings_append, List.append_assoc, ← List.append_assoc s.begun, linesAt_append]
  | some flaw =>
    have hne := pieces_ne_nil (· == '\n') (lastPiece (· == '\n')
      (s.begun ++ ((NewlineReader.mk s.heldReturn []).feed text).text) ++
        ((NewlineReader.mk ((NewlineReader.mk s.heldReturn []).feed text).held []).feed more).text)
    simp only [textReadings, after, NewlineReader.text_feed_append]
    rw [← List.append_assoc s.begun, pieces_append, List.dropLast_append_of_ne_nil hne,
      lineReadings_append, List.append_assoc]

/-- A stream that fails before any more text has nothing more to give. -/
theorem textReadings_of_unfinished {s : Stream} (hs : s.Unfinished) (flaw : Utf8.Flaw) :
    textReadings s.begun ((NewlineReader.mk s.heldReturn []).feed []) (some flaw) =
      [.failed (.undecodable flaw)] := by
  have hb : s.begun ++ ((NewlineReader.mk s.heldReturn []).feed []).text = s.begun :=
    List.append_nil _
  rw [textReadings, hb, pieces_of_none _ _ hs]
  rfl

/-- The readings of a stream are those of the text that its chunks decode to. -/
theorem readings_eq {s : Stream} (hs : s.Unfinished) (chunks : List (List UInt8)) :
    s.readings chunks =
      textReadings s.begun
        ((NewlineReader.mk s.heldReturn []).feed (Utf8.decodeAfter s.pending chunks).1)
        (Utf8.decodeAfter s.pending chunks).2 := by
  -- that the line begun has no end is what makes a flaw give up no line
  induction chunks generalizing s with
  | nil =>
    rw [readings, Utf8.decodeAfter, finish]
    cases s.pending.finish with
    | error flaw => exact (textReadings_of_unfinished hs flaw).symm
    | ok _ =>
      have hf : ((NewlineReader.mk s.heldReturn []).feed []).finish =
          if s.heldReturn then ['\n'] else [] := NewlineReader.finish_eq _
      simp only [textReadings, hf]
      rfl
  | cons chunk r ih =>
    rw [readings, Utf8.decodeAfter]
    cases hp : s.pending.feed chunk with
    | error flaw =>
      rw [feed, hp]
      exact (textReadings_of_unfinished hs flaw).symm
    | ok decoded =>
      obtain ⟨text, pending⟩ := decoded
      rw [feed_eq_ok hp]
      dsimp only
      rw [ih (s.unfinished_after text pending), textReadings_append s text _ pending]
      rfl

end Stream

/-- A stream of well-formed bytes is read as the lines of its text. -/
theorem ofBytes_of_decode {bytes : List UInt8} {text : List Char}
    (h : Utf8.decode bytes = .ok text) :
    ofBytes bytes = lineReadings (linesAt (· == '\n') (uniformNewlines text)) := by
  rw [← flatten_chunks chunkSize (by decide) bytes] at h
  have hd := Utf8.decodeUpTo_of_decode h
  rw [Utf8.decodeUpTo] at hd
  rw [ofBytes, Stream.readings_eq Stream.unfinished_start]
  simp only [Stream.start, hd]
  rfl

end LineShell.Input
