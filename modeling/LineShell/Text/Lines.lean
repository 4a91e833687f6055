import LineShell.Text.Pieces

namespace LineShell.Text

/-- A reader that makes line ends uniform. `held` says that the last character was a carriage
return, whose line feed may still come. The text is kept in reverse. -/
structure NewlineReader where
  held : Bool
  reversed : List Char
deriving Repr, DecidableEq

namespace NewlineReader

def start : NewlineReader := ⟨false, []⟩

def push (s : NewlineReader) (c : Char) : NewlineReader :=
  if c = '\r' then ⟨true, if s.held then '\n' :: s.reversed else s.reversed⟩
  else if c = '\n' then ⟨false, '\n' :: s.reversed⟩
  else ⟨false, c :: if s.held then '\n' :: s.reversed else s.reversed⟩

def feed (s : NewlineReader) (chunk : List Char) : NewlineReader :=
  chunk.foldl push s

theorem feed_append (s : NewlineReader) (a b : List Char) :
    s.feed (a ++ b) = (s.feed a).feed b := by
  simp [feed, List.foldl_append]

def text (s : NewlineReader) : List Char := s.reversed.reverse

def finish (s : NewlineReader) : List Char :=
  (if s.held then '\n' :: s.reversed else s.reversed).reverse

end NewlineReader

def uniformNewlines (s : List Char) : List Char :=
  (NewlineReader.start.feed s).finish

def isLineEnd (c : Char) : Bool :=
  c == '\n' || c == '\x0b' || c == '\x0c' || c == '\x1c' || c == '\x1d' || c == '\x1e' ||
    c == '\x85' || c == '\u2028' || c == '\u2029'

/-- The lines of a text whose lines end at `p`; what follows the last end is a line if it is not
empty. -/
def linesAt (p : Char → Bool) (s : List Char) : List (List Char) :=
  let all := pieces p s
  if all.getLast? = some [] then all.dropLast else all

def lines (s : List Char) : List (List Char) := linesAt isLineEnd s

end LineShell.Text
