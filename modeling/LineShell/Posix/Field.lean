import LineShell.Posix.Pattern

namespace LineShell.Posix.Field

/-- A line that has been read. A character after a backslash is one that does not act. -/
structure Line where
  glyphs : Pattern
  /-- How many bytes have been taken. -/
  count : Nat
  /-- Whether the line has an end. -/
  isEnded : Bool
deriving Repr, DecidableEq

def Line.cons (l : Line) (c : Char) (active : Bool) (count : Nat) : Line :=
  { l with glyphs := ⟨c, active⟩ :: l.glyphs, count := l.count + count }

/-- The first line of what is left to read. Without `raw`, a backslash takes the next character as
it is, and joins lines. -/
def line (raw : Bool) : Octets → Line
  | [] => ⟨[], 0, false⟩
  | '\n' :: _ => ⟨[], 1, true⟩
  | '\x00' :: r => let l := line raw r; { l with count := l.count + 1 }
  | '\\' :: r =>
    if raw then (line raw r).cons '\\' true 1
    else match r with
      | [] => ⟨[], 1, false⟩
      | '\n' :: r => let l := line raw r; { l with count := l.count + 2 }
      | c :: r => (line raw r).cons c false 2
  | c :: r => (line raw r).cons c true 1

structure Progress where
  /-- The fields that are complete, the last first. -/
  ended : List Octets
  /-- The field begun, backwards. -/
  begun : Octets
  /-- How many fields there may still be, with the one begun. -/
  left : Nat
  /-- Whether white space has just ended a field. -/
  afterGap : Bool
  /-- In the last field, how much of it stays if nothing but white space follows. -/
  kept : Option Nat

namespace Progress

def add (p : Progress) (c : Char) : Progress := { p with begun := c :: p.begun }

/-- Takes one more character into the last field. A single separator may end it, if nothing but
white space is around. -/
def addLast (p : Progress) (separates isGap : Bool) (c : Char) : Progress :=
  if isGap then { p.add c with kept := some (p.kept.getD p.begun.length) }
  else { p.add c with kept := if separates && p.afterGap then p.kept else none, afterGap := false }

def step (separators : Octets) (p : Progress) (g : Glyph) : Progress :=
  let separates := separators.contains g.char
  let isGap := separates && (g.char == ' ' || g.char == '\t' || g.char == '\n')
  if !g.active then { p.add g.char with afterGap := false }
  else if p.left = 0 then p.addLast separates isGap g.char
  else if p.afterGap then
    if isGap then p
    else if separates then { p with afterGap := false }
    else { p.add g.char with afterGap := false }
  else if !separates then p.add g.char
  else if isGap && p.begun.isEmpty then p
  else if p.left = 1 then
    { p.add g.char with left := 0, afterGap := isGap, kept := some p.begun.length }
  else
    { p with
      ended := p.begun.reverse :: p.ended
      begun := []
      left := p.left - 1
      afterGap := isGap }

def fields (p : Progress) : List Octets :=
  let last := p.begun.reverse
  (((p.kept.map fun n => last.take n).getD last) :: p.ended).reverse

end Progress

def read (separators : Octets) (count : Nat) (p : Pattern) : List Octets :=
  let fields := (p.foldl (Progress.step separators) ⟨[], [], count, false, none⟩).fields
  fields ++ List.replicate (count - fields.length) []

end LineShell.Posix.Field
