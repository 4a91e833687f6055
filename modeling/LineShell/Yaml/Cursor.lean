import LineShell.Yaml.Failure

namespace LineShell.Yaml

def endMark : Char := '\x00'

def isBreak (c : Char) : Bool :=
  c == '\n' || c == '\r' || c == '\x85' || c == '\u2028' || c == '\u2029'

def isBreakOrEnd (c : Char) : Bool := c == endMark || isBreak c

def isSpaceOrEnd (c : Char) : Bool := c == ' ' || isBreakOrEnd c

def isGap (c : Char) : Bool := c == '\t' || isSpaceOrEnd c

def isReadable (c : Char) : Bool :=
  let n := c.toNat
  n == 9 || n == 10 || n == 13 || (0x20 ≤ n && n ≤ 0x7E) || n == 0x85 ||
    (0xA0 ≤ n && n ≤ 0xD7FF) || (0xE000 ≤ n && n ≤ 0xFFFD) || 0x10000 ≤ n

structure Cursor where
  rest : List Char
  /-- Why the text is cut off, if it is. -/
  beyond : Option Failure
  index : Nat
  line : Nat
  column : Nat
deriving Repr, DecidableEq

namespace Cursor

def ofText (text : List Char) (beyond : Option Failure) : Cursor := ⟨text, beyond, 0, 0, 0⟩

def arrive (c : Cursor) : Reads Unit :=
  match c.rest, c.beyond with
  | [], some f => .error f
  | _, _ => .ok ()

def stuck {α : Type} (c : Cursor) : Reads α := do
  c.arrive
  malformed

def require (c : Cursor) (p : Bool) : Reads Unit := if p then .ok () else c.stuck

def peek (c : Cursor) (k : Nat) : Char := (c.rest.drop k).headD endMark

def here (c : Cursor) : Char := c.rest.headD endMark

def next (c : Cursor) : Cursor :=
  match c.rest with
  | [] => c
  | x :: r =>
    let breaks := x == '\n' || x == '\x85' || x == '\u2028' || x == '\u2029' ||
      (x == '\r' && r.headD endMark != '\n')
    if breaks then ⟨r, c.beyond, c.index + 1, c.line + 1, 0⟩
    else ⟨r, c.beyond, c.index + 1, c.line, if x == '\uFEFF' then c.column else c.column + 1⟩

def forward : (n : Nat) → Cursor → Cursor
  | 0, c => c
  | n + 1, c => forward n c.next

def span (p : Char → Bool) (c : Cursor) : List Char × Cursor :=
  let s := c.rest.takeWhile p
  (s, c.forward s.length)

def skip (p : Char → Bool) (c : Cursor) : Cursor := (c.span p).2

/-- The end of a line here, if there is one. The common ends of lines all read as a line feed. -/
def lineBreak (c : Cursor) : Option (Char × Cursor) :=
  match c.here, c.peek 1 with
  | '\r', '\n' => some ('\n', c.forward 2)
  | '\r', _ | '\n', _ | '\x85', _ => some ('\n', c.next)
  | '\u2028', _ => some ('\u2028', c.next)
  | '\u2029', _ => some ('\u2029', c.next)
  | _, _ => none

def skipBreak (c : Cursor) : Cursor := (c.lineBreak.map (·.2)).getD c

def atDocumentMark (c : Cursor) : Bool :=
  (c.rest.take 3 == ['-', '-', '-'] || c.rest.take 3 == ['.', '.', '.']) && isGap (c.peek 3)

def restOfLine (c : Cursor) : Reads Cursor := do
  let c := c.skip (· == ' ')
  let c := if c.here == '#' then c.skip (!isBreakOrEnd ·) else c
  c.require (isBreakOrEnd c.here)
  return c.skipBreak

end Cursor

end LineShell.Yaml
