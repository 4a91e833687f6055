import LineShell.Text.Hex
import LineShell.Yaml.Cursor
import LineShell.Yaml.Failure

namespace LineShell.Yaml.Scalar

def hexValue (c : Char) : Option Nat := Text.hexValue c.toLower

def hexNumber (n : Nat) (c : Cursor) : Reads (Nat × Cursor) := do
  let ds := (c.rest.take n).takeWhile fun d => (hexValue d).isSome
  let c := c.forward ds.length
  c.require (ds.length == n)
  return (ds.foldl (fun v d => v * 16 + (hexValue d).getD 0) 0, c)

def charOfNumber (n : Nat) : Reads Char :=
  if n > 0x7FFFFFFF then .error (.fault (.character true))
  else if n > 0x10FFFF then .error (.fault (.character false))
  else if 0xD800 ≤ n ∧ n ≤ 0xDFFF then .error (.fault (.surrogate n))
  else .ok (Char.ofNat n)

def escapes : List (Char × Char) :=
  [('0', '\x00'), ('a', '\x07'), ('b', '\x08'), ('t', '\t'), ('\t', '\t'), ('n', '\n'),
    ('v', '\x0b'), ('f', '\x0c'), ('r', '\r'), ('e', '\x1b'), (' ', ' '), ('"', '"'),
    ('\\', '\\'), ('/', '/'), ('N', '\x85'), ('_', '\xa0'), ('L', '\u2028'), ('P', '\u2029')]

def numberEscapes : List (Char × Nat) := [('x', 2), ('u', 4), ('U', 8)]

def quotedBreaks : (budget : Nat) → Cursor → Reads (List Char × Cursor)
  | 0, _ => malformed
  | n + 1, c => do
    c.require (!c.atDocumentMark)
    let c := c.skip fun x => x == ' ' || x == '\t'
    match c.lineBreak with
    | some (b, c) => do
      let (bs, c) ← quotedBreaks n c
      return (b :: bs, c)
    | none => return ([], c)

def fold (first : Char) (others : List Char) : List Char :=
  if first ≠ '\n' then first :: others else if others.isEmpty then [' '] else others

def quoted (double : Bool) : (budget : Nat) → Cursor → Reads (List Char × Cursor)
  | 0, _ => malformed
  | n + 1, c => do
    let x := c.here
    let more (s : List Char) (c : Cursor) : Reads (List Char × Cursor) := do
      let (t, c) ← quoted double n c
      return (s ++ t, c)
    if x = '\'' ∧ !double then
      if c.peek 1 = '\'' then more ['\''] (c.forward 2) else return ([], c.next)
    else if x = '"' ∧ double then return ([], c.next)
    else if x = '\\' ∧ double then
      let c := c.next
      let y := c.here
      match escapes.lookup y, numberEscapes.lookup y with
      | some z, _ => more [z] c.next
      | none, some digits => do
        let (number, c) ← hexNumber digits c.next
        more [← charOfNumber number] c
      | none, none =>
        match c.lineBreak with
        | some (_, c) => do
          let (bs, c) ← quotedBreaks (c.rest.length + 1) c
          more bs c
        | none => c.stuck
    else if x = ' ' ∨ x = '\t' ∨ isBreak x ∨ x = endMark then do
      let (blanks, c) := c.span fun x => x == ' ' || x == '\t'
      c.require (c.here != endMark)
      match c.lineBreak with
      | some (b, c) => do
        let (bs, c) ← quotedBreaks (c.rest.length + 1) c
        more (fold b bs) c
      | none => more blanks c
    else more [x] c.next

def endsPlain (inFlow : Bool) (c : Cursor) (k : Nat) : Bool :=
  let x := c.peek k
  let y := c.peek (k + 1)
  isGap x ||
    (x == ':' && (isGap y || (inFlow && ",[]\x7b\x7d".toList.contains y))) ||
    (inFlow && ",?[]\x7b\x7d".toList.contains x)

def plainLength (inFlow : Bool) (c : Cursor) : (budget : Nat) → (k : Nat) → Nat
  | 0, k => k
  | n + 1, k => if endsPlain inFlow c k then k else plainLength inFlow c n (k + 1)

/-- The ends of lines after the first one inside a plain scalar; nothing if a document ends
there. -/
def plainBreaks : (budget : Nat) → Cursor → Option (List Char) × Cursor
  | 0, c => (none, c)
  | n + 1, c =>
    if c.here = ' ' then plainBreaks n c.next
    else match c.lineBreak with
      | none => (some [], c)
      | some (b, c) =>
        if c.atDocumentMark then (none, c)
        else
          let (bs, c) := plainBreaks n c
          (bs.map (b :: ·), c)

/-- The blanks and ends of lines inside a plain scalar, what they become, and whether a line
ended. -/
def plainSpaces (c : Cursor) : List Char × Cursor × Bool :=
  let (blanks, c) := c.span (· == ' ')
  match c.lineBreak with
  | none => (blanks, c, false)
  | some (b, c) =>
    if c.atDocumentMark then ([], c, true)
    else match plainBreaks (c.rest.length + 1) c with
      | (none, c) => ([], c, true)
      | (some bs, c) => (fold b bs, c, true)

/-- Reads a plain scalar whose lines are indented by at least `indent`. `pending` is what the
blanks before become if it goes on. The last component says whether a line ended in it. -/
def plain (inFlow : Bool) (indent : Int) :
    (budget : Nat) → (pending : List Char) → Cursor → List Char × Cursor × Option Bool
  | 0, _, c => ([], c, none)
  | n + 1, pending, c =>
    if c.here = '#' then ([], c, none)
    else
      let length := plainLength inFlow c (c.rest.length + 1) 0
      if length = 0 then ([], c, none)
      else
        let text := c.rest.take length
        let (spaces, c, ended) := plainSpaces (c.forward length)
        if spaces.isEmpty ∨ c.here = '#' ∨ (!inFlow ∧ (c.column : Int) < indent) then
          (pending ++ text, c, some ended)
        else
          let (more, c, later) := plain inFlow indent n spaces c
          (pending ++ text ++ more, c, some (later.getD ended))

/-- How the ends of lines after the last line of a block are treated. -/
inductive Chomping where
  | strip
  | clip
  | keep
deriving Repr, DecidableEq

def blockHeader (c : Cursor) : Reads (Chomping × Option Nat × Cursor) := do
  let chomp (x : Char) : Option Chomping :=
    if x = '+' then some .keep else if x = '-' then some .strip else none
  let depth (x : Char) : Option Nat := if x.isDigit then some (x.toNat - 48) else none
  let (chomping, increment, c) :=
    match chomp c.here, depth c.here with
    | some k, _ =>
      match depth c.next.here with
      | some d => (k, some d, c.forward 2)
      | none => (k, none, c.next)
    | none, some d =>
      match chomp c.next.here with
      | some k => (k, some d, c.forward 2)
      | none => (.clip, some d, c.next)
    | none, none => (Chomping.clip, none, c)
  require (increment != some 0)
  c.require (isSpaceOrEnd c.here)
  let c ← c.restOfLine
  return (chomping, increment, c)

/-- The ends of lines before the first line of a block, and the deepest indentation there. -/
def blockIndentation : (budget : Nat) → (deepest : Nat) → Cursor → List Char × Nat × Cursor
  | 0, deepest, c => ([], deepest, c)
  | n + 1, deepest, c =>
    match c.lineBreak with
    | some (b, c) =>
      let (bs, deepest, c) := blockIndentation n deepest c
      (b :: bs, deepest, c)
    | none =>
      if c.here = ' ' then blockIndentation n (max deepest c.next.column) c.next
      else ([], deepest, c)

def skipIndent (indent : Nat) (c : Cursor) : Cursor :=
  c.forward (min (indent - c.column) (c.rest.takeWhile (· == ' ')).length)

def blockBreaks (indent : Nat) : (budget : Nat) → Cursor → List Char × Cursor
  | 0, c => ([], c)
  | n + 1, c =>
    let c := skipIndent indent c
    match c.lineBreak with
    | none => ([], c)
    | some (b, c) =>
      let (bs, c) := blockBreaks indent n c
      (b :: bs, c)

/-- The lines of a block: its text up to the last line, the end of that line, and the ends of empty
lines after it. -/
def blockLines (folded : Bool) (indent : Nat) :
    (budget : Nat) → (breaks : List Char) → Cursor → List Char × List Char × List Char × Cursor
  | 0, breaks, c => ([], [], breaks, c)
  | n + 1, breaks, c =>
    if c.column = indent ∧ c.here ≠ endMark then
      let leading := c.here ≠ ' ' ∧ c.here ≠ '\t'
      let (text, c) := c.span (!isBreakOrEnd ·)
      let (end?, c) : Option Char × Cursor :=
        match c.lineBreak with
        | some (b, c) => (some b, c)
        | none => (none, c)
      let (after, c) := blockBreaks indent (c.rest.length + 1) c
      if c.column = indent ∧ c.here ≠ endMark then
        let between :=
          if folded ∧ end? = some '\n' ∧ leading ∧ c.here ≠ ' ' ∧ c.here ≠ '\t' then
            if after.isEmpty then [' '] else []
          else end?.toList
        let (more, last, breaks', c) := blockLines folded indent n after c
        (breaks ++ text ++ between ++ more, last, breaks', c)
      else (breaks ++ text, end?.toList, after, c)
    else ([], [], breaks, c)

/-- Reads a block after its indicator, where the collection around it is indented by `parent`. -/
def block (folded : Bool) (parent : Int) (c : Cursor) : Reads (List Char × Cursor) := do
  let (chomping, increment, c) ← blockHeader c
  let least := max (parent + 1) 1
  let (breaks, indent, c) :=
    match increment with
    | none =>
      let (breaks, deepest, c) := blockIndentation (c.rest.length + 1) 0 c
      (breaks, max least.toNat deepest, c)
    | some d =>
      let indent := (least + d - 1).toNat
      let (breaks, c) := blockBreaks indent (c.rest.length + 1) c
      (breaks, indent, c)
  let (text, last, breaks, c) := blockLines folded indent (c.rest.length + 1) breaks c
  let tail :=
    match chomping with
    | .strip => []
    | .clip => last
    | .keep => last ++ breaks
  return (text ++ tail, c)

end LineShell.Yaml.Scalar
