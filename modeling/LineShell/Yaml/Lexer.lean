import LineShell.Yaml.Name

namespace LineShell.Yaml

structure KeySpot where
  /-- The number of its first token. -/
  token : Nat
  /-- Whether it has to be a key, because nothing else can start at this depth. -/
  required : Bool
  index : Nat
  line : Nat
  column : Nat
deriving Repr, DecidableEq

structure Lexer where
  cursor : Cursor
  tokens : Array Token
  /-- How many brackets are open. -/
  flow : Nat
  /-- The depth of the block collection around; the document itself has depth -1. -/
  indent : Int
  /-- The depths of the collections around that one. -/
  outer : List Int
  keyAllowed : Bool
  /-- At most one spot for each number of open brackets. -/
  spots : List (Nat × KeySpot)

namespace Lexer

def ofCursor (c : Cursor) : Lexer := ⟨c, #[], 0, -1, [], true, []⟩

def inFlow (s : Lexer) : Bool := s.flow != 0

def push (s : Lexer) (t : Token) : Lexer := { s with tokens := s.tokens.push t }

def maxKeyLength : Nat := 1024

/-- Spaces, comments and ends of lines skipped. After an end of line in a block, a key may
start. -/
def skipGaps : (budget : Nat) → Lexer → Lexer
  | 0, s => s
  | n + 1, s =>
    let c := s.cursor.skip (· == ' ')
    let c := if c.here = '#' then c.skip (!isBreakOrEnd ·) else c
    match c.lineBreak with
    | some (_, c) =>
      skipGaps n { s with cursor := c, keyAllowed := s.keyAllowed || !s.inFlow }
    | none => { s with cursor := c }

def dropStale (s : Lexer) : Reads Lexer := do
  let fresh (spot : KeySpot) : Bool :=
    spot.line == s.cursor.line && s.cursor.index - spot.index ≤ maxKeyLength
  require (s.spots.all fun e => fresh e.2 || !e.2.required)
  return { s with spots := s.spots.filter fun e => fresh e.2 }

def dropSpot (s : Lexer) : Reads Lexer := do
  require (s.spots.all fun e => e.1 != s.flow || !e.2.required)
  return { s with spots := s.spots.filter fun e => e.1 != s.flow }

def saveSpot (s : Lexer) : Reads Lexer := do
  if s.keyAllowed then
    let s ← s.dropSpot
    let c := s.cursor
    let required := !s.inFlow && s.indent == (c.column : Int)
    let spot : KeySpot := ⟨s.tokens.size, required, c.index, c.line, c.column⟩
    return { s with spots := (s.flow, spot) :: s.spots }
  else return s

def unwindFrom (column : Int) : (outer : List Int) → Lexer → Lexer
  | [], s => s
  | d :: r, s =>
    if s.indent > column then unwindFrom column r { s.push .blockEnd with indent := d, outer := r }
    else s

/-- Ends the block collections that are deeper than a column, unless a bracket is open. -/
def unwind (column : Int) (s : Lexer) : Lexer :=
  if s.inFlow then s else unwindFrom column s.outer s

def insertAt (place : Nat) (t : Token) (ts : Array Token) : Array Token :=
  let ts := ts.toList
  (ts.take place ++ t :: ts.drop place).toArray

/-- Starts a block collection at a column, if none goes on there. The token is put in as the one
with the number `place`. -/
def indentTo (column place : Nat) (t : Token) (s : Lexer) : Lexer :=
  if s.indent < (column : Int) then
    { s with
      outer := s.indent :: s.outer
      indent := column
      tokens := insertAt place t s.tokens }
  else s

def indentHere (t : Token) (s : Lexer) : Reads Lexer := do
  if s.inFlow then return s
  else
    require s.keyAllowed
    return s.indentTo s.cursor.column s.tokens.size t

def mark (t : Token) (n : Nat) (s : Lexer) : Lexer :=
  { s.push t with cursor := s.cursor.forward n }

def boundary (s : Lexer) : Reads Lexer := do
  let s ← (s.unwind (-1)).dropSpot
  return { s with keyAllowed := false }

def openBracket (t : Token) (s : Lexer) : Reads Lexer := do
  let s ← s.saveSpot
  return { s.mark t 1 with flow := s.flow + 1, keyAllowed := true }

def closeBracket (t : Token) (s : Lexer) : Reads Lexer := do
  require s.inFlow
  let s ← s.dropSpot
  return { s.mark t 1 with flow := s.flow - 1, keyAllowed := false }

def flowEntry (s : Lexer) : Reads Lexer := do
  let s ← s.dropSpot
  return { s.mark .flowEntry 1 with keyAllowed := true }

def blockEntry (s : Lexer) : Reads Lexer := do
  let s ← s.indentHere .blockSequence
  let s ← s.dropSpot
  return { s.mark .blockEntry 1 with keyAllowed := true }

def markedKey (s : Lexer) : Reads Lexer := do
  let s ← s.indentHere .blockMapping
  let s ← s.dropSpot
  return { s.mark .key 1 with keyAllowed := !s.inFlow }

def value (s : Lexer) : Reads Lexer := do
  match s.spots.lookup s.flow with
  | some spot =>
    let s := { s with
      spots := s.spots.filter fun e => e.1 != s.flow
      tokens := insertAt spot.token .key s.tokens
      keyAllowed := false }
    let s := if s.inFlow then s else s.indentTo spot.column spot.token .blockMapping
    return s.mark .value 1
  | none =>
    let s ← s.indentHere .blockMapping
    let s ← s.dropSpot
    return { s.mark .value 1 with keyAllowed := !s.inFlow }

def possibleKey (read : Cursor → Reads (Token × Cursor)) (s : Lexer) : Reads Lexer := do
  let s ← s.saveSpot
  let (t, c) ← read s.cursor
  return { s.push t with cursor := c, keyAllowed := false }

def reference (c : Cursor) : Reads (Token × Cursor) := do
  let (name, c) ← Name.anchor c.next
  return (.reference name, c)

def anchor (c : Cursor) : Reads (Token × Cursor) := do
  let (name, c) ← Name.anchor c.next
  return (.anchor name, c)

def tag (c : Cursor) : Reads (Token × Cursor) := do
  let (handle, suffix, c) ← Name.tag c
  return (.tag handle suffix, c)

def quoted (c : Cursor) : Reads (Token × Cursor) := do
  let (text, c') ← Scalar.quoted (c.here == '"') (c.rest.length + 1) c.next
  return (.scalar text false, c')

def blockScalar (s : Lexer) : Reads Lexer := do
  let s ← s.dropSpot
  let (text, c) ← Scalar.block (s.cursor.here == '>') s.indent s.cursor.next
  return { s.push (.scalar text false) with cursor := c, keyAllowed := true }

/-- A plain scalar. If a line ended in it, a key may start after it. -/
def plainScalar (s : Lexer) : Reads Lexer := do
  let s ← s.saveSpot
  let c := s.cursor
  let (text, c, ended) := Scalar.plain s.inFlow (s.indent + 1) (c.rest.length + 1) [] c
  return { s.push (.scalar text true) with cursor := c, keyAllowed := ended.getD false }

def directive (s : Lexer) : Reads Lexer := do
  let s ← s.boundary
  let (d, c) ← Name.directive s.cursor.next
  return { s.push (.directive d) with cursor := c }

def startsPlain (s : Lexer) : Bool :=
  let c := s.cursor.here
  let marks := "-?:,[]\x7b\x7d#&*!|>'\"%@`".toList
  (!isGap c && !marks.contains c) ||
    (!isGap (s.cursor.peek 1) && (c == '-' || (!s.inFlow && (c == '?' || c == ':'))))

def tokenHere (s : Lexer) : Reads Lexer :=
  let c := s.cursor.here
  let alone := isGap (s.cursor.peek 1)
  if c = '%' ∧ s.cursor.column = 0 then s.directive
  else if s.cursor.column = 0 ∧ s.cursor.atDocumentMark then do
    let s ← s.boundary
    return s.mark (if c = '-' then .documentStart else .documentEnd) 3
  else if c = '[' then s.openBracket .flowSequence
  else if c = '\x7b' then s.openBracket .flowMapping
  else if c = ']' then s.closeBracket .flowSequenceEnd
  else if c = '\x7d' then s.closeBracket .flowMappingEnd
  else if c = ',' then s.flowEntry
  else if c = '-' ∧ alone then s.blockEntry
  else if c = '?' ∧ (s.inFlow ∨ alone) then s.markedKey
  else if c = ':' ∧ (s.inFlow ∨ alone) then s.value
  else if c = '*' then s.possibleKey reference
  else if c = '&' then s.possibleKey anchor
  else if c = '!' then s.possibleKey tag
  else if (c = '|' ∨ c = '>') ∧ !s.inFlow then s.blockScalar
  else if c = '\'' ∨ c = '"' then s.possibleKey quoted
  else if s.startsPlain then s.plainScalar
  else malformed

/-- Reads the token that starts here. Whether it ends shows only after it. -/
def token (s : Lexer) : Reads Lexer := do
  let s ← s.tokenHere
  s.cursor.arrive
  return s

def approach (s : Lexer) : Reads Lexer := do
  let s := s.skipGaps (s.cursor.rest.length + 1)
  s.cursor.arrive
  let s ← s.dropStale
  return s.unwind s.cursor.column

def settled (s : Lexer) : List Token :=
  s.tokens.toList.take (s.spots.foldl (fun n e => min n e.2.token) s.tokens.size)

def run : (budget : Nat) → Lexer → List Token
  | 0, s => s.settled ++ [.broken .malformed]
  | n + 1, s =>
    match s.approach with
    | .error f => s.settled ++ [.broken f]
    | .ok near =>
      if near.cursor.here = endMark then
        match near.boundary with
        | .error f => s.settled ++ [.broken f]
        | .ok s => s.tokens.toList ++ [.streamEnd]
      else
        match near.token with
        | .error f => s.settled ++ [.broken f]
        | .ok s => run n s

end Lexer

/-- The tokens from a cursor on. A byte order mark in front is no part of them. -/
def tokens (c : Cursor) : List Token :=
  let c := if c.here = '\uFEFF' then c.next else c
  (Lexer.ofCursor c).run (c.rest.length + 1)

end LineShell.Yaml
