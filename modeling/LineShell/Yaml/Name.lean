import LineShell.Text.Utf8
import LineShell.Yaml.Scalar
import LineShell.Yaml.Token

namespace LineShell.Yaml.Name

def isNameChar (c : Char) : Bool := c.isAlphanum || c == '-' || c == '_'

def tagMarks : List Char := "-;/?:@&=+$,_.!~*'()[]%".toList

def isTagChar (c : Char) : Bool := c.isAlphanum || tagMarks.contains c

def name (c : Cursor) : Reads (String × Cursor) := do
  let (s, c) := c.span isNameChar
  c.require !s.isEmpty
  return (String.ofList s, c)

def anchor (c : Cursor) : Reads (String × Cursor) := do
  let (s, c) ← name c
  c.require (isGap c.here || "?:,]\x7d%@`".toList.contains c.here)
  return (s, c)

def escapedBytes : (budget : Nat) → Cursor → Reads (List UInt8 × Cursor)
  | 0, _ => malformed
  | n + 1, c => do
    if c.here = '%' then
      let (b, c) ← Scalar.hexNumber 2 c.next
      let (bs, c) ← escapedBytes n c
      return (UInt8.ofNat b :: bs, c)
    else return ([], c)

/-- Reads the characters of a tag. Escapes spell out the bytes of characters. -/
def tagText : (budget : Nat) → Cursor → Reads (List Char × Cursor)
  | 0, _ => malformed
  | n + 1, c =>
    if c.here = '%' then do
      let (bytes, c) ← escapedBytes (c.rest.length + 1) c
      match Text.Utf8.decode bytes with
      | .error _ => malformed
      | .ok s =>
        let (t, c) ← tagText n c
        return (s ++ t, c)
    else if isTagChar c.here then do
      let (s, c) := c.span fun x => isTagChar x && x != '%'
      let (t, c) ← tagText n c
      return (s ++ t, c)
    else return ([], c)

def tagSuffix (c : Cursor) : Reads (String × Cursor) := do
  c.require (isTagChar c.here)
  let (s, c) ← tagText (c.rest.length + 1) c
  return (String.ofList s, c)

def handle (c : Cursor) : Reads (String × Cursor) := do
  c.require (c.here == '!')
  if c.peek 1 = ' ' then return ("!", c.next)
  else
    let (s, c) := c.next.span isNameChar
    c.require (c.here == '!')
    return (String.ofList ('!' :: s ++ ['!']), c.next)

def hasHandle (c : Cursor) : Bool :=
  (c.next.rest.takeWhile fun x => !isSpaceOrEnd x).contains '!'

def tag (c : Cursor) : Reads (Option String × String × Cursor) := do
  let (h, s, c) ←
    if c.peek 1 = '<' then do
      let (s, c) ← tagSuffix (c.forward 2)
      c.require (c.here == '>')
      pure (none, s, c.next)
    else if isGap (c.peek 1) then pure (none, "!", c.next)
    else do
      let (h, c) ← if hasHandle c then handle c else pure ("!", c.next)
      let (s, c) ← tagSuffix c
      pure (some h, s, c)
  c.require (isSpaceOrEnd c.here)
  return (h, s, c)

def number (c : Cursor) : Reads (Nat × Cursor) := do
  let (s, c) := c.span Char.isDigit
  c.require !s.isEmpty
  return (s.foldl (fun n d => n * 10 + (d.toNat - 48)) 0, c)

def directive (c : Cursor) : Reads (Directive × Cursor) := do
  let spaces (c : Cursor) : Cursor := c.skip (· == ' ')
  let (s, c) ← name c
  c.require (isSpaceOrEnd c.here)
  let (d, c) ←
    if s = "YAML" then do
      let (major, c) ← number (spaces c)
      c.require (c.here == '.')
      let (_, c) ← number c.next
      c.require (isSpaceOrEnd c.here)
      pure (Directive.version major, c)
    else if s = "TAG" then do
      let (h, c) ← handle (spaces c)
      c.require (c.here == ' ')
      let (meaning, c) ← tagSuffix (spaces c)
      c.require (isSpaceOrEnd c.here)
      pure (.handle h meaning, c)
    else pure (.other, c.skip (!isBreakOrEnd ·))
  return (d, ← c.restOfLine)

end LineShell.Yaml.Name
