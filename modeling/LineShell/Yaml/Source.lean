import LineShell.Yaml.Cursor

namespace LineShell.Yaml

/-- How many characters are read at once. The first time it is two such blocks. -/
def blockSize : Nat := 4096

def blockStart (place : Nat) : Nat :=
  if place < 2 * blockSize then 0 else place / blockSize * blockSize

/-- The text before a place where reading fails. Its last character is not looked at, since the next
block would be read for that. -/
def cutAt (text : List Char) (start : Nat) (f : Failure) : Cursor :=
  .ofText (text.take (start - 1)) (some f)

/-- The start of a text. A block with a character that no document may hold fails as a whole, and
so does the last one if the text is not `whole`, since it cannot be read to its end. -/
def source (whole : Bool) (text : List Char) : Cursor :=
  let strange? := (text.findIdx? fun c => !isReadable c).map blockStart
  let last := blockStart text.length
  match whole, strange? with
  | true, none => .ofText text none
  | true, some start => cutAt text start .malformed
  | false, none => cutAt text last .unread
  | false, some start =>
    if start < last then cutAt text start .malformed else cutAt text last .unread

end LineShell.Yaml
