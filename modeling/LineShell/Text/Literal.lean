import LineShell.Text.Hex
import LineShell.Text.Printable

namespace LineShell.Text.Literal

def quoteFor (s : List Char) : Char :=
  if '\'' ∈ s ∧ '"' ∉ s then '"' else '\''

def escape (q c : Char) : List Char :=
  if c = q ∨ c = '\\' then ['\\', c]
  else if c = '\n' then ['\\', 'n']
  else if c = '\r' then ['\\', 'r']
  else if c = '\t' then ['\\', 't']
  else if isPrintable c then [c]
  else if c.toNat < 0x100 then '\\' :: 'x' :: hex 2 c.toNat
  else if c.toNat < 0x10000 then '\\' :: 'u' :: hex 4 c.toNat
  else '\\' :: 'U' :: hex 8 c.toNat

def ofText (s : List Char) : List Char :=
  let q := quoteFor s
  q :: s.flatMap (escape q) ++ [q]

def ofBytes (bytes : List UInt8) : List Char :=
  let s := bytes.map fun b => Char.ofNat b.toNat
  let q := quoteFor s
  let one (c : Char) : List Char :=
    if c.toNat < 0x80 then escape q c else '\\' :: 'x' :: hex 2 c.toNat
  'b' :: q :: s.flatMap one ++ [q]

def ofString (s : String) : String := String.ofList (ofText s.toList)

def ofStrings (ss : List String) : String :=
  "[" ++ String.intercalate ", " (ss.map ofString) ++ "]"

end LineShell.Text.Literal
