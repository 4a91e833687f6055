import LineShell.Text.Hex

namespace LineShell.Text.Quoted

def number (n : Nat) : List Char :=
  if n < 16 then [hexDigit n] else [hexDigit (n / 16), hexDigit (n % 16)]

def escape (c : Char) : List Char :=
  if c = '"' ∨ c = '\\' then ['\\', c]
  else if c = '\x00' then ['\\', '0']
  else if c.toNat < 0x20 ∨ c.toNat = 0x7F then
    ['\\', 'u', '\x7b'] ++ number c.toNat ++ ['\x7d']
  else [c]

def body (s : List Char) : List Char := s.flatMap escape

def write (s : List Char) : List Char := '"' :: body s ++ ['"']

inductive Mode where
  | plain
  | escaped
  | number
  | digits (n : Nat)
deriving Repr, DecidableEq

def readBody : Mode → List Char → Option (List Char × List Char)
  | _, [] => none
  | .plain, c :: r =>
    if c = '"' then some ([], r)
    else if c = '\\' then readBody .escaped r
    else (readBody .plain r).map fun (s, t) => (c :: s, t)
  | .escaped, c :: r =>
    if c = '"' ∨ c = '\\' then (readBody .plain r).map fun (s, t) => (c :: s, t)
    else if c = '0' then (readBody .plain r).map fun (s, t) => ('\x00' :: s, t)
    else if c = 'u' then readBody .number r
    else none
  | .number, c :: r => if c = '\x7b' then readBody (.digits 0) r else none
  | .digits n, c :: r =>
    if c = '\x7d' then (readBody .plain r).map fun (s, t) => (Char.ofNat n :: s, t)
    else match hexValue c with
      | some d => readBody (.digits (n * 16 + d)) r
      | none => none

/-- Takes a quoted name off the front of a text, and gives the name and what follows it. -/
def read : List Char → Option (List Char × List Char)
  | '"' :: r => readBody .plain r
  | _ => none

def ofString (name : String) : String := String.ofList (write name.toList)

end LineShell.Text.Quoted
