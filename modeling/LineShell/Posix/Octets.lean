import LineShell.Text.Utf8

namespace LineShell.Posix

abbrev Octets := List Char

namespace Octets

def ofBytes (bytes : List UInt8) : Octets := bytes.map fun b => Char.ofNat b.toNat

def toBytes (s : Octets) : List UInt8 := s.map fun c => UInt8.ofNat c.toNat

def ofText (s : String) : Octets := ofBytes (Text.Utf8.encode s.toList)

def toText (s : Octets) : String := String.ofList (Text.Utf8.decodeLossy (toBytes s))

def isUpTo : Octets → Octets → Bool
  | [], _ => true
  | _ :: _, [] => false
  | a :: s, b :: t => decide (a.toNat < b.toNat) || (a == b && isUpTo s t)

def ofNat (n : Nat) : Octets := (toString n).toList

def ofInt (n : Int) : Octets := (toString n).toList

def digit? (base : Nat) (c : Char) : Option Nat :=
  let v :=
    if '0' ≤ c ∧ c ≤ '9' then c.toNat - 48
    else if 'a' ≤ c ∧ c ≤ 'f' then c.toNat - 87
    else if 'A' ≤ c ∧ c ≤ 'F' then c.toNat - 55
    else 16
  if v < base then some v else none

def isDigit (base : Nat) (c : Char) : Bool := (digit? base c).isSome

def digitsAtFront (base : Nat) (s : Octets) : Nat × Octets :=
  ((s.takeWhile (isDigit base)).foldl (fun n c => n * base + (digit? base c).getD 0) 0,
    s.dropWhile (isDigit base))

def natOfDigits? (base : Nat) (s : Octets) : Option Nat :=
  match s, digitsAtFront base s with
  | _ :: _, (n, []) => some n
  | _, _ => none

/-- The number at the front as arithmetic reads it, and what follows: decimal, or octal or
hexadecimal by its first digits. -/
def numeralAtFront (s : Octets) : Nat × Octets :=
  match s with
  | '0' :: r =>
    match r with
    | x :: d :: r =>
      if (x = 'x' ∨ x = 'X') ∧ isDigit 16 d then digitsAtFront 16 (d :: r)
      else digitsAtFront 8 s
    | _ => digitsAtFront 8 s
  | s => digitsAtFront 10 s

def natOfNumeral? (s : Octets) : Option Nat :=
  match s, numeralAtFront s with
  | _ :: _, (n, []) => some n
  | _, _ => none

def signed? (read : Octets → Option Nat) : Octets → Option Int
  | '-' :: r => (read r).map fun n => -(n : Int)
  | '+' :: r => (read r).map Int.ofNat
  | s => (read s).map Int.ofNat

def intOfNumeral? (s : Octets) : Option Int := signed? natOfNumeral? s

def intOfDecimal? (s : Octets) : Option Int :=
  let trim (s : Octets) : Octets := s.dropWhile (· == ' ')
  signed? (natOfDigits? 10) (trim (trim s.reverse).reverse)

/-- A text as a script writes it down: in quotation marks that leave nothing in it a meaning. -/
def quoted (s : Octets) : Octets :=
  go (s.length + 1) s
where
  go : (budget : Nat) → Octets → Octets
    | 0, _ => []
    | n + 1, s =>
      let plain := s.takeWhile (· ≠ '\'')
      let rest := s.dropWhile (· ≠ '\'')
      let marks := rest.takeWhile (· == '\'')
      let rest := rest.dropWhile (· == '\'')
      '\'' :: plain ++ ['\''] ++
        (if marks.isEmpty then [] else '"' :: marks ++ ['"']) ++
        if rest.isEmpty then [] else go n rest

def isNameStart (c : Char) : Bool := c == '_' || c.isAlpha

def isNameChar (c : Char) : Bool := isNameStart c || c.isDigit

def isName (s : Octets) : Bool := s.head?.any isNameStart && s.all isNameChar

end Octets

end LineShell.Posix
