import LineShell.Decimal.Places
import LineShell.Posix.Octets

namespace LineShell.Posix.Floating

open Decimal (Double)

/-- A number that has been read, what follows it, and whether it is beyond what can be held. -/
structure Reading where
  value : Double
  rest : Octets
  isBeyond : Bool
deriving Repr, DecidableEq

/-- Digits to a base with an optional point: their value, how many stand after the point, and what
follows. There has to be at least one. -/
def mantissa? (base : Nat) (s : Octets) : Option (Nat × Nat × Octets) :=
  let isDigit := Octets.isDigit base
  let whole := s.takeWhile isDigit
  let (decimals, rest) :=
    match s.dropWhile isDigit with
    | '.' :: r =>
      if whole.isEmpty && !r.head?.any isDigit then ([], '.' :: r)
      else (r.takeWhile isDigit, r.dropWhile isDigit)
    | r => ([], r)
  if whole.isEmpty && decimals.isEmpty then none
  else some ((Octets.digitsAtFront base (whole ++ decimals)).1, decimals.length, rest)

def power (mark : Char) (s : Octets) : Int × Octets :=
  match s with
  | c :: r =>
    let (negative, digits) :=
      match r with
      | '-' :: r => (true, r)
      | '+' :: r => (false, r)
      | r => (false, r)
    if c.toLower = mark ∧ digits.head?.any Char.isDigit then
      let (n, rest) := Octets.digitsAtFront 10 digits
      (if negative then -(n : Int) else n, rest)
    else (0, s)
  | [] => (0, [])

def word? (negative : Bool) (s : Octets) : Option (Double × Octets) :=
  let starts (w : String) : Bool := (s.take w.length).map Char.toLower = w.toList
  if starts "infinity" then some (.infinite negative, s.drop 8)
  else if starts "inf" then some (.infinite negative, s.drop 3)
  else if starts "nan" then
    let rest := s.drop 3
    match rest with
    | '(' :: r =>
      match r.dropWhile Octets.isNameChar with
      | ')' :: r => some (.notANumber, r)
      | _ => some (.notANumber, rest)
    | _ => some (.notANumber, rest)
  else none

/-- Whether a number that is not zero is too near to zero to be held with all its digits. -/
def isTiny : Double → Bool
  | .finite _ m _ => m < Nat.pow 2 (Double.mantissaBits - 1)
  | _ => false

def ofDigits (value : Double) (digits : Nat) (rest : Octets) : Reading :=
  ⟨value, rest, !value.isFinite || (digits ≠ 0 && isTiny value)⟩

def read? (s : Octets) : Option Reading :=
  let s := s.dropWhile fun c => c == ' ' || ('\t' ≤ c && c ≤ '\r')
  let (negative, s) :=
    match s with
    | '-' :: r => (true, r)
    | '+' :: r => (false, r)
    | s => (false, s)
  match word? negative s with
  | some (v, rest) => some ⟨v, rest, false⟩
  | none =>
    let hexadecimal? : Option Reading :=
      match s with
      | '0' :: x :: r =>
        if x = 'x' ∨ x = 'X' then
          (mantissa? 16 r).map fun (n, places, rest) =>
            let (p, rest) := power 'p' rest
            let exponent := p - 4 * places
            let (num, den) := Double.fraction 2 n (max (-5000) (min 5000 exponent))
            ofDigits (if n = 0 then .finite negative 0 Double.minExponent
              else Double.ofFraction negative num den) n rest
        else none
      | _ => none
    match hexadecimal? with
    | some r => some r
    | none =>
      (mantissa? 10 s).map fun (n, places, rest) =>
        let (p, rest) := power 'e' rest
        ofDigits (Double.ofDecimal negative n (p - places)) n rest

end LineShell.Posix.Floating
