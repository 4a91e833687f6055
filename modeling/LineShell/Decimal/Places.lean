import LineShell.Decimal.Shortest

namespace LineShell.Decimal

structure Layout where
  /-- How many digits are written: places, or digits in all. -/
  precision : Option Nat
  /-- Whether a point is written even if nothing follows it, and zeros are kept at the end. -/
  keepsPoint : Bool
deriving Repr, DecidableEq

namespace Double

def defaultPrecision : Nat := 6

def scaledByTen (num den : Nat) (power : Int) : Nat :=
  if power < 0 then roundDiv num (den * Nat.pow 10 power.natAbs)
  else roundDiv (num * Nat.pow 10 power.natAbs) den

def afterPoint (keepsPoint : Bool) (digits : List Char) : List Char :=
  if digits.isEmpty && !keepsPoint then [] else '.' :: digits

def fixed (num den places : Nat) (keepsPoint : Bool) : List Char :=
  let digits := (toString (scaledByTen num den places)).toList
  let digits := List.replicate (places + 1 - digits.length) '0' ++ digits
  let whole := digits.length - places
  digits.take whole ++ afterPoint keepsPoint (digits.drop whole)

def leading (num den count : Nat) : List Char × Int :=
  if num = 0 then (List.replicate count '0', 0)
  else
    let guess : Int := ((num.log2 : Int) - den.log2 + 1) * 30103 / 100000 + 1
    let first := firstPower num den 4 guess
    let digits := (toString (scaledByTen num den (count - 1 - first))).toList
    if digits.length > count then (digits.take count, first + 1) else (digits, first)

def powerText (mark : Char) (least : Nat) (power : Int) : List Char :=
  let digits := (toString power.natAbs).toList
  mark :: (if power < 0 then '-' else '+') :: List.replicate (least - digits.length) '0' ++ digits

def scientific (num den places : Nat) (keepsPoint : Bool) : List Char :=
  let (digits, first) := leading num den (places + 1)
  digits.take 1 ++ afterPoint keepsPoint (digits.drop 1) ++ powerText 'e' 2 first

def withoutZeros (s : List Char) : List Char :=
  if s.contains '.' then
    let kept := s.reverse.dropWhile (· == '0')
    (if kept.head? = some '.' then kept.drop 1 else kept).reverse
  else s

/-- A fraction with a count of digits: positional unless its first digit is far from the point. -/
def general (num den digits : Nat) (keepsPoint : Bool) : List Char :=
  let count := max digits 1
  let (_, first) := leading num den count
  let trim (s : List Char) : List Char := if keepsPoint then s else withoutZeros s
  if -4 ≤ first ∧ first < count then
    trim (fixed num den (count - 1 - first).toNat keepsPoint)
  else
    let s := scientific num den (count - 1) keepsPoint
    trim (s.takeWhile (· ≠ 'e')) ++ s.dropWhile (· ≠ 'e')

def hexPlaces : Nat := 13

def hexadecimal (m : Nat) (e : Int) (l : Layout) : List Char :=
  let power : Int := if m = 0 then 0 else e + (mantissaBits - 1)
  let (value, places) :=
    match l.precision with
    | some p =>
      if p < hexPlaces then (roundDiv m (Nat.pow 16 (hexPlaces - p)), p)
      else (m * Nat.pow 16 (p - hexPlaces), p)
    | none => (m, hexPlaces)
  let whole := value / Nat.pow 16 places
  let rest := Nat.toDigits 16 (value % Nat.pow 16 places)
  let rest := if places = 0 then [] else List.replicate (places - rest.length) '0' ++ rest
  let rest := if l.precision.isNone then (rest.reverse.dropWhile (· == '0')).reverse else rest
  "0x".toList ++ Nat.toDigits 16 whole ++ afterPoint l.keepsPoint rest ++ powerText 'p' 1 power

/-- The text of a number without its sign, where `kind` is the letter of the way it is written. -/
def laidOut (kind : Char) (l : Layout) : Double → List Char
  | .notANumber => "nan".toList
  | .infinite _ => "inf".toList
  | .finite _ m e =>
    let (num, den) := fraction 2 m e
    let precision := l.precision.getD defaultPrecision
    match kind with
    | 'f' => fixed num den precision l.keepsPoint
    | 'e' => scientific num den precision l.keepsPoint
    | 'g' => general num den precision l.keepsPoint
    | _ => hexadecimal m e l

end Double

end LineShell.Decimal
