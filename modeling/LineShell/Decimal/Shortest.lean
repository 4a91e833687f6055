import LineShell.Decimal.Double

namespace LineShell.Decimal

structure Digits where
  value : Nat
  exponent : Int
deriving Repr, DecidableEq

namespace Double

def atLeastPower (num den : Nat) (power : Int) : Bool :=
  if power < 0 then num * Nat.pow 10 power.natAbs ≥ den else num ≥ den * Nat.pow 10 power.natAbs

/-- The power of ten of the first digit of a positive fraction, at or below a guess. -/
def firstPower (num den : Nat) : (budget : Nat) → (guess : Int) → Int
  | 0, guess => guess
  | n + 1, guess =>
    if atLeastPower num den guess then guess else firstPower num den n (guess - 1)

/-- The decimal with its last digit at a power of ten that is nearest to a fraction and reads back
as the number `d`, if one of the fraction's two neighbours does. -/
def neighbour? (d : Double) (num den : Nat) (power : Int) : Option Digits :=
  let (n, m) := if power < 0 then (num * Nat.pow 10 power.natAbs, den)
    else (num, den * Nat.pow 10 power.natAbs)
  let low := n / m
  let nearFirst := if 2 * (n % m) < m ∨ (2 * (n % m) = m ∧ low % 2 = 0) then [low, low + 1]
    else [low + 1, low]
  (nearFirst.find? fun c => decide (ofDecimal false c power = d)).map fun c => ⟨c, power⟩

def shortestFrom (d : Double) (num den : Nat) : (count : Nat) → (power : Int) → Digits
  | 0, power => ⟨num * Nat.pow 10 power.natAbs / den, power⟩
  | n + 1, power => (neighbour? d num den power).getD (shortestFrom d num den n (power - 1))

def shortest (m : Nat) (e : Int) : Digits :=
  let (num, den) := fraction 2 m e
  let guess : Int := ((num.log2 : Int) - den.log2 + 1) * 30103 / 100000 + 1
  shortestFrom (.finite false m e) num den 18 (firstPower num den 4 guess)

def dropZeros : (budget : Nat) → Digits → Digits
  | 0, d => d
  | n + 1, d =>
    if d.value ≠ 0 ∧ d.value % 10 = 0 then dropZeros n ⟨d.value / 10, d.exponent + 1⟩ else d

def layout (d : Digits) : List Char :=
  let digits := (toString d.value).toList
  let size : Int := digits.length
  let first := d.exponent + size - 1
  if -4 ≤ first ∧ first < 16 then
    if first < 0 then
      '0' :: '.' :: List.replicate (first.natAbs - 1) '0' ++ digits
    else
      let whole := first.toNat + 1
      let digits := digits ++ List.replicate (whole - digits.length) '0'
      let rest := digits.drop whole
      digits.take whole ++ '.' :: (if rest.isEmpty then ['0'] else rest)
  else
    let power := (toString first.natAbs).toList
    let rest := digits.drop 1
    digits.take 1 ++ (if rest.isEmpty then [] else '.' :: rest) ++
      'e' :: (if first < 0 then '-' else '+') ::
      List.replicate (2 - power.length) '0' ++ power

def text : Double → String
  | .notANumber => "nan"
  | .infinite negative => if negative then "-inf" else "inf"
  | .finite negative m e =>
    let body := if m = 0 then "0.0".toList else layout (dropZeros 400 (shortest m e))
    String.ofList (if negative then '-' :: body else body)

end Double

end LineShell.Decimal
