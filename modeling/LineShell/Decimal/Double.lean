namespace LineShell.Decimal

/-- A floating-point number of double width, by its value. The mantissa is below 2^53 and as large
as it can be, with an exponent of -1074 or more. -/
inductive Double where
  | finite (negative : Bool) (mantissa : Nat) (exponent : Int)
  | infinite (negative : Bool)
  | notANumber
deriving Repr, DecidableEq

namespace Double

def mantissaBits : Nat := 53

def minExponent : Int := -1074

def maxExponent : Int := 971

def fraction (base n : Nat) (exponent : Int) : Nat × Nat :=
  if exponent < 0 then (n, Nat.pow base exponent.natAbs)
  else (n * Nat.pow base exponent.natAbs, 1)

def roundDiv (num den : Nat) : Nat :=
  let q := num / den
  let r := num % den
  if 2 * r < den then q else if 2 * r > den then q + 1 else q + q % 2

def scaled (num den : Nat) (exponent : Int) : Nat :=
  if exponent < 0 then roundDiv (num * Nat.pow 2 exponent.natAbs) den
  else roundDiv num (den * Nat.pow 2 exponent.natAbs)

def below (num den : Nat) (power : Int) : Bool :=
  if power < 0 then num * Nat.pow 2 power.natAbs < den else num < den * Nat.pow 2 power.natAbs

def ofFraction (negative : Bool) (num den : Nat) : Double :=
  let guess : Int := (num.log2 : Int) - den.log2 - (mantissaBits - 1)
  let exact := if below num den (guess + (mantissaBits - 1)) then guess - 1 else guess
  let exponent := max exact minExponent
  let m := scaled num den exponent
  let (m, exponent) := if m = Nat.pow 2 mantissaBits then
      (Nat.pow 2 (mantissaBits - 1), exponent + 1)
    else (m, exponent)
  if exponent > maxExponent then .infinite negative else .finite negative m exponent

def ofDecimal (negative : Bool) (digits : Nat) (exponent : Int) : Double :=
  let size : Int := (Nat.toDigits 10 digits).length
  if digits = 0 ∨ exponent + size < -330 then .finite negative 0 minExponent
  else if exponent + size > 310 then .infinite negative
  else
    let (num, den) := fraction 10 digits exponent
    ofFraction negative num den

def toInt? : Double → Option Int
  | .finite negative m e =>
    let (num, den) := fraction 2 m e
    if num % den = 0 then
      let n : Int := (num / den : Nat)
      some (if negative then -n else n)
    else none
  | _ => none

def isFinite : Double → Bool
  | .finite .. => true
  | _ => false

def neg : Double → Double
  | .finite negative m e => .finite (!negative) m e
  | .infinite negative => .infinite (!negative)
  | .notANumber => .notANumber

def ofInt (n : Int) : Double := ofDecimal (n < 0) n.natAbs 0

def ofScaled (n : Int) (exponent : Int) : Double :=
  if n = 0 then .finite false 0 minExponent
  else
    let (num, den) := fraction 2 n.natAbs exponent
    ofFraction (n < 0) num den

def signedMantissa (negative : Bool) (m : Nat) : Int := if negative then -(m : Int) else m

def add : Double → Double → Double
  | .finite s m e, .finite t n f =>
    let low := min e f
    let shifted (x : Int) (e : Int) : Int := x * Nat.pow 2 (e - low).toNat
    ofScaled (shifted (signedMantissa s m) e + shifted (signedMantissa t n) f) low
  | .notANumber, _ | _, .notANumber => .notANumber
  | .infinite s, .infinite t => if s = t then .infinite s else .notANumber
  | .infinite s, _ | _, .infinite s => .infinite s

def mul : Double → Double → Double
  | .finite s m e, .finite t n f =>
    ofScaled (signedMantissa s m * signedMantissa t n) (e + f)
  | .notANumber, _ | _, .notANumber => .notANumber
  | .infinite s, .infinite t => .infinite (s != t)
  | .infinite s, .finite t n _ | .finite t n _, .infinite s =>
    if n = 0 then .notANumber else .infinite (s != t)

end Double

end LineShell.Decimal
