import LineShell.Decimal.Numeral
import LineShell.Text.Case
import LineShell.Text.Integer
import LineShell.Yaml.Failure

namespace LineShell.Yaml.Number

open Decimal (Double)
open Text.Integer (sign plainDigits)

def fault {α : Type} (f : Fault) : Reads α := .error (.fault f)

def withoutUnderscores (s : List Char) : List Char := s.filter (· ≠ '_')

/-- The integer that digits stand for, which may have a sign and a mark of their base. -/
def integer (base : Nat) (s : List Char) : Reads Int :=
  match Text.Integer.read base s with
  | .ok n => .ok n
  | .error (.tooManyDigits count) => fault (.tooManyDigits count)
  | .error .malformed => fault (.integer (String.ofList s) base)

def sixties (digits : List Int) : Int := digits.foldl (fun n d => n * 60 + d) 0

def ofInteger (s : List Char) : Reads Int := do
  let s := withoutUnderscores s
  let (negative, body) := sign s
  let n ← match body with
    | [] => fault .emptyNumber
    | ['0'] => pure 0
    | '0' :: 'b' :: r => integer 2 r
    | '0' :: 'x' :: r => integer 16 r
    | '0' :: _ => integer 8 body
    | _ =>
      if body.contains ':' then do
        let parts ← (Text.pieces (· == ':') body).mapM (integer 10)
        pure (sixties parts)
      else integer 10 body
  return if negative then -n else n

/-- The float that a decimal numeral, or a word for what is no finite number, stands for. -/
def float (s : List Char) : Reads Double :=
  match Decimal.doubleOfText? (plainDigits s) with
  | some x => .ok x
  | none => fault (.float (String.ofList s))

/-- Digits to the base sixty, the last of them first. Every product and sum is rounded. There are
no units past the largest float. -/
def floatSixties : (unit : Nat) → (sum : Double) → List Double → Reads Double
  | _, sum, [] => .ok sum
  | unit, sum, d :: r =>
    let u := Double.ofInt unit
    if u.isFinite then floatSixties (unit * 60) (sum.add (d.mul u)) r else fault .unitTooLarge

def notNumberWord : List Char := ".nan".toList

def floatText (s : List Char) : List Char := Text.lower (withoutUnderscores s)

/-- Whether a float is written as the word for what is no number at all, whatever its sign. -/
def isNotNumberWord (s : List Char) : Bool := (sign (floatText s)).2 == notNumberWord

def ofFloat (s : List Char) : Reads Double := do
  let s := floatText s
  let (negative, body) := sign s
  let x ←
    if s.isEmpty then fault .emptyNumber
    else if body = ".inf".toList then pure (Double.infinite false)
    else if body = notNumberWord then pure .notANumber
    else if body.contains ':' then do
      let parts ← (Text.pieces (· == ':') body).mapM float
      floatSixties 1 (.ofInt 0) parts.reverse
    else float body
  return if negative then x.neg else x

end LineShell.Yaml.Number
