import LineShell.Text.Blank
import LineShell.Text.Digit
import LineShell.Text.Hex

namespace LineShell.Text.Integer

inductive Fault where
  /-- More digits to the base ten than are read, whatever comes after them. -/
  | tooManyDigits (count : Nat)
  | malformed
deriving Repr, DecidableEq

def maxDigits : Nat := 4300

/-- A text without white space at its ends, the digits of all scripts as the common ones. -/
def plainDigits (s : List Char) : List Char :=
  (trim s).map fun c => ((digitValue? c).map hexDigit).getD c

def sign : List Char → Bool × List Char
  | '-' :: r => (true, r)
  | '+' :: r => (false, r)
  | s => (false, s)

def baseLetter (base : Nat) : Option Char :=
  if base = 2 then some 'b' else if base = 8 then some 'o' else if base = 16 then some 'x' else none

def baseDigit? (base : Nat) (c : Char) : Option Nat := (hexValue c.toLower).filter (· < base)

def read (base : Nat) (s : List Char) : Except Fault Int :=
  let (negative, body) := sign (plainDigits s)
  let body := match body with
    | '0' :: x :: r => if some x.toLower = baseLetter base then r else body
    | _ => body
  let isFit (d : Char) : Bool := (baseDigit? base d).isSome
  let count := ((body.takeWhile fun d => isFit d || d == '_').filter isFit).length
  let groups := pieces (· == '_') body
  if base = 10 ∧ count > maxDigits then .error (.tooManyDigits count)
  else if groups.all fun g => !g.isEmpty && g.all isFit then
    let n : Nat := groups.flatten.foldl (fun n d => n * base + (baseDigit? base d).getD 0) 0
    .ok (if negative then -(n : Int) else n)
  else .error .malformed

end LineShell.Text.Integer
