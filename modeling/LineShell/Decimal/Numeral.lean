import LineShell.Decimal.Double

namespace LineShell.Decimal

def natOfDigits (s : List Char) : Nat := s.foldl (fun n c => n * 10 + (c.toNat - 48)) 0

/-- The number that a numeral without a sign stands for. Anything else is zero. -/
def doubleOfNumeral (negative : Bool) (s : List Char) : Double :=
  let whole := s.takeWhile Char.isDigit
  let rest := s.dropWhile Char.isDigit
  let (decimals, rest) :=
    match rest with
    | '.' :: r => (r.takeWhile Char.isDigit, r.dropWhile Char.isDigit)
    | r => ([], r)
  let power : Int :=
    match rest with
    | _ :: '-' :: r => -(natOfDigits r : Int)
    | _ :: '+' :: r => natOfDigits r
    | _ :: r => natOfDigits r
    | [] => 0
  Double.ofDecimal negative (natOfDigits (whole ++ decimals)) (power - decimals.length)

def doubleOfSigned : List Char → Double
  | '-' :: r => doubleOfNumeral true r
  | '+' :: r => doubleOfNumeral false r
  | s => doubleOfNumeral false s

/-- Whether a text is a numeral without a sign: digits with an optional point, at least one of
them, and an optional power of ten. -/
def isNumeral (s : List Char) : Bool :=
  let whole := s.takeWhile Char.isDigit
  let rest := s.dropWhile Char.isDigit
  let (decimals, rest) :=
    match rest with
    | '.' :: r => (r.takeWhile Char.isDigit, r.dropWhile Char.isDigit)
    | r => ([], r)
  let isRun (ds : List Char) : Bool := !ds.isEmpty && ds.all Char.isDigit
  let power :=
    match rest with
    | [] => true
    | e :: sign :: r =>
      (e == 'e' || e == 'E') &&
        (if sign == '-' || sign == '+' then isRun r else isRun (sign :: r))
    | _ => false
  !(whole.isEmpty && decimals.isEmpty) && power

/-- The number that a text stands for: a numeral with an optional sign, or a word in any case for
what is no finite number. -/
def doubleOfText? (s : List Char) : Option Double :=
  let (negative, body) := match s with
    | '-' :: r => (true, r)
    | '+' :: r => (false, r)
    | r => (false, r)
  let word := String.ofList (body.map Char.toLower)
  if word = "inf" ∨ word = "infinity" then some (.infinite negative)
  else if word = "nan" then some .notANumber
  else if isNumeral body then some (doubleOfNumeral negative body)
  else none

end LineShell.Decimal
