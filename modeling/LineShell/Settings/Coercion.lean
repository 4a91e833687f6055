import LineShell.Settings.Library
import LineShell.Text.Blank

namespace LineShell

namespace Settings.Issue

def notText : Issue := ⟨"string_type", "Input should be a valid string"⟩

def bytesNotText : Issue :=
  ⟨"string_unicode",
    "Input should be a valid string, unable to parse raw data as a unicode string"⟩

def notBool : Issue := ⟨"bool_type", "Input should be a valid boolean"⟩

def unreadableBool : Issue :=
  ⟨"bool_parsing", "Input should be a valid boolean, unable to interpret input"⟩

def notInteger : Issue := ⟨"int_type", "Input should be a valid integer"⟩

def unreadableInteger : Issue :=
  ⟨"int_parsing", "Input should be a valid integer, unable to parse string as an integer"⟩

def fractional : Issue :=
  ⟨"int_from_float", "Input should be a valid integer, got a number with a fractional part"⟩

def notFinite : Issue := ⟨"finite_number", "Input should be a finite number"⟩

def tooLarge : Issue :=
  ⟨"int_parsing_size", "Unable to parse input string as an integer, exceeded maximum size"⟩

def tooManyDigits : Issue :=
  .ofError ("Exceeds the limit (4300 digits) for integer string conversion; " ++
    "use sys.set_int_max_str_digits() to increase the limit")

end Settings.Issue

namespace Value

open Text
open Settings (Issue)

def textOfBytes? (b : List UInt8) : Option String :=
  match Utf8.decode b with
  | .ok s => some (String.ofList s)
  | .error _ => none

def toText : Value → Except Issue String
  | .text s => .ok s
  | .bytes b => match textOfBytes? b with
    | some s => .ok s
    | none => .error .bytesNotText
  | _ => .error .notText

def boolOfWord? (s : String) : Option Bool :=
  let word := String.ofList (s.toList.map Char.toLower)
  if ["0", "off", "f", "false", "n", "no"].contains word then some false
  else if ["1", "on", "t", "true", "y", "yes"].contains word then some true
  else none

def boolOfInt? (n : Int) : Option Bool :=
  if n = 0 then some false else if n = 1 then some true else none

def orIssue {α : Type} (issue : Issue) : Option α → Except Issue α
  | some a => .ok a
  | none => .error issue

def wordLimit : Int := 0x8000000000000000

def fitsWord (n : Int) : Bool := -wordLimit ≤ n && n < wordLimit

/-- The integer that a float without a fraction stands for, if it is less in size than any that a
machine word may hold. -/
def wordOfFloat? (x : Decimal.Double) : Option Int :=
  x.toInt?.filter fun n => -wordLimit < n && n < wordLimit

def toBool : Value → Except Issue Bool
  | .bool b => .ok b
  | .int n => if fitsWord n then orIssue .unreadableBool (boolOfInt? n) else .error .notBool
  | .float x =>
    match wordOfFloat? x with
    | some n => orIssue .unreadableBool (boolOfInt? n)
    | none => .error .notBool
  | .text s => orIssue .unreadableBool (boolOfWord? s)
  | .bytes b => orIssue .unreadableBool ((textOfBytes? b).bind boolOfWord?)
  | _ => .error .notBool

/-- The integer of digits without zeros in front, perhaps after a minus sign. -/
def plainInteger? (s : List Char) : Option Int :=
  let (negative, digits) := match s with
    | '-' :: r => (true, r)
    | r => (false, r)
  let isPlain := digits = ['0'] ∨ (digits ≠ [] ∧ digits.head? ≠ some '0')
  if isPlain ∧ digits.all Char.isDigit ∧ digits.length ≤ Integer.maxDigits then
    let n : Nat := digits.foldl (fun n c => n * 10 + (c.toNat - 48)) 0
    some (if negative then -(n : Int) else n)
  else none

/-- Whether a text starts with a number that is too long, perhaps after a minus sign. -/
def startsTooLong (s : List Char) : Bool :=
  let digits := if s.head? = some '-' then s.drop 1 else s
  digits.head? ≠ some '0' && Integer.maxDigits < (digits.takeWhile Char.isDigit).length

/-- The rest of a number after a zero and the zeros and underscores that follow; `last` is the
character before the rest. One character stays before a point and at the end. -/
def afterZeros (last : Char) : List Char → Option (List Char)
  | [] => some [last]
  | c :: r =>
    if c = '0' ∨ c = '_' then afterZeros c r
    else if c.isDigit ∨ c = '-' then some (c :: r)
    else if c = '.' then some (last :: c :: r)
    else none

def withoutZeros : List Char → Option (List Char)
  | [] => none
  | c :: r =>
    if c = '0' then afterZeros c r
    else if c.isDigit ∨ c = '-' then some (c :: r)
    else none

def withoutPoint (s : List Char) : List Char :=
  let decimals := (s.dropWhile (· ≠ '.')).drop 1
  if decimals ≠ [] ∧ decimals.all (· = '0') then s.takeWhile (· ≠ '.') else s

/-- A number without the underscores in it, if they are single ones between other characters. -/
def withoutUnderscores (s : List Char) : List Char :=
  if (pieces (· == '_') s).all fun g => !g.isEmpty then s.filter (· ≠ '_') else s

/-- The integer that a text stands for which is not written in the plain way: with blanks around it,
a plus sign, zeros in front, underscores, or a point that only zeros follow. -/
def looseInteger? (s : List Char) : Option Int := do
  let s := trim s
  let s := if s.head? = some '+' then s.drop 1 else s
  let (sign, body) := if s.head? = some '-' then (['-'], s.drop 1) else ([], s)
  let body ← withoutZeros body
  plainInteger? (sign ++ withoutUnderscores (withoutPoint body))

def intOfText (s : String) : Except Issue Int :=
  if startsTooLong s.toList then .error .tooLarge
  else orIssue .unreadableInteger ((plainInteger? s.toList).or (looseInteger? s.toList))

def toInteger : Value → Except Issue Int
  | .bool b => .ok (if b then 1 else 0)
  | .int n => .ok n
  | .float x =>
    if !x.isFinite then .error .notFinite
    else match x.toInt?, wordOfFloat? x with
      | none, _ => .error .fractional
      | _, some n => .ok n
      | _, none => .error .tooLarge
  | .text s => intOfText s
  | .bytes b => match textOfBytes? b with
    | some s => intOfText s
    | none => .error .unreadableInteger
  | _ => .error .notInteger

/-- The plain text of a value, unless it holds an integer of more digits than are written. -/
def written (v : Value) : Except Settings.Unwritten String :=
  if v.isWritable then .ok v.plain else .error (.issue .tooManyDigits)

end Value

namespace Settings

/-- A text is only a text, or bytes that are one. A truth value may also be a number or one of a few
words, and an integer a truth value, a float without a fraction or a text of digits. -/
def Coercions.lax : Coercions := ⟨Value.toText, Value.toBool, Value.toInteger, Value.written⟩

theorem Coercions.lawful_lax : Coercions.lax.Lawful :=
  ⟨fun _ => rfl, fun _ => rfl, fun _ => rfl, fun _ => rfl⟩

end Settings

end LineShell
