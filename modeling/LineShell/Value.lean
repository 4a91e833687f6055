import LineShell.Decimal.Shortest
import LineShell.Text.Integer
import LineShell.Text.Literal

namespace LineShell

open Decimal (Double)

structure Date where
  year : Nat
  month : Nat
  day : Nat
deriving Repr, DecidableEq

structure Time where
  hour : Nat
  minute : Nat
  second : Nat
  microsecond : Nat
deriving Repr, DecidableEq

/-- What a document can say about a setting. -/
inductive Value where
  | null
  | bool (b : Bool)
  | int (n : Int)
  | float (x : Double)
  | text (s : String)
  | bytes (b : List UInt8)
  | date (d : Date)
  /-- A moment, perhaps with the minutes that its clock is ahead of universal time. -/
  | moment (d : Date) (t : Time) (offset : Option Int)
  | list (items : List Value)
  | tuple (items : List Value)
  | mapping (items : List (Value × Value))
  | set (items : List Value)
  /-- A list or mapping inside itself. -/
  | cycle (isMapping : Bool)
deriving Repr

namespace Value

def padded (width n : Nat) : String :=
  let digits := (toString n).toList
  String.ofList (List.replicate (width - digits.length) '0' ++ digits)

def dateText (d : Date) : String :=
  padded 4 d.year ++ "-" ++ padded 2 d.month ++ "-" ++ padded 2 d.day

def timeText (t : Time) : String :=
  padded 2 t.hour ++ ":" ++ padded 2 t.minute ++ ":" ++ padded 2 t.second ++
    if t.microsecond = 0 then "" else "." ++ padded 6 t.microsecond

def offsetText (minutes : Int) : String :=
  (if minutes < 0 then "-" else "+") ++ padded 2 (minutes.natAbs / 60) ++ ":" ++
    padded 2 (minutes.natAbs % 60)

def dateArguments (d : Date) : String :=
  toString d.year ++ ", " ++ toString d.month ++ ", " ++ toString d.day

def timeArguments (t : Time) : String :=
  toString t.hour ++ ", " ++ toString t.minute ++
    (if t.second = 0 ∧ t.microsecond = 0 then "" else ", " ++ toString t.second) ++
    (if t.microsecond = 0 then "" else ", " ++ toString t.microsecond)

def offsetLiteral (minutes : Int) : String :=
  if minutes = 0 then "datetime.timezone.utc"
  else
    let seconds := minutes * 60
    let days := seconds.fdiv 86400
    let rest := seconds.fmod 86400
    "datetime.timezone(datetime.timedelta(" ++
      (if days = 0 then "" else "days=" ++ toString days ++ ", ") ++
      "seconds=" ++ toString rest ++ "))"

def boolText (b : Bool) : String := if b then "True" else "False"

mutual

def literal : Value → String
  | null => "None"
  | bool b => boolText b
  | int n => toString n
  | float x => x.text
  | text s => Text.Literal.ofString s
  | bytes b => String.ofList (Text.Literal.ofBytes b)
  | date d => "datetime.date(" ++ dateArguments d ++ ")"
  | moment d t offset =>
    "datetime.datetime(" ++ dateArguments d ++ ", " ++ timeArguments t ++
      (match offset with
        | none => ""
        | some m => ", tzinfo=" ++ offsetLiteral m) ++ ")"
  | list items => "[" ++ String.intercalate ", " (literals items) ++ "]"
  | tuple [item] => "(" ++ literal item ++ ",)"
  | tuple items => "(" ++ String.intercalate ", " (literals items) ++ ")"
  | mapping items => "\x7b" ++ String.intercalate ", " (pairLiterals items) ++ "\x7d"
  | set [] => "set()"
  | set items => "\x7b" ++ String.intercalate ", " (literals items) ++ "\x7d"
  | cycle isMapping => if isMapping then "\x7b...\x7d" else "[...]"

def literals : List Value → List String
  | [] => []
  | v :: r => literal v :: literals r

def pairLiterals : List (Value × Value) → List String
  | [] => []
  | (k, v) :: r => (literal k ++ ": " ++ literal v) :: pairLiterals r

end

mutual

def isWritable : Value → Bool
  | int n => (toString n.natAbs).length ≤ Text.Integer.maxDigits
  | list items | tuple items | set items => areWritable items
  | mapping items => pairsAreWritable items
  | null | bool _ | float _ | text _ | bytes _ | date _ | moment .. | cycle _ => true

def areWritable : List Value → Bool
  | [] => true
  | v :: r => isWritable v && areWritable r

def pairsAreWritable : List (Value × Value) → Bool
  | [] => true
  | (k, v) :: r => isWritable k && isWritable v && pairsAreWritable r

end

def plain : Value → String
  | text s => s
  | date d => dateText d
  | moment d t offset =>
    dateText d ++ " " ++ timeText t ++ (offset.map offsetText).getD ""
  | v => literal v

def kind : Value → String
  | null => "NoneType"
  | bool _ => "bool"
  | int _ => "int"
  | float _ => "float"
  | text _ => "str"
  | bytes _ => "bytes"
  | date _ => "date"
  | moment .. => "datetime"
  | list _ => "list"
  | tuple _ => "tuple"
  | mapping _ => "dict"
  | set _ => "set"
  | cycle isMapping => if isMapping then "dict" else "list"

end Value

end LineShell
