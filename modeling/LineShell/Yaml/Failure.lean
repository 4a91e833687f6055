import LineShell.Text.Hex
import LineShell.Text.Literal

namespace LineShell.Yaml

/-- Why a document that is not malformed has no value. Most of these are scalars without the value
that their form promises, such as the thirteenth month. -/
inductive Fault where
  | integer (text : String) (base : Nat)
  /-- An integer of more digits than are read. -/
  | tooManyDigits (count : Nat)
  | emptyNumber
  | float (text : String)
  /-- A unit of a float to the base sixty that is no float. -/
  | unitTooLarge
  | truth (word : String)
  | notMoment
  /-- A date or moment that is no text. -/
  | momentNotText
  | yearZero
  | month
  | day
  | hour
  | minute
  | second
  /-- An offset of a day or more from universal time, in minutes. -/
  | offset (minutes : Int)
  /-- A character number past the last, perhaps also past the last machine integer. -/
  | character (pastWord : Bool)
  /-- A character number that stands for half a character. No text holds one here. -/
  | surrogate (number : Nat)
  /-- Collections inside one another, too many of them. -/
  | tooDeep
deriving Repr, DecidableEq

def offsetLength (minutes : Int) : String :=
  let seconds := minutes * 60
  let days := seconds.fdiv 86400
  let rest := seconds.fmod 86400
  if rest = 0 then "days=" ++ toString days
  else "days=" ++ toString days ++ ", seconds=" ++ toString rest

def maxLiteral : Nat := 200

def Fault.kind : Fault → String
  | .emptyNumber => "IndexError"
  | .truth _ => "KeyError"
  | .notMoment => "AttributeError"
  | .character true | .unitTooLarge => "OverflowError"
  | .momentNotText => "TypeError"
  | .surrogate _ => "UnicodeEncodeError"
  | .tooDeep => "RecursionError"
  | _ => "ValueError"

def Fault.message : Fault → String
  | .integer text base =>
    "invalid literal for int() with base " ++ toString base ++ ": " ++
      String.ofList ((Text.Literal.ofText text.toList).take maxLiteral)
  | .tooManyDigits count =>
    "Exceeds the limit (4300 digits) for integer string conversion: value has " ++
      toString count ++ " digits; use sys.set_int_max_str_digits() to increase the limit"
  | .emptyNumber => "string index out of range"
  | .float text => "could not convert string to float: " ++ Text.Literal.ofString text
  | .unitTooLarge => "int too large to convert to float"
  | .truth word => Text.Literal.ofString word
  | .notMoment => "'NoneType' object has no attribute 'groupdict'"
  | .momentNotText => "expected string or bytes-like object, got 'list'"
  | .yearZero => "year 0 is out of range"
  | .month => "month must be in 1..12"
  | .day => "day is out of range for month"
  | .hour => "hour must be in 0..23"
  | .minute => "minute must be in 0..59"
  | .second => "second must be in 0..59"
  | .offset minutes =>
    "offset must be a timedelta strictly between -timedelta(hours=24) and " ++
      "timedelta(hours=24), not datetime.timedelta(" ++ offsetLength minutes ++ ")."
  | .character false => "chr() arg not in range(0x110000)"
  | .character true => "Python int too large to convert to C int"
  | .surrogate number =>
    "'utf-8' codec can't encode character '\\u" ++ String.ofList (Text.hex 4 number) ++
      "' in position 0: surrogates not allowed"
  | .tooDeep => "maximum recursion depth exceeded"

inductive Failure where
  | malformed
  | fault (fault : Fault)
  /-- The text goes on with something that cannot be read. -/
  | unread
deriving Repr, DecidableEq

abbrev Reads := Except Failure

def malformed {α : Type} : Reads α := .error .malformed

def require (p : Bool) : Reads Unit := if p then .ok () else malformed

end LineShell.Yaml
