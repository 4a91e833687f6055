import LineShell.Text.Pieces

namespace LineShell.Yaml.Form

def isGrouped (c : Char) : Bool := c.isDigit || c == '_'

def unsigned : List Char → Bool × List Char
  | '-' :: r => (true, r)
  | '+' :: r => (true, r)
  | s => (false, s)

def isWhole : List Char → Bool
  | d :: r => d.isDigit && r.all isGrouped
  | [] => false

def isSixtieth : List Char → Bool
  | [d] => d.isDigit
  | [t, d] => '0' ≤ t && t ≤ '5' && d.isDigit
  | _ => false

def isPower : List Char → Bool
  | [] => true
  | e :: sign :: d :: r =>
    (e == 'e' || e == 'E') && (sign == '-' || sign == '+') && d.isDigit && r.all Char.isDigit
  | _ => false

def isFraction (s : List Char) : Bool := isPower (s.dropWhile isGrouped)

def casings (words : List (List String)) (s : List Char) : Bool :=
  words.any fun forms => forms.any fun f => f.toList == s

def infinities : List (List String) := [["inf", "Inf", "INF"]]

def notNumbers : List (List String) := [["nan", "NaN", "NAN"]]

def truths : List (List String) :=
  [["yes", "Yes", "YES"], ["no", "No", "NO"], ["true", "True", "TRUE"],
    ["false", "False", "FALSE"], ["on", "On", "ON"], ["off", "Off", "OFF"]]

def nulls : List (List String) := [["~"], ["null", "Null", "NULL"]]

/-- A float: a point among the digits, or one of the words for what is no finite number. -/
def isFloat (s : List Char) : Bool :=
  let (signed, body) := unsigned s
  match body with
  | '.' :: r =>
    casings infinities r ||
      (!signed && (casings notNumbers r || ((r.head?.any Char.isDigit) && isFraction r)))
  | _ =>
    match Text.pieces (· == ':') body with
    | [one] =>
      isWhole (one.takeWhile (· ≠ '.')) && one.contains '.' &&
        isFraction ((one.dropWhile (· ≠ '.')).drop 1)
    | first :: others =>
      let last := others.getLast?.getD []
      isWhole first && others.dropLast.all isSixtieth && isSixtieth (last.takeWhile (· ≠ '.')) &&
        last.contains '.' && ((last.dropWhile (· ≠ '.')).drop 1).all isGrouped
    | [] => false

def isRun (p : Char → Bool) (s : List Char) : Bool := !s.isEmpty && s.all p

def isHexadecimal (c : Char) : Bool :=
  c.isDigit || ('a' ≤ c && c ≤ 'f') || ('A' ≤ c && c ≤ 'F') || c == '_'

def isInteger (s : List Char) : Bool :=
  match (unsigned s).2 with
  | '0' :: 'b' :: r => isRun (fun c => c == '0' || c == '1' || c == '_') r
  | '0' :: 'x' :: r => isRun isHexadecimal r
  | '0' :: r => r.all fun c => ('0' ≤ c && c ≤ '7') || c == '_'
  | body =>
    match Text.pieces (· == ':') body with
    | first :: others => isWhole first && others.all isSixtieth
    | [] => false

end LineShell.Yaml.Form
