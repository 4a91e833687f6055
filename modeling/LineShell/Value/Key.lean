import LineShell.Value.Calendar

namespace LineShell

namespace Value

def toInt? : Value → Option Int
  | bool b => some (if b then 1 else 0)
  | int n => some n
  | float x => x.toInt?
  | _ => none

/-- Whether two moments are equal. One with an offset never equals one without. -/
def isSameMoment (d : Date) (t : Time) (d' : Date) (t' : Time) :
    (offset offset' : Option Int) → Bool
  | none, none => d == d' && t == t'
  | some o, some o' => instant d t o == instant d' t' o'
  | _, _ => false

def isEqual (a b : Value) : Bool :=
  match a.toInt?, b.toInt? with
  | some m, some n => m == n
  | some _, none | none, some _ => false
  | none, none =>
    match a, b with
    | null, null => true
    | float x, float y => x == y && x != .notANumber
    | text s, text t => s == t
    | bytes s, bytes t => s == t
    | date d, date e => d == e
    | moment d t o, moment d' t' o' => isSameMoment d t d' t' o o'
    | _, _ => false

end Value

structure Key where
  value : Value
  /-- The number of the object; the common one that is no number at all has none. -/
  object : Option Nat
deriving Repr

namespace Key

def isSame (a b : Key) : Bool :=
  a.value.isEqual b.value ||
    match a.value, b.value with
    | .float .notANumber, .float .notANumber => a.object == b.object
    | _, _ => false

/-- A mapping with one more pair. A key that is there already keeps its place and gets the new
value. -/
def insert {α : Type} (key : Key) (value : α) : List (Key × α) → List (Key × α)
  | [] => [(key, value)]
  | (k, v) :: r => if k.isSame key then (k, value) :: r else (k, v) :: insert key value r

end Key

end LineShell
