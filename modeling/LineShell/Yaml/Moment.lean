import LineShell.Value.Calendar
import LineShell.Yaml.Failure
import LineShell.Yaml.Form

namespace LineShell.Yaml

structure Stamp where
  date : Date
  time : Option Time
  offset : Option Int
deriving Repr, DecidableEq

namespace Stamp

def digits (low high : Nat) (s : List Char) : Option (Nat × List Char) :=
  let ds := (s.take high).takeWhile Char.isDigit
  if ds.length < low then none
  else some (ds.foldl (fun n d => n * 10 + (d.toNat - 48)) 0, s.drop ds.length)

def expect (c : Char) : List Char → Option (List Char)
  | x :: r => if x = c then some r else none
  | [] => none

def isGapChar (c : Char) : Bool := c == ' ' || c == '\t'

def separator (s : List Char) : Option (List Char) :=
  match s with
  | 'T' :: r => some r
  | 't' :: r => some r
  | c :: r => if isGapChar c then some (r.dropWhile isGapChar) else none
  | [] => none

def microseconds (ds : List Char) : Nat :=
  let six := ds.take 6
  (six ++ List.replicate (6 - six.length) '0').foldl (fun n d => n * 10 + (d.toNat - 48)) 0

/-- Reads an offset to the end of the text. The outer option is none if there is no offset in the
right form; the end of the text is one. -/
def offset? (s : List Char) : Option (Option Int) :=
  match s with
  | [] => some none
  | _ =>
    match s.dropWhile isGapChar with
    | ['Z'] => some (some 0)
    | sign :: r => do
      guard (sign = '+' ∨ sign = '-')
      let (hours, r) ← digits 1 2 r
      let minutes ← match r with
        | [] => some 0
        | _ => do
          let (minutes, r) ← digits 2 2 (← expect ':' r)
          guard r.isEmpty
          some minutes
      let total : Int := (hours * 60 + minutes : Nat)
      some (some (if sign = '-' then -total else total))
    | [] => none

def ofText? (s : List Char) : Option Stamp := do
  let (year, r) ← digits 4 4 s
  let (month, r) ← digits 1 2 (← expect '-' r)
  let (day, r) ← digits 1 2 (← expect '-' r)
  let date : Date := ⟨year, month, day⟩
  if r.isEmpty then some ⟨date, none, none⟩
  else
    let (hour, r) ← digits 1 2 (← separator r)
    let (minute, r) ← digits 2 2 (← expect ':' r)
    let (second, r) ← digits 2 2 (← expect ':' r)
    let (fraction, r) := match r with
      | '.' :: r => (r.takeWhile Char.isDigit, r.dropWhile Char.isDigit)
      | r => ([], r)
    let offset ← offset? r
    some ⟨date, some ⟨hour, minute, second, microseconds fraction⟩, offset⟩

/-- Whether a plain scalar is a date or moment by its form: a date alone has all its digits. -/
def isPlain (s : List Char) : Bool :=
  match ofText? s with
  | none => false
  | some stamp => stamp.time.isSome || s.length == 10

def dateFault (d : Date) : Option Fault :=
  if d.year = 0 then some .yearZero
  else if d.month = 0 ∨ d.month > 12 then some .month
  else if d.day = 0 ∨ d.day > Date.daysInMonth d.year d.month then some .day
  else none

def timeFault (t : Time) : Option Fault :=
  if t.hour > 23 then some .hour
  else if t.minute > 59 then some .minute
  else if t.second > 59 then some .second
  else none

def offsetFault (minutes : Int) : Option Fault :=
  if minutes.natAbs < 24 * 60 then none else some (.offset minutes)

def fault (s : Stamp) : Option Fault :=
  ((s.offset.bind offsetFault).or (dateFault s.date)).or (s.time.bind timeFault)

def value (s : Stamp) : Reads Value :=
  match s.fault with
  | some f => .error (.fault f)
  | none =>
    match s.time with
    | none => .ok (.date s.date)
    | some t => .ok (.moment s.date t s.offset)

end Stamp

end LineShell.Yaml
