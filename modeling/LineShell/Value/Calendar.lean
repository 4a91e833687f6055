import LineShell.Value

namespace LineShell

namespace Date

def isLeap (year : Nat) : Bool := year % 4 == 0 && (year % 100 != 0 || year % 400 == 0)

def daysInMonth (year month : Nat) : Nat :=
  if month = 2 then if isLeap year then 29 else 28
  else if month = 4 ∨ month = 6 ∨ month = 9 ∨ month = 11 then 30
  else 31

def daysBeforeYear (year : Nat) : Nat :=
  let y := year - 1
  y * 365 + y / 4 - y / 100 + y / 400

def ordinal (d : Date) : Nat :=
  daysBeforeYear d.year + ((List.range d.month).drop 1).foldl (· + daysInMonth d.year ·) 0 + d.day

end Date

def Time.microseconds (t : Time) : Nat :=
  ((t.hour * 60 + t.minute) * 60 + t.second) * 1000000 + t.microsecond

/-- The microseconds up to a moment by a clock that is `offset` minutes ahead. Moments by different
clocks are the same if these numbers are. -/
def instant (d : Date) (t : Time) (offset : Int) : Int :=
  (d.ordinal * 86400000000 + t.microseconds : Nat) - offset * 60000000

end LineShell
