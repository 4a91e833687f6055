import LineShell.Value.Key

namespace LineShell.Value

def modulus : Nat := 0x1FFFFFFFFFFFFFFF

/-- The remainder of a fraction by a power of two: the inverse of two is a power of two again. -/
def fractionRemainder (numerator power : Nat) : Nat :=
  numerator % modulus * Nat.pow 2 (60 * power % 61) % modulus

/-- The remainder of a number with its sign. Minus one is taken. -/
def signedRemainder (negative : Bool) (r : Nat) : Int :=
  if negative then if r = 1 then -2 else -(r : Int) else r

def remainder? (v : Value) : Option Int :=
  match v.toInt?, v with
  | some n, _ => some (signedRemainder (n < 0) (n.natAbs % modulus))
  | none, .float (.finite negative m e) =>
    some (signedRemainder negative (fractionRemainder m e.natAbs))
  | none, .float (.infinite negative) => some (if negative then -314159 else 314159)
  | _, _ => none

/-- The places of a set; those of numbers also hold the remainder as a machine word. -/
abbrev Table := Array (Option (Nat × Value))

/-- The first free place among up to ten places from one on. Near the end only the place itself is
looked at. -/
def freePlace? (t : Table) (place : Nat) : Option Nat :=
  let count := if place + 9 < t.size then 10 else 1
  ((List.range count).map (place + ·)).find? fun i => (t.getD i none).isNone

/-- Puts a value in at the first free place. Where all places near by are taken, the search goes on
elsewhere, by the remaining bits of the remainder. -/
def place (entry : Nat × Value) : (budget : Nat) → (start bits : Nat) → Table → Table
  | 0, _, _, t => t
  | n + 1, start, bits, t =>
    match freePlace? t start with
    | some i => t.setIfInBounds i (some entry)
    | none =>
      let bits := bits / 32
      place entry n ((start * 5 + 1 + bits) % t.size) bits t

def Table.add (t : Table) (entry : Nat × Value) : Table :=
  place entry (t.size + 64) (entry.1 % t.size) entry.1 t

def Table.entries (t : Table) : List (Nat × Value) := t.toList.filterMap id

def sizeAbove (n : Nat) : Nat := max 8 (Nat.pow 2 (n.log2 + 1))

def Table.resize (t : Table) (size : Nat) : Table :=
  t.entries.foldl Table.add (Array.replicate size none)

def Table.put (t : Table) (entry : Nat × Value) : Table :=
  let t := t.add entry
  let count := t.entries.length
  if count * 5 < (t.size - 1) * 3 then t
  else t.resize (sizeAbove (if count > 50000 then count * 2 else count * 4))

def inSetOrder (values : List Value) : List Value :=
  let entries := values.filterMap fun v =>
    v.remainder?.map fun r => ((r % 0x10000000000000000).toNat, v)
  if entries.length = values.length then
    let size := if values.length * 5 ≥ 7 * 3 then sizeAbove (values.length * 2) else 8
    (entries.foldl Table.put (Array.replicate size none : Table)).entries.map (·.2)
  else values

end LineShell.Value
