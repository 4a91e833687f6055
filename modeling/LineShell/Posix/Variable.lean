import LineShell.Posix.Octets

namespace LineShell.Posix

structure Variable where
  value : Option Octets
  /-- Whether programs inherit it. -/
  exported : Bool
  /-- Whether it may not be set again. -/
  settled : Bool
deriving Repr, DecidableEq

def Variable.plain (value : Octets) : Variable := ⟨some value, false, false⟩

abbrev Bindings := List (Octets × Variable)

namespace Bindings

def value? (vs : Bindings) (name : Octets) : Option Octets :=
  (vs.lookup name).bind (·.value)

def remove (vs : Bindings) (name : Octets) : Bindings := vs.filter fun v => v.1 ≠ name

def put (vs : Bindings) (name : Octets) (v : Variable) : Bindings := (name, v) :: vs.remove name

@[simp] theorem lookup_put_self (vs : Bindings) (name : Octets) (v : Variable) :
    (vs.put name v).lookup name = some v := by
  simp [put]

/-- Setting one variable leaves every other as it was. -/
theorem lookup_put_of_ne (vs : Bindings) {name other : Octets} (v : Variable)
    (h : other ≠ name) : (vs.put name v).lookup other = vs.lookup other := by
  have hne : (other == name) = false := by simpa using h
  simp only [put, List.lookup_cons, hne]
  induction vs with
  | nil => rfl
  | cons v vs ih =>
    obtain ⟨n, x⟩ := v
    by_cases hn : n = name
    · have hon : (other == n) = false := by simpa [hn] using h
      simpa [remove, hn, List.lookup_cons, hon, hne] using ih
    · cases hon : other == n
      · simpa [remove, hn, List.lookup_cons, hon] using ih
      · simp [remove, hn, List.lookup_cons, hon]

def restore (vs : Bindings) (name : Octets) : Option Variable → Bindings
  | some v => vs.put name v
  | none => vs.remove name

def free (vs : Bindings) (name : Octets) : Except Octets Variable :=
  match vs.lookup name with
  | some v => if v.settled then .error (name ++ ": is read only".toList) else .ok v
  | none => .ok ⟨none, false, false⟩

/-- Gives a variable a value. With `exporting`, programs inherit it. -/
def assign (vs : Bindings) (exporting : Bool) (name value : Octets) : Except Octets Bindings := do
  let v ← vs.free name
  return vs.put name { v with value := some value, exported := v.exported || exporting }

def unset (vs : Bindings) (name : Octets) : Except Octets Bindings := do
  let _ ← vs.free name
  return vs.remove name

def listed (vs : Bindings) (p : Variable → Bool) : Bindings :=
  (vs.filter fun v => p v.2).mergeSort fun a b => Octets.isUpTo a.1 b.1

def environment (vs : Bindings) : List (Octets × Octets) :=
  vs.reverse.filterMap fun (name, v) =>
    if v.exported then v.value.map fun value => (name, value) else none

end Bindings

end LineShell.Posix
