import LineShell.Files.Fault

namespace LineShell.Files

/-- A place in the tree: the names from the innermost outward, so the root is the empty list. -/
abbrev Place := List String

inductive Device where
  /-- Accepts and forgets everything, and is empty. -/
  | null
  /-- Has no space for a single byte, and cannot be read. -/
  | full
deriving Repr, DecidableEq

inductive Node where
  | directory
  | file (mode : Nat) (content : List UInt8)
  | link (target : String)
  | device (kind : Device)
  /-- The program that runs scripts. It may be run, and neither read nor written. -/
  | interpreter
deriving Repr, DecidableEq

/-- A file tree and the working directory in it. The permissions of a file only say whether it may
be executed: as for a superuser, every file that is found may be read and written. Names may be
looked up in all directories but those that are `barred`. -/
structure Tree where
  entries : List (Place × Node)
  here : Place
  /-- The directories in which no name can be looked up, each with the fault that says so. -/
  barred : List (Place × Fault)
deriving Repr, DecidableEq

namespace Tree

def get? (t : Tree) (p : Place) : Option Node := t.entries.lookup p

def set (t : Tree) (p : Place) (n : Node) : Tree :=
  { t with entries := (p, n) :: t.entries.filter (fun e => e.1 ≠ p) }

@[simp] theorem here_set (t : Tree) (p : Place) (n : Node) : (t.set p n).here = t.here := rfl

@[simp, grind =] theorem barred_set (t : Tree) (p : Place) (n : Node) :
    (t.set p n).barred = t.barred := rfl

@[simp] theorem get?_set_self (t : Tree) (p : Place) (n : Node) :
    (t.set p n).get? p = some n := by
  simp [get?, set]

theorem get?_set_of_ne (t : Tree) {p q : Place} (n : Node) (h : q ≠ p) :
    (t.set p n).get? q = t.get? q := by
  have hq : (q == p) = false := by simpa using h
  simp only [get?, set, List.lookup_cons, hq]
  induction t.entries with
  | nil => rfl
  | cons e es ih =>
    obtain ⟨a, m⟩ := e
    by_cases ha : a = p
    · have hqa : (q == a) = false := by simpa [ha] using h
      simpa [ha, List.lookup_cons, hqa, hq] using ih
    · cases hqa : q == a
      · simpa [ha, List.lookup_cons, hqa] using ih
      · simp [ha, List.lookup_cons, hqa]

/-- The directories and special files that every machine has, and an empty working directory. -/
def standard : Tree where
  entries :=
    [(["box", "tmp"], .directory), (["null", "dev"], .device .null),
      (["full", "dev"], .device .full), (["sh", "bin"], .interpreter),
      (["bin", "usr"], .directory), ([], .directory)] ++
    ["bin", "boot", "dev", "etc", "home", "lib", "media", "mnt", "opt", "proc", "root", "run",
      "sbin", "srv", "sys", "tmp", "usr", "var"].map fun name => ([name], .directory)
  here := ["box", "tmp"]
  barred := []

end Tree

end LineShell.Files
