import LineShell.Posix.Octets

namespace LineShell.Posix

structure OptionScan where
  /-- The number of the next argument. -/
  next : Nat
  /-- How much of the argument before it has been read, if it may hold more options. -/
  offset : Option Nat
deriving Repr, DecidableEq

namespace OptionScan

def start : OptionScan := ⟨1, none⟩

structure Step where
  scan : OptionScan
  letter : Char
  /-- The option's argument, or none if the last one stays; with nothing inside, there is none. -/
  argument : Option (Option Octets)
  complaint : Option Octets
  isDone : Bool
deriving Repr, DecidableEq

def kind? (letter : Char) : (allowed : Octets) → Option Bool
  | [] => none
  | c :: r =>
    if c = letter then some (r.head? = some ':')
    else kind? letter (if r.head? = some ':' then r.tail else r)
termination_by allowed => allowed.length
decreasing_by
  all_goals
    simp only [List.length_cons]
    split <;> (try simp only [List.length_tail]) <;> omega

/-- The next option, a letter with `offset` letters up to it in the argument before `next`, and
with a cluster after it. -/
def take (allowed : Octets) (args : List Octets) (next offset : Nat) (letter : Char)
    (cluster : Octets) : Step :=
  let isQuiet := allowed.head? = some ':'
  match kind? letter allowed with
  | none =>
    if isQuiet then ⟨⟨next, some offset⟩, '?', some (some [letter]), none, false⟩
    else ⟨⟨next, some offset⟩, '?', some none, some ("Illegal option -".toList ++ [letter]), false⟩
  | some false => ⟨⟨next, some offset⟩, letter, some (some []), none, false⟩
  | some true =>
    if !cluster.isEmpty then ⟨⟨next, none⟩, letter, some (some cluster), none, false⟩
    else match args[next - 1]? with
      | some value => ⟨⟨next + 1, none⟩, letter, some (some value), none, false⟩
      | none =>
        if isQuiet then ⟨⟨next, none⟩, ':', some (some [letter]), none, false⟩
        else ⟨⟨next, none⟩, '?', some none,
          some ("No arg for -".toList ++ letter :: " option".toList), false⟩

def cluster (scan : OptionScan) (args : List Octets) : Octets :=
  match scan.offset with
  | some n => if scan.next ≤ 1 then [] else (args[scan.next - 2]?.getD []).drop n
  | none => []

def step (scan : OptionScan) (allowed : Octets) (args : List Octets) : Step :=
  let scan := if scan.next > args.length + 1 then start else scan
  match scan.cluster args with
  | c :: cluster => take allowed args scan.next (scan.offset.getD 0 + 1) c cluster
  | [] =>
    let done (next : Nat) : Step := ⟨⟨next, none⟩, '?', none, none, true⟩
    match args[scan.next - 1]? with
    | some ['-', '-'] => done (scan.next + 1)
    | some ('-' :: c :: cluster) => take allowed args (scan.next + 1) 2 c cluster
    | _ => done scan.next

end OptionScan

end LineShell.Posix
