import LineShell.Posix.Octets

namespace LineShell.Posix.Mask

def all : Nat := 0o777

def without (permissions : Nat) : Nat := all ^^^ (permissions &&& all)

def octal (mask : Nat) : Octets :=
  let digits := Nat.toDigits 8 mask
  List.replicate (4 - digits.length) '0' ++ digits

def letters (mask : Nat) : Octets :=
  let left := without mask
  let one (who : Char) (shift : Nat) : Octets :=
    let bits := left >>> shift
    let letter (bit : Nat) (c : Char) : Octets := if bits &&& bit ≠ 0 then [c] else []
    who :: '=' :: letter 4 'r' ++ letter 2 'w' ++ letter 1 'x'
  one 'u' 6 ++ ',' :: one 'g' 3 ++ ',' :: one 'o' 0

def whom (s : Octets) : Nat :=
  s.foldl (fun n c => n ||| match c with
    | 'a' => 0o111
    | 'u' => 0o100
    | 'g' => 0o010
    | _ => 0o001) 0

/-- The permissions of a class that letters name, where `left` are those that were left before. -/
def permissions (left : Nat) (s : Octets) : Nat :=
  s.foldl (fun n c => n ||| match c with
    | 'r' => 4
    | 'w' => 2
    | 'x' => 1
    | 'u' => left >>> 6
    | 'g' => left >>> 3
    | 'o' => left
    | 'X' => if left &&& 0o111 ≠ 0 then 1 else 0
    | _ => 0) 0 &&& 7

/-- The permissions that changes in letters leave: of whom, how, and which. Further changes for the
same may follow, and for others after a comma. -/
def changed (before : Nat) : (budget : Nat) → (named : Nat) → (now : Nat) → Octets → Option Nat
  | 0, _, _, _ => none
  | _, _, now, [] => some now
  | n + 1, named, now, s =>
    let isWho (c : Char) : Bool := "augo".toList.contains c
    let isWhich (c : Char) : Bool := "rwxugoXs".toList.contains c
    let named := named ||| whom (s.takeWhile isWho)
    let named := if named = 0 then 0o111 else named
    match s.dropWhile isWho with
    | how :: r =>
      if how = '=' ∨ how = '+' ∨ how = '-' then
        let bits := permissions before (r.takeWhile isWhich) * named
        let now :=
          if how = '-' then now &&& without bits
          else if how = '+' then now ||| bits
          else bits ||| (now &&& without (named * 7))
        match r.dropWhile isWhich with
        | [] => some now
        | ',' :: r => changed before n 0 now r
        | c :: r =>
          if c = '=' ∨ c = '+' ∨ c = '-' then changed before n named now (c :: r) else none
      else none
    | [] => none

/-- The mask that a text stands for, where `mask` was the one before; or what is wrong with it. -/
def read (mask : Nat) (s : Octets) : Except Octets Nat :=
  if s.head?.any Char.isDigit then
    match Octets.natOfDigits? 8 s with
    | some n => .ok (n &&& all)
    | none => .error ("Illegal number: ".toList ++ s)
  else
    match changed (without mask) (s.length + 1) 0 (without mask) s with
    | some left => .ok (without left)
    | none => .error ("Illegal mode: ".toList ++ s)

end LineShell.Posix.Mask
