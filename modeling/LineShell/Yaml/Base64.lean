import LineShell.Yaml.Failure

namespace LineShell.Yaml.Base64

def digitValue? (c : Char) : Option Nat :=
  if c.isUpper then some (c.toNat - 65)
  else if c.isLower then some (c.toNat - 71)
  else if c.isDigit then some (c.toNat + 4)
  else if c = '+' then some 62
  else if c = '/' then some 63
  else none

/-- Reads bytes. `held` are the digits of an incomplete four, and `pads` counts the padding after
them. -/
def read (held : List Nat) (pads : Nat) : List Char → Option (List UInt8)
  | [] => if held.isEmpty then some [] else none
  | c :: r =>
    if c = '=' then
      if held.length ≥ 2 ∧ held.length + pads + 1 ≥ 4 then some []
      else read held (if held.length ≥ 2 then pads + 1 else pads) r
    else
      match digitValue? c, held with
      | none, _ => read held pads r
      | some d, [] => read [d] 0 r
      | some d, [a] => (read [a, d] 0 r).map (UInt8.ofNat (a * 4 + d / 16) :: ·)
      | some d, [a, b] => (read [a, b, d] 0 r).map (UInt8.ofNat (b * 16 + d / 4) :: ·)
      | some d, _ :: _ :: b :: _ => (read [] 0 r).map (UInt8.ofNat (b * 64 + d) :: ·)

def decode (s : List Char) : Reads (List UInt8) :=
  match if s.all (·.toNat < 128) then read [] 0 s else none with
  | some bytes => .ok bytes
  | none => malformed

end LineShell.Yaml.Base64
