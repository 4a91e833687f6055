import LineShell.Posix.State

namespace LineShell.Posix.Arithmetic

inductive Token where
  | number (n : Int)
  | name (name : Octets)
  | op (name : String)
  /-- A character that has no place in an expression. -/
  | bad
deriving Repr, DecidableEq

inductive Expr where
  | number (n : Int)
  | name (name : Octets)
  | unary (op : String) (operand : Expr)
  | binary (op : String) (left right : Expr)
  | choice (condition yes no : Expr)
  /-- Sets a variable, to the result of an operator on its value if there is one. -/
  | assign (name : Octets) (op : Option String) (value : Expr)
  /-- Where the text ceases to be an expression, after the one that was complete there. -/
  | broken (sofar : Option Expr) (message : String)
deriving Repr

def Expr.noPrimary : Expr := .broken none "expecting primary"

def wordSize : Nat := 0x10000000000000000

/-- The largest number that an expression may write down; larger ones count as this. -/
def largest : Nat := wordSize / 2 - 1

def word (v : Int) : Int := v.bmod wordSize

def operators : List String :=
  ["<<=", ">>=", "&&", "||", "==", "!=", "<=", ">=", "<<", ">>", "+=", "-=", "*=", "/=", "%=",
    "&=", "|=", "^=", "+", "-", "*", "/", "%", "&", "|", "^", "<", ">", "!", "~", "(", ")", "?",
    ":", "="]

def levels : List (List String) :=
  [["||"], ["&&"], ["|"], ["^"], ["&"], ["==", "!="], ["<", ">", "<=", ">="], ["<<", ">>"],
    ["+", "-"], ["*", "/", "%"]]

def scan : (budget : Nat) → Octets → List Token
  | 0, _ => []
  | _, [] => []
  | n + 1, c :: r =>
    if c = ' ' ∨ c = '\t' ∨ c = '\n' then scan n r
    else if c.isDigit then
      let (v, r) := Octets.numeralAtFront (c :: r)
      .number (min v largest) :: scan n r
    else if Octets.isNameStart c then
      .name (c :: r.takeWhile Octets.isNameChar) :: scan n (r.dropWhile Octets.isNameChar)
    else match operators.find? fun op => op.toList.isPrefixOf (c :: r) with
      | some op => .op op :: scan n ((c :: r).drop op.length)
      | none => .bad :: scan n r

def assignment? (op : String) : Option (Option String) :=
  if op = "=" then some none
  else if ["<<=", ">>=", "+=", "-=", "*=", "/=", "%=", "&=", "|=", "^="].contains op then
    some (some (String.ofList op.toList.dropLast))
  else none

mutual

def expression : (budget : Nat) → List Token → Expr × List Token
  | 0, _ => (.noPrimary, [])
  | n + 1, ts =>
    match ts with
    | .name name :: .op op :: r =>
      match assignment? op with
      | some op =>
        let (e, r) := expression n r
        (.assign name op e, r)
      | none => conditional n ts
    | ts => conditional n ts
termination_by structural n => n

def conditional : (budget : Nat) → List Token → Expr × List Token
  | 0, _ => (.noPrimary, [])
  | n + 1, ts =>
    match chain n levels ts with
    | (c, .op "?" :: r) =>
      match expression n r with
      | (yes, .op ":" :: r) =>
        let (no, r) := conditional n r
        (.choice c yes no, r)
      | (yes, _) => (.choice c (.broken (some yes) "expecting ':'") (.number 0), [])
    | r => r
termination_by structural n => n

def chain : (budget : Nat) → List (List String) → List Token → Expr × List Token
  | 0, _, _ => (.noPrimary, [])
  | n + 1, [], ts => primary n ts
  | n + 1, ops :: levels, ts =>
    let (e, r) := chain n levels ts
    further n ops levels e r
termination_by structural n => n

def further : (budget : Nat) → List String → List (List String) → Expr → List Token →
    Expr × List Token
  | 0, _, _, _, _ => (.noPrimary, [])
  | n + 1, ops, levels, e, ts =>
    match ts with
    | .op op :: r =>
      if ops.contains op then
        let (e', r) := chain n levels r
        further n ops levels (.binary op e e') r
      else (e, ts)
    | ts => (e, ts)
termination_by structural n => n

def primary : (budget : Nat) → List Token → Expr × List Token
  | 0, _ => (.noPrimary, [])
  | n + 1, ts =>
    match ts with
    | .number v :: r => (.number v, r)
    | .name name :: r => (.name name, r)
    | .op "(" :: r =>
      match expression n r with
      | (e, .op ")" :: r) => (e, r)
      | (e, _) => (.broken (some e) "expecting ')'", [])
    | .op op :: r =>
      if ["-", "+", "!", "~"].contains op then
        let (e, r) := primary n r
        (.unary op e, r)
      else (.noPrimary, [])
    | _ => (.noPrimary, [])
termination_by structural n => n

end

def parse (ts : List Token) : Expr :=
  match expression (32 * (ts.length + 1)) ts with
  | (e, []) => e
  | (e, _) => .broken (some e) "expecting EOF"

def number (name : Octets) : Action Int := do
  let value := ((← get).get? name).getD []
  let isGap (c : Char) : Bool := c == ' ' || c == '\t' || c == '\n'
  let digits := ((value.dropWhile isGap).reverse.dropWhile isGap).reverse
  match if digits.isEmpty then some 0 else Octets.intOfNumeral? digits with
  | some v =>
    if v.natAbs ≤ largest ∨ v = word v then return v else throw ("Illegal number: ".toList ++ value)
  | none => throw ("Illegal number: ".toList ++ value)

def truth (b : Bool) : Int := if b then 1 else 0

def bits (f : BitVec 64 → BitVec 64 → BitVec 64) (a b : Int) : Int :=
  (f (BitVec.ofInt 64 a) (BitVec.ofInt 64 b)).toInt

def operate (op : String) (a b : Int) : Option Int :=
  let shift := (b.emod 64).toNat
  match op with
  | "+" => some (word (a + b))
  | "-" => some (word (a - b))
  | "*" => some (word (a * b))
  | "/" => if b = 0 then none else some (word (a.tdiv b))
  | "%" => if b = 0 then none else some (word (a.tmod b))
  | "<<" => some (word (a * Nat.pow 2 shift))
  | ">>" => some (a.fdiv (Nat.pow 2 shift))
  | "&" => some (bits BitVec.and a b)
  | "|" => some (bits BitVec.or a b)
  | "^" => some (bits BitVec.xor a b)
  | "==" => some (truth (a = b))
  | "!=" => some (truth (a ≠ b))
  | "<" => some (truth (a < b))
  | ">" => some (truth (a > b))
  | "<=" => some (truth (a ≤ b))
  | _ => some (truth (a ≥ b))

/-- What an operator makes of two words, or the failure that `failure` makes of a message. -/
def operateIn (failure : String → Octets) (op : String) (a b : Int) : Action Int :=
  match operate op a b with
  | some v => return v
  | none => throw (failure "division by zero")

/-- The value of an expression, found from its left to its right. A part that is not `live` is only
looked at for where the expression breaks. -/
def value (failure : String → Octets) : (live : Bool) → Expr → Action Int
  | _, .number n => return n
  | live, .name name => if live then number name else return 0
  | live, .unary op e => do
    let v ← value failure live e
    return match op with
      | "-" => word (-v)
      | "!" => truth (v = 0)
      | "~" => -v - 1
      | _ => v
  | live, .binary "&&" l r => do
    let a ← value failure live l
    let b ← value failure (live && a ≠ 0) r
    return truth (a ≠ 0 && b ≠ 0)
  | live, .binary "||" l r => do
    let a ← value failure live l
    let b ← value failure (live && a = 0) r
    return truth (a ≠ 0 || b ≠ 0)
  | live, .binary op l r => do
    let a ← value failure live l
    let b ← value failure live r
    if live then operateIn failure op a b else return b
  | live, .choice c yes no => do
    let v ← value failure live c
    let a ← value failure (live && v ≠ 0) yes
    let b ← value failure (live && v = 0) no
    return if v ≠ 0 then a else b
  | live, .assign name op e => do
    let v ← value failure live e
    if live then
      let v ← match op with
        | none => pure v
        | some op => operateIn failure op (← number name) v
      State.setVariable name (Octets.ofInt v)
      return v
    else return v
  | live, .broken sofar message => do
    match sofar with
    | some e =>
      let _ ← value failure live e
      throw (failure message)
    | none => throw (failure message)

def eval (text : Octets) : Action Int :=
  let failure (message : String) : Octets :=
    "arithmetic expression: ".toList ++ message.toList ++ ": \"".toList ++ text ++ ['"']
  value failure true (parse (scan (text.length + 1) text))

end LineShell.Posix.Arithmetic
