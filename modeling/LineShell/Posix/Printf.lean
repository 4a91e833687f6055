import LineShell.Posix.Arithmetic
import LineShell.Posix.Floating

namespace LineShell.Posix.Printf

structure Flags where
  leftAligned : Bool
  signed : Bool
  blank : Bool
  zeroFilled : Bool
  alternate : Bool
deriving Repr, DecidableEq

def Flags.ofText (s : Octets) : Flags where
  leftAligned := s.contains '-'
  signed := s.contains '+'
  blank := s.contains ' '
  zeroFilled := s.contains '0'
  alternate := s.contains '#'

inductive Size where
  | given (n : Nat)
  /-- The next argument is the size. -/
  | argument
deriving Repr, DecidableEq

inductive Piece where
  | text (s : Octets)
  | conversion (flags : Flags) (width : Size) (precision : Option Size) (kind : Char)
  /-- Nothing more is printed, because the format has a mistake. -/
  | mistake (message : Octets)
deriving Repr, DecidableEq

def isOctal (c : Char) : Bool := '0' ≤ c && c ≤ '7'

/-- The characters that an escape stands for, after the backslash; `digits` is how many octal
digits are read at most. -/
def escape (digits : Nat) : Octets → Octets × Octets
  | [] => (['\\'], [])
  | c :: r =>
    if isOctal c then
      let ds := ((c :: r).take digits).takeWhile isOctal
      let n := ds.foldl (fun n d => n * 8 + (d.toNat - 48)) 0
      ([Char.ofNat (n % 256)], (c :: r).drop ds.length)
    else match c with
      | 'a' => (['\x07'], r)
      | 'b' => (['\x08'], r)
      | 'e' => (['\x1b'], r)
      | 'f' => (['\x0c'], r)
      | 'n' => (['\n'], r)
      | 'r' => (['\r'], r)
      | 't' => (['\t'], r)
      | 'v' => (['\x0b'], r)
      | '\\' => (['\\'], r)
      | c => (['\\'], c :: r)

def conversion (s : Octets) : Piece × Octets :=
  let isFlag (c : Char) : Bool := "-0+ #".toList.contains c
  let flags := s.takeWhile isFlag
  let size (s : Octets) : Size × Octets :=
    match s with
    | '*' :: r => (.argument, r)
    | s => let (n, r) := Octets.digitsAtFront 10 s; (.given n, r)
  let (width, r) := size (s.dropWhile isFlag)
  let (precision, r) :=
    match r with
    | '.' :: r => let (n, r) := size r; (some n, r)
    | r => (none, r)
  match s, r with
  | '%' :: r, _ => (.text ['%'], r)
  | _, [] => (.mistake "missing format character".toList, [])
  | s, c :: r =>
    if "bcsdiouxXaAeEfFgG".toList.contains c then
      (.conversion (.ofText flags) width precision c, r)
    else (.mistake ('%' :: s.take (s.length - r.length) ++ ": invalid directive".toList), r)

def pieces : (budget : Nat) → Octets → List Piece
  | 0, _ => []
  | _, [] => []
  | n + 1, c :: r =>
    if c = '%' then
      let (p, r) := conversion r
      p :: pieces n r
    else if c = '\\' then
      let (s, r) := escape 3 r
      .text s :: pieces n r
    else .text [c] :: pieces n r

def unescape : (budget : Nat) → Octets → Octets × Bool
  | 0, s => (s, true)
  | _, [] => ([], true)
  | n + 1, c :: r =>
    if c = '\\' then
      match r with
      | 'c' :: _ => ([], false)
      | '0' :: r =>
        let (s, r) := if (r.head?.map isOctal).getD false then escape 3 r else (['\x00'], r)
        let (t, on) := unescape n r
        (s ++ t, on)
      | r =>
        let (s, r) := escape 3 r
        let (t, on) := unescape n r
        (s ++ t, on)
    else
      let (t, on) := unescape n r
      (c :: t, on)

def pad (leftAligned : Bool) (width : Nat) (s : Octets) : Octets :=
  let blanks := List.replicate (width - s.length) ' '
  if leftAligned then s ++ blanks else blanks ++ s

def zeroPad (width : Nat) (sign digits : Octets) : Octets :=
  sign ++ List.replicate (width - sign.length - digits.length) '0' ++ digits

def digitsOf (base n : Nat) : Octets := Nat.toDigits base n

structure Result where
  output : Octets
  complaints : List Octets
  rest : List Octets
  stopped : Bool
  /-- The mistake in the format, if one was met. -/
  mistake : Option Octets

/-- The value of a numeric argument between bounds, and what is wrong with it: a number, or a quote
and a character. -/
def numeric (least greatest : Int) (arg : Octets) : Int × Option Octets :=
  match arg with
  | [] => (0, none)
  | '"' :: r | '\'' :: r => ((r.head?.map (·.toNat : Char → Int)).getD 0, none)
  | _ =>
    let s := arg.dropWhile fun c => c == ' ' || c == '\t' || c == '\n'
    let (negative, digits) :=
      match s with
      | '-' :: r => (true, r)
      | '+' :: r => (false, r)
      | s => (false, s)
    let (n, rest) := Octets.numeralAtFront digits
    let complaint (message : String) : Option Octets := some (arg ++ ": ".toList ++ message.toList)
    if rest.length = digits.length then (0, complaint "expected numeric value")
    else
      let v : Int := if negative then -(n : Int) else n
      (max least (min greatest v),
        if !rest.isEmpty then complaint "not completely converted"
        else if v < least ∨ greatest < v then complaint "Numerical result out of range"
        else none)

/-- The floating-point value of an argument, and what is wrong with it: a number, or a quote and a
character. -/
def floating (arg : Octets) : Decimal.Double × Option Octets :=
  let complaint (message : String) : Option Octets := some (arg ++ ": ".toList ++ message.toList)
  match arg with
  | [] => (.ofInt 0, none)
  | '"' :: r | '\'' :: r => (.ofInt ((r.head?.map (·.toNat : Char → Int)).getD 0), none)
  | arg =>
    match Floating.read? arg with
    | none => (.ofInt 0, complaint "expected numeric value")
    | some r =>
      (r.value,
        if !r.rest.isEmpty then complaint "not completely converted"
        else if r.isBeyond then complaint "Numerical result out of range"
        else none)

def floatingText (flags : Flags) (width : Nat) (precision : Option Nat) (kind : Char)
    (v : Decimal.Double) : Octets :=
  let isNegative : Bool := match v with
    | .finite negative _ _ | .infinite negative => negative
    | .notANumber => false
  let sign := if isNegative then ['-'] else if flags.signed then ['+']
    else if flags.blank then [' '] else []
  let body := v.laidOut kind.toLower ⟨precision, flags.alternate⟩
  let body := if kind.isUpper then body.map Char.toUpper else body
  if flags.zeroFilled && !flags.leftAligned && v.isFinite then
    let mark := if kind.toLower = 'a' then 2 else 0
    zeroPad width (sign ++ body.take mark) (body.drop mark)
  else pad flags.leftAligned width (sign ++ body)

/-- One conversion of one argument: its output, what is wrong with the argument, and whether
printing goes on. -/
def convert (flags : Flags) (width : Nat) (precision : Option Nat) (kind : Char) (arg : Octets) :
    Octets × Option Octets × Bool :=
  let cut (s : Octets) : Octets := (precision.map fun n => s.take n).getD s
  let integer (digits : Int → Octets × Octets) : Octets × Option Octets × Bool :=
    let half : Int := Arithmetic.wordSize / 2
    let (v, complaint) :=
      if kind = 'd' ∨ kind = 'i' then numeric (-half) (half - 1) arg
      else numeric (1 - Arithmetic.wordSize) (Arithmetic.wordSize - 1) arg
    let (sign, ds) := digits v
    let ds := if v = 0 && precision = some 0 then [] else ds
    let ds := (precision.map fun n => List.replicate (n - ds.length) '0' ++ ds).getD ds
    let shown :=
      if flags.zeroFilled && !flags.leftAligned && precision.isNone then zeroPad width sign ds
      else pad flags.leftAligned width (sign ++ ds)
    (shown, complaint, true)
  let unsigned (base : Nat) (mark : String) (v : Int) : Octets × Octets :=
    (if flags.alternate && v ≠ 0 then mark.toList else [],
      digitsOf base (v.emod Arithmetic.wordSize).toNat)
  match kind with
  | 's' => (pad flags.leftAligned width (cut arg), none, true)
  | 'b' =>
    let (s, on) := unescape (arg.length + 1) arg
    (pad flags.leftAligned width (cut s), none, on)
  | 'c' => (pad flags.leftAligned width [arg.headD '\x00'], none, true)
  | 'd' | 'i' =>
    integer fun v =>
      (if v < 0 then ['-'] else if flags.signed then ['+'] else if flags.blank then [' '] else [],
        digitsOf 10 v.natAbs)
  | 'u' => integer (unsigned 10 "")
  | 'o' => integer (unsigned 8 "0")
  | 'x' => integer (unsigned 16 "0x")
  | 'X' =>
    integer fun v => let (s, ds) := unsigned 16 "0X" v; (s, ds.map Char.toUpper)
  | kind =>
    let (v, complaint) := floating arg
    (floatingText flags width precision kind v, complaint, true)

/-- The value of a size, the arguments after it, and what is wrong with its argument. -/
def Size.value : Size → List Octets → Int × List Octets × Option Octets
  | .given n, args => (n, args, none)
  | .argument, args =>
    let (v, complaint) := numeric (-Arithmetic.wordSize) Arithmetic.wordSize (args.headD [])
    (v, args.tail, complaint)

def once : List Piece → List Octets → Result
  | [], args => ⟨[], [], args, false, none⟩
  | .mistake message :: _, args => ⟨[], [], args, true, some message⟩
  | .text s :: ps, args =>
    let r := once ps args
    { r with output := s ++ r.output }
  | .conversion f w p k :: ps, args =>
    let (w, args, first) := w.value args
    let f := { f with leftAligned := f.leftAligned || w < 0 }
    let (p, args, second) :=
      match p with
      | none => (none, args, none)
      | some p => let (p, args, c) := p.value args; (if p < 0 then none else some p.toNat, args, c)
    let (out, third, on) := convert f w.natAbs p k (args.headD [])
    let complaints := first.toList ++ second.toList ++ third.toList
    if on then
      let r := once ps args.tail
      { r with output := out ++ r.output, complaints := complaints ++ r.complaints }
    else ⟨out, complaints, args.tail, true, none⟩

def repeated : (budget : Nat) → List Piece → List Octets → Result
  | 0, _, args => ⟨[], [], args, true, none⟩
  | n + 1, ps, args =>
    let r := once ps args
    if r.stopped || r.rest.isEmpty || r.rest.length = args.length then r
    else
      let r' := repeated n ps r.rest
      { r' with output := r.output ++ r'.output, complaints := r.complaints ++ r'.complaints }

def print (format : Octets) (args : List Octets) : Result :=
  repeated (args.length + 1) (pieces (format.length + 1) format) args

end LineShell.Posix.Printf
