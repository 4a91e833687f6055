import LineShell.Text.Hex

namespace LineShell.Text.Utf8

inductive Reason where
  /-- No sequence starts with this byte. -/
  | start
  /-- The byte after the stretch does not continue the sequence. -/
  | continuation
  /-- The input ends inside the sequence. -/
  | cut
deriving Repr, DecidableEq

def Reason.message : Reason → String
  | .start => "invalid start byte"
  | .continuation => "invalid continuation byte"
  | .cut => "unexpected end of data"

inductive Piece where
  | char (c : Char)
  | broken (first : UInt8) (others : List UInt8) (reason : Reason)
deriving Repr, DecidableEq

/-- The number of bytes of the sequence that a byte starts, if it starts one of several bytes. -/
def sequenceLength (b : UInt8) : Option Nat :=
  let n := b.toNat
  if 0xC2 ≤ n ∧ n ≤ 0xDF then some 2
  else if 0xE0 ≤ n ∧ n ≤ 0xEF then some 3
  else if 0xF0 ≤ n ∧ n ≤ 0xF4 then some 4
  else none

/-- Whether `b` may be the second byte of a sequence that starts with `a`. The four restricted
starts exclude overlong forms, surrogates and numbers past the last code point. -/
def continuesStart (a b : UInt8) : Bool :=
  let n := b.toNat
  let low := if a = 0xE0 then 0xA0 else if a = 0xF0 then 0x90 else 0x80
  let high := if a = 0xED then 0x9F else if a = 0xF4 then 0x8F else 0xBF
  low ≤ n && n ≤ high

def isContinuation (b : UInt8) : Bool := 0x80 ≤ b.toNat && b.toNat ≤ 0xBF

def pair (a b : UInt8) : Char :=
  Char.ofNat ((a.toNat - 0xC0) * 64 + (b.toNat - 0x80))

def triple (a b c : UInt8) : Char :=
  Char.ofNat ((a.toNat - 0xE0) * 4096 + (b.toNat - 0x80) * 64 + (c.toNat - 0x80))

def quadruple (a b c d : UInt8) : Char :=
  Char.ofNat ((a.toNat - 0xF0) * 262144 + (b.toNat - 0x80) * 4096 + (c.toNat - 0x80) * 64 +
    (d.toNat - 0x80))

inductive Pending where
  | none
  | one (a : UInt8)
  | two (a b : UInt8)
  | three (a b c : UInt8)
deriving Repr, DecidableEq

/-- A decoder: the sequence begun, and the pieces read so far in reverse. -/
structure Decoder where
  pending : Pending
  reversed : List Piece
deriving Repr, DecidableEq

namespace Decoder

def start : Decoder := ⟨.none, []⟩

def begin (pieces : List Piece) (b : UInt8) : Decoder :=
  if b.toNat < 0x80 then ⟨.none, .char (Char.ofNat b.toNat) :: pieces⟩
  else if (sequenceLength b).isSome then ⟨.one b, pieces⟩
  else ⟨.none, .broken b [] .start :: pieces⟩

/-- Takes in one byte. A byte that does not continue the sequence begun breaks it off and starts
anew. -/
def push (d : Decoder) (x : UInt8) : Decoder :=
  match d.pending with
  | .none => begin d.reversed x
  | .one a =>
    if continuesStart a x then
      if sequenceLength a = some 2 then ⟨.none, .char (pair a x) :: d.reversed⟩
      else ⟨.two a x, d.reversed⟩
    else begin (.broken a [] .continuation :: d.reversed) x
  | .two a b =>
    if isContinuation x then
      if sequenceLength a = some 3 then ⟨.none, .char (triple a b x) :: d.reversed⟩
      else ⟨.three a b x, d.reversed⟩
    else begin (.broken a [b] .continuation :: d.reversed) x
  | .three a b c =>
    if isContinuation x then ⟨.none, .char (quadruple a b c x) :: d.reversed⟩
    else begin (.broken a [b, c] .continuation :: d.reversed) x

def feed (d : Decoder) (chunk : List UInt8) : Decoder :=
  chunk.foldl push d

theorem feed_append (d : Decoder) (a b : List UInt8) :
    d.feed (a ++ b) = (d.feed a).feed b := by
  simp [feed, List.foldl_append]

def close (d : Decoder) : Decoder :=
  match d.pending with
  | .none => d
  | .one a => ⟨.none, .broken a [] .cut :: d.reversed⟩
  | .two a b => ⟨.none, .broken a [b] .cut :: d.reversed⟩
  | .three a b c => ⟨.none, .broken a [b, c] .cut :: d.reversed⟩

def pieces (d : Decoder) : List Piece := d.reversed.reverse

end Decoder

def pieces (bytes : List UInt8) : List Piece :=
  (Decoder.start.feed bytes).close.pieces

structure Flaw where
  /-- The first byte at fault. -/
  byte : UInt8
  position : Nat
  length : Nat
  reason : Reason
deriving Repr, DecidableEq

def Flaw.message (f : Flaw) : String :=
  "'utf-8' codec can't decode " ++
    (if f.length = 1 then
      "byte 0x" ++ String.ofList (hex 2 f.byte.toNat) ++ " in position " ++
        toString f.position
    else
      "bytes in position " ++ toString f.position ++ "-" ++
        toString (f.position + f.length - 1)) ++
    ": " ++ f.reason.message

def firstFlaw (position : Nat) : List Piece → Option Flaw
  | [] => none
  | .char c :: r => firstFlaw (position + c.utf8Size) r
  | .broken b bs reason :: _ => some ⟨b, position, bs.length + 1, reason⟩

def Piece.toChar : Piece → Char
  | .char c => c
  | .broken .. => '\uFFFD'

def decode (bytes : List UInt8) : Except Flaw (List Char) :=
  let ps := pieces bytes
  match firstFlaw 0 ps with
  | some f => .error f
  | none => .ok (ps.map Piece.toChar)

def decodeLossy (bytes : List UInt8) : List Char :=
  (pieces bytes).map Piece.toChar

def encode (s : List Char) : List UInt8 :=
  s.flatMap String.utf8EncodeChar

end LineShell.Text.Utf8
