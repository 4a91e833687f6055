import LineShell.Text.Utf8

namespace LineShell.Text

def chunkSize : Nat := 8192

def chunks (n : Nat) (bytes : List UInt8) : List (List UInt8) :=
  if _h : n = 0 ∨ bytes = [] then []
  else bytes.take n :: chunks n (bytes.drop n)
termination_by bytes.length
decreasing_by
  have : bytes.length ≠ 0 := fun hl => _h (.inr (List.length_eq_zero_iff.1 hl))
  simp only [List.length_drop]
  omega

theorem flatten_chunks (n : Nat) (hn : n ≠ 0) (bytes : List UInt8) :
    (chunks n bytes).flatten = bytes := by
  fun_induction chunks n bytes with
  | case1 bytes h =>
    rcases h with h | h
    · exact absurd h hn
    · simp [h]
  | case2 bytes h ih => simp [ih]

/-- A string that fits is a chunk by itself. -/
theorem chunks_of_length_le {n : Nat} {bytes : List UInt8} (hn : n ≠ 0) (hne : bytes ≠ [])
    (h : bytes.length ≤ n) : chunks n bytes = [bytes] := by
  have hdone : chunks n [] = [] := by
    rw [chunks, dif_pos (.inr rfl)]
  have hmore : ¬ (n = 0 ∨ bytes = []) := not_or.mpr ⟨hn, hne⟩
  rw [chunks, dif_neg hmore, List.take_of_length_le h, List.drop_of_length_le h, hdone]

namespace Utf8

/-- Decodes a chunk after the bytes held from the one before: its characters, and the bytes held
for the next. -/
def Pending.feed (p : Pending) (chunk : List UInt8) : Except Flaw (List Char × Pending) :=
  let d := (Decoder.mk p []).feed chunk
  match firstFlaw 0 d.pieces with
  | some flaw => .error flaw
  | Option.none => .ok (d.pieces.map Piece.toChar, d.pending)

def Pending.finish (p : Pending) : Except Flaw Unit :=
  match firstFlaw 0 (Decoder.mk p []).close.pieces with
  | some flaw => .error flaw
  | Option.none => .ok ()

/-- The text of chunks after the bytes held, up to the first chunk with a flaw. Positions of flaws
count from the first byte held. -/
def decodeAfter (p : Pending) : List (List UInt8) → List Char × Option Flaw
  | [] =>
    match p.finish with
    | .ok () => ([], Option.none)
    | .error flaw => ([], some flaw)
  | chunk :: r =>
    match p.feed chunk with
    | .error flaw => ([], some flaw)
    | .ok (text, p) =>
      let (more, flaw?) := decodeAfter p r
      (text ++ more, flaw?)

/-- The text of a byte string that is read in chunks, up to the first chunk with a flaw. -/
def decodeUpTo (chunks : List (List UInt8)) : List Char × Option Flaw := decodeAfter .none chunks

end Utf8

end LineShell.Text
