import LineShell.Proofs.Text.Beginning

namespace LineShell.Text.Utf8

namespace Pending

def bytes : Pending → List UInt8
  | .none => []
  | .one a => [a]
  | .two a b => [a, b]
  | .three a b c => [a, b, c]

/-- The bytes held are the beginning of a sequence, and not a whole one. -/
def Begun : Pending → Prop
  | .none => True
  | .one a => (sequenceLength a).isSome
  | .two a b => (sequenceLength a).isSome ∧ sequenceLength a ≠ some 2 ∧ continuesStart a b
  | .three a b c => sequenceLength a = some 4 ∧ continuesStart a b ∧ isContinuation c

end Pending

def Piece.bytes : Piece → List UInt8
  | .char c => String.utf8EncodeChar c
  | .broken b bs _ => b :: bs

def Decoder.bytes (d : Decoder) : List UInt8 := d.pieces.flatMap Piece.bytes ++ d.pending.bytes

section Sequences

variable {a b c d x : UInt8}

theorem sequenceLength_cases {n : Nat} (h : sequenceLength a = some n) :
    n = 2 ∧ 0xC2 ≤ a.toNat ∧ a.toNat ≤ 0xDF ∨ n = 3 ∧ 0xE0 ≤ a.toNat ∧ a.toNat ≤ 0xEF ∨
      n = 4 ∧ 0xF0 ≤ a.toNat ∧ a.toNat ≤ 0xF4 := by
  unfold sequenceLength at h
  grind

theorem sequenceLength_eq_four (h : (sequenceLength a).isSome) (htwo : sequenceLength a ≠ some 2)
    (hthree : sequenceLength a ≠ some 3) : sequenceLength a = some 4 := by
  obtain ⟨n, hn⟩ := Option.isSome_iff_exists.mp h
  rcases sequenceLength_cases hn with ⟨rfl, -⟩ | ⟨rfl, -⟩ | ⟨rfl, -⟩
  · exact absurd hn htwo
  · exact absurd hn hthree
  · exact hn

theorem isContinuation_iff : isContinuation x = true ↔ 0x80 ≤ x.toNat ∧ x.toNat ≤ 0xBF := by
  simp only [isContinuation, Bool.and_eq_true, decide_eq_true_eq]

/-- The bounds of a second byte. The four restricted starts keep out overlong forms, surrogates and
numbers that are too large. -/
theorem continuesStart_bounds (h : continuesStart a b = true) :
    0x80 ≤ b.toNat ∧ b.toNat ≤ 0xBF ∧
      (a.toNat = 0xE0 → 0xA0 ≤ b.toNat) ∧ (a.toNat = 0xED → b.toNat ≤ 0x9F) ∧
      (a.toNat = 0xF0 → 0x90 ≤ b.toNat) ∧ (a.toNat = 0xF4 → b.toNat ≤ 0x8F) := by
  have hb := continuesStart_ofNat a.toNat_lt b.toNat_lt
  rw [UInt8.ofNat_toNat, UInt8.ofNat_toNat] at hb
  have hbounds := hb.mp h
  grind

theorem toNat_val_ofNat {n : Nat} (h : n.isValidChar) : (Char.ofNat n).val.toNat = n := by
  rw [Char.ofNat, dif_pos h]
  rfl

theorem ofNat_of_eq {n : Nat} (h : n = x.toNat) : UInt8.ofNat n = x := by
  rw [h, UInt8.ofNat_toNat]

theorem utf8EncodeChar_ascii (h : x.toNat < 0x80) :
    String.utf8EncodeChar (Char.ofNat x.toNat) = [x] := by
  have hv := toNat_val_ofNat (n := x.toNat) (.inl (by omega))
  simp only [String.utf8EncodeChar, hv]
  rw [if_pos (by omega), UInt8.ofNat_toNat]

theorem utf8EncodeChar_pair (ha : sequenceLength a = some 2) (hb : continuesStart a b = true) :
    String.utf8EncodeChar (pair a b) = [a, b] := by
  have hA := sequenceLength_cases ha
  have hB := continuesStart_bounds hb
  have hv := toNat_val_ofNat (n := (a.toNat - 0xC0) * 64 + (b.toNat - 0x80)) (.inl (by omega))
  simp only [String.utf8EncodeChar, pair, hv]
  rw [if_neg (by omega), if_pos (by omega), ofNat_of_eq (x := a) (by omega),
    ofNat_of_eq (x := b) (by omega)]

theorem utf8EncodeChar_triple (ha : sequenceLength a = some 3) (hb : continuesStart a b = true)
    (hc : isContinuation c = true) : String.utf8EncodeChar (triple a b c) = [a, b, c] := by
  have hA := sequenceLength_cases ha
  have hB := continuesStart_bounds hb
  have hC := isContinuation_iff.mp hc
  have hv := toNat_val_ofNat
    (n := (a.toNat - 0xE0) * 4096 + (b.toNat - 0x80) * 64 + (c.toNat - 0x80))
    (by unfold Nat.isValidChar; omega)
  simp only [String.utf8EncodeChar, triple, hv]
  rw [if_neg (by omega), if_neg (by omega), if_pos (by omega), ofNat_of_eq (x := a) (by omega),
    ofNat_of_eq (x := b) (by omega), ofNat_of_eq (x := c) (by omega)]

theorem utf8EncodeChar_quadruple (ha : sequenceLength a = some 4)
    (hb : continuesStart a b = true) (hc : isContinuation c = true)
    (hd : isContinuation d = true) : String.utf8EncodeChar (quadruple a b c d) = [a, b, c, d] := by
  have hA := sequenceLength_cases ha
  have hB := continuesStart_bounds hb
  have hC := isContinuation_iff.mp hc
  have hD := isContinuation_iff.mp hd
  have hv := toNat_val_ofNat
    (n := (a.toNat - 0xF0) * 262144 + (b.toNat - 0x80) * 4096 + (c.toNat - 0x80) * 64 +
      (d.toNat - 0x80)) (.inr (by omega))
  simp only [String.utf8EncodeChar, quadruple, hv]
  rw [if_neg (by omega), if_neg (by omega), if_neg (by omega), ofNat_of_eq (x := a) (by omega),
    ofNat_of_eq (x := b) (by omega), ofNat_of_eq (x := c) (by omega),
    ofNat_of_eq (x := d) (by omega)]

end Sequences

namespace Decoder

theorem bytes_mk (p : Pending) (ps : List Piece) :
    (mk p ps).bytes = ps.reverse.flatMap Piece.bytes ++ p.bytes := rfl

theorem begin_bytes (ps : List Piece) (x : UInt8) :
    (begin ps x).pending.Begun ∧ (begin ps x).bytes = ps.reverse.flatMap Piece.bytes ++ [x] := by
  unfold begin
  split
  · rename_i hx
    refine ⟨trivial, ?_⟩
    simp [bytes_mk, Pending.bytes, Piece.bytes, utf8EncodeChar_ascii hx]
  · split
    · rename_i hx
      exact ⟨hx, rfl⟩
    · refine ⟨trivial, ?_⟩
      simp [bytes_mk, Pending.bytes, Piece.bytes]

theorem begin_broken_bytes (b : UInt8) (bs : List UInt8) (reason : Reason) (ps : List Piece)
    (x : UInt8) :
    (begin (.broken b bs reason :: ps) x).pending.Begun ∧
      (begin (.broken b bs reason :: ps) x).bytes =
        ps.reverse.flatMap Piece.bytes ++ b :: bs ++ [x] := by
  obtain ⟨hbegun, hbytes⟩ := begin_bytes (.broken b bs reason :: ps) x
  refine ⟨hbegun, ?_⟩
  rw [hbytes, List.reverse_cons, List.flatMap_append, List.flatMap_singleton]
  rfl

/-- A byte that is taken in is among the bytes read. -/
theorem push_bytes {d : Decoder} (h : d.pending.Begun) (x : UInt8) :
    (d.push x).pending.Begun ∧ (d.push x).bytes = d.bytes ++ [x] := by
  obtain ⟨pending, ps⟩ := d
  unfold push
  dsimp only
  -- the byte completes a character, is held as well, or breaks off what is held
  cases pending with
  | none =>
    have hnone : (mk .none ps).bytes = ps.reverse.flatMap Piece.bytes := List.append_nil _
    rw [hnone]
    exact begin_bytes ps x
  | one a =>
    dsimp only
    split
    · rename_i hx
      split
      · rename_i ha
        refine ⟨trivial, ?_⟩
        simp [bytes_mk, Pending.bytes, Piece.bytes, utf8EncodeChar_pair ha hx]
      · rename_i ha
        refine ⟨⟨h, ha, hx⟩, ?_⟩
        simp [bytes_mk, Pending.bytes]
    · exact begin_broken_bytes a [] .continuation ps x
  | two a b =>
    obtain ⟨hstart, hlong, hb⟩ := h
    dsimp only
    split
    · rename_i hx
      split
      · rename_i ha
        refine ⟨trivial, ?_⟩
        simp [bytes_mk, Pending.bytes, Piece.bytes, utf8EncodeChar_triple ha hb hx]
      · rename_i ha
        refine ⟨⟨sequenceLength_eq_four hstart hlong ha, hb, hx⟩, ?_⟩
        simp [bytes_mk, Pending.bytes]
    · exact begin_broken_bytes a [b] .continuation ps x
  | three a b c =>
    obtain ⟨ha, hb, hc⟩ := h
    dsimp only
    split
    · rename_i hx
      refine ⟨trivial, ?_⟩
      simp [bytes_mk, Pending.bytes, Piece.bytes, utf8EncodeChar_quadruple ha hb hc hx]
    · exact begin_broken_bytes a [b, c] .continuation ps x

theorem feed_bytes {d : Decoder} (h : d.pending.Begun) (chunk : List UInt8) :
    (d.feed chunk).bytes = d.bytes ++ chunk := by
  induction chunk generalizing d with
  | nil => exact (List.append_nil _).symm
  | cons x r ih =>
    obtain ⟨hbegun, hbytes⟩ := push_bytes h x
    calc (d.feed (x :: r)).bytes = ((d.push x).feed r).bytes := rfl
      _ = (d.push x).bytes ++ r := ih hbegun
      _ = d.bytes ++ x :: r := by rw [hbytes, List.append_assoc]; rfl

/-- At the end of the input the bytes held become a piece. -/
theorem close_bytes (d : Decoder) : d.close.pieces.flatMap Piece.bytes = d.bytes := by
  obtain ⟨pending, ps⟩ := d
  cases pending <;> simp [close, pieces, bytes_mk, Pending.bytes, Piece.bytes]

end Decoder

/-- The bytes of the pieces, put together, are the bytes that were cut into pieces. -/
theorem flatMap_bytes_pieces (bytes : List UInt8) : (pieces bytes).flatMap Piece.bytes = bytes := by
  rw [pieces, Decoder.close_bytes, Decoder.feed_bytes (d := Decoder.start) trivial]
  rfl

theorem encode_map_toChar {ps : List Piece} (h : Unbroken ps) :
    encode (ps.map Piece.toChar) = ps.flatMap Piece.bytes := by
  induction ps with
  | nil => rfl
  | cons p r ih =>
    obtain ⟨c, rfl⟩ := h p List.mem_cons_self
    have hr : Unbroken r := fun q hq => h q (List.mem_cons_of_mem _ hq)
    simpa [encode, Piece.toChar, Piece.bytes] using ih hr

/-- A decoded text has the bytes that it was decoded from. -/
theorem encode_of_decode {bytes : List UInt8} {text : List Char} (h : decode bytes = .ok text) :
    encode text = bytes := by
  obtain ⟨hf, rfl⟩ := decode_eq_ok_iff.mp h
  rw [encode_map_toChar (firstFlaw_eq_none_iff.mp hf), flatMap_bytes_pieces]

theorem decodeLossy_of_decode {bytes : List UInt8} {text : List Char}
    (h : decode bytes = .ok text) : decodeLossy bytes = text :=
  (decode_eq_ok_iff.mp h).2

/-- Bytes below 0x80 stand for themselves only. -/
theorem mem_utf8EncodeChar {n : Nat} (hn : n < 0x80) (c : Char) :
    UInt8.ofNat n ∈ String.utf8EncodeChar c ↔ c.toNat = n := by
  have hv : c.val.toNat = c.toNat := rfl
  simp only [String.utf8EncodeChar, hv]
  split
  · simp (disch := omega) only [List.mem_singleton, ofNat_eq_iff]
    omega
  · split
    · simp (disch := omega) only [List.mem_cons, List.not_mem_nil, or_false, ofNat_eq_iff]
      omega
    · split
      · simp (disch := omega) only [List.mem_cons, List.not_mem_nil, or_false, ofNat_eq_iff]
        omega
      · simp (disch := omega) only [List.mem_cons, List.not_mem_nil, or_false, ofNat_eq_iff]
        omega

theorem mem_encode {c : Char} (hc : c.toNat < 0x80) (s : List Char) :
    UInt8.ofNat c.toNat ∈ encode s ↔ c ∈ s := by
  rw [encode, List.mem_flatMap]
  constructor
  · rintro ⟨d, hd, hm⟩
    have he := (mem_utf8EncodeChar hc d).mp hm
    have hcd : d = c := by rw [← Char.ofNat_toNat d, he, Char.ofNat_toNat]
    exact hcd ▸ hd
  · intro h
    exact ⟨c, h, (mem_utf8EncodeChar hc c).mpr rfl⟩

end LineShell.Text.Utf8
