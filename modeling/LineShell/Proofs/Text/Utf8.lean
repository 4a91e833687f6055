import LineShell.Text.Chunks

namespace LineShell.Text.Utf8

theorem toNat_ofNat {n : Nat} (h : n < 256) : (UInt8.ofNat n).toNat = n :=
  UInt8.toNat_ofNat_of_lt h

theorem ofNat_eq_iff {m n : Nat} (hm : m < 256) (hn : n < 256) :
    UInt8.ofNat m = UInt8.ofNat n ↔ m = n := by
  rw [← UInt8.toNat_inj, toNat_ofNat hm, toNat_ofNat hn]

theorem continuesStart_ofNat {m n : Nat} (hm : m < 256) (hn : n < 256) :
    continuesStart (UInt8.ofNat m) (UInt8.ofNat n) = true ↔
      (if m = 0xE0 then 0xA0 else if m = 0xF0 then 0x90 else 0x80) ≤ n ∧
        n ≤ if m = 0xED then 0x9F else if m = 0xF4 then 0x8F else 0xBF := by
  have h : ∀ k < 256, (UInt8.ofNat m = UInt8.ofNat k) = (m = k) :=
    fun k hk => propext (ofNat_eq_iff hm hk)
  have hE0 := h 0xE0 (by decide)
  have hF0 := h 0xF0 (by decide)
  have hED := h 0xED (by decide)
  have hF4 := h 0xF4 (by decide)
  simp only [continuesStart, toNat_ofNat hn, Bool.and_eq_true, decide_eq_true_eq]
  exact Iff.of_eq (by simp only [← hE0, ← hF0, ← hED, ← hF4]; rfl)

namespace Decoder

variable {pieces : List Piece} {a b c x : UInt8}

theorem push_ascii (h : x.toNat < 0x80) :
    push ⟨.none, pieces⟩ x = ⟨.none, .char (Char.ofNat x.toNat) :: pieces⟩ := by
  simp [push, begin, h]

theorem push_start {n : Nat} (hx : ¬ x.toNat < 0x80) (h : sequenceLength x = some n) :
    push ⟨.none, pieces⟩ x = ⟨.one x, pieces⟩ := by
  simp [push, begin, hx, h]

theorem push_pair (ha : sequenceLength a = some 2) (h : continuesStart a x = true) :
    push ⟨.one a, pieces⟩ x = ⟨.none, .char (pair a x) :: pieces⟩ := by
  simp [push, h, ha]

theorem push_second (ha : sequenceLength a ≠ some 2) (h : continuesStart a x = true) :
    push ⟨.one a, pieces⟩ x = ⟨.two a x, pieces⟩ := by
  simp [push, h, ha]

theorem push_triple (ha : sequenceLength a = some 3) (h : isContinuation x = true) :
    push ⟨.two a b, pieces⟩ x = ⟨.none, .char (triple a b x) :: pieces⟩ := by
  simp [push, h, ha]

theorem push_third (ha : sequenceLength a ≠ some 3) (h : isContinuation x = true) :
    push ⟨.two a b, pieces⟩ x = ⟨.three a b x, pieces⟩ := by
  simp [push, h, ha]

theorem push_quadruple (h : isContinuation x = true) :
    push ⟨.three a b c, pieces⟩ x = ⟨.none, .char (quadruple a b c x) :: pieces⟩ := by
  simp [push, h]

end Decoder

theorem sequenceLength_ofNat {n : Nat} (h : n < 256) :
    sequenceLength (UInt8.ofNat n) =
      if 0xC2 ≤ n ∧ n ≤ 0xDF then some 2
      else if 0xE0 ≤ n ∧ n ≤ 0xEF then some 3
      else if 0xF0 ≤ n ∧ n ≤ 0xF4 then some 4
      else none := by
  simp only [sequenceLength, toNat_ofNat h]

theorem isContinuation_ofNat {n : Nat} (h : 0x80 ≤ n ∧ n ≤ 0xBF) :
    isContinuation (UInt8.ofNat n) = true := by
  have hn : n < 256 := by omega
  simp only [isContinuation, toNat_ofNat hn, Bool.and_eq_true, decide_eq_true_eq]
  exact h

namespace Decoder

variable {a b c d : Nat} (pieces : List Piece)

theorem feed_one (ha : a < 0x80) :
    feed ⟨.none, pieces⟩ [UInt8.ofNat a] = ⟨.none, .char (Char.ofNat a) :: pieces⟩ := by
  have hn : (UInt8.ofNat a).toNat = a := toNat_ofNat (by omega)
  simp only [feed, List.foldl_cons, List.foldl_nil]
  rw [push_ascii (by omega), hn]

theorem feed_two (ha : 0xC2 ≤ a ∧ a ≤ 0xDF) (hb : 0x80 ≤ b ∧ b ≤ 0xBF) :
    feed ⟨.none, pieces⟩ [UInt8.ofNat a, UInt8.ofNat b] =
      ⟨.none, .char (Char.ofNat ((a - 0xC0) * 64 + (b - 0x80))) :: pieces⟩ := by
  have ha' : (UInt8.ofNat a).toNat = a := toNat_ofNat (by omega)
  have hb' : (UInt8.ofNat b).toNat = b := toNat_ofNat (by omega)
  have hs : sequenceLength (UInt8.ofNat a) = some 2 := by
    rw [sequenceLength_ofNat (by omega), if_pos ha]
  have hc : continuesStart (UInt8.ofNat a) (UInt8.ofNat b) = true := by
    rw [continuesStart_ofNat (by omega) (by omega)]
    grind
  simp only [feed, List.foldl_cons, List.foldl_nil]
  rw [push_start (by omega) hs, push_pair hs hc, pair, ha', hb']

theorem feed_three (ha : 0xE0 ≤ a ∧ a ≤ 0xEF) (hb : 0x80 ≤ b ∧ b ≤ 0xBF)
    (hc : 0x80 ≤ c ∧ c ≤ 0xBF) (hlow : a = 0xE0 → 0xA0 ≤ b) (hhigh : a = 0xED → b ≤ 0x9F) :
    feed ⟨.none, pieces⟩ [UInt8.ofNat a, UInt8.ofNat b, UInt8.ofNat c] =
      ⟨.none, .char (Char.ofNat ((a - 0xE0) * 4096 + (b - 0x80) * 64 + (c - 0x80))) ::
        pieces⟩ := by
  have ha' : (UInt8.ofNat a).toNat = a := toNat_ofNat (by omega)
  have hb' : (UInt8.ofNat b).toNat = b := toNat_ofNat (by omega)
  have hc' : (UInt8.ofNat c).toNat = c := toNat_ofNat (by omega)
  have hs : sequenceLength (UInt8.ofNat a) = some 3 := by
    rw [sequenceLength_ofNat (by omega), if_neg (by omega), if_pos ha]
  have hk : continuesStart (UInt8.ofNat a) (UInt8.ofNat b) = true := by
    rw [continuesStart_ofNat (by omega) (by omega)]
    grind
  simp only [feed, List.foldl_cons, List.foldl_nil]
  rw [push_start (by omega) hs, push_second (by rw [hs]; simp) hk,
    push_triple hs (isContinuation_ofNat hc), triple, ha', hb', hc']

theorem feed_four (ha : 0xF0 ≤ a ∧ a ≤ 0xF4) (hb : 0x80 ≤ b ∧ b ≤ 0xBF)
    (hc : 0x80 ≤ c ∧ c ≤ 0xBF) (hd : 0x80 ≤ d ∧ d ≤ 0xBF) (hlow : a = 0xF0 → 0x90 ≤ b)
    (hhigh : a = 0xF4 → b ≤ 0x8F) :
    feed ⟨.none, pieces⟩ [UInt8.ofNat a, UInt8.ofNat b, UInt8.ofNat c, UInt8.ofNat d] =
      ⟨.none, .char (Char.ofNat ((a - 0xF0) * 262144 + (b - 0x80) * 4096 + (c - 0x80) * 64 +
        (d - 0x80))) :: pieces⟩ := by
  have ha' : (UInt8.ofNat a).toNat = a := toNat_ofNat (by omega)
  have hb' : (UInt8.ofNat b).toNat = b := toNat_ofNat (by omega)
  have hc' : (UInt8.ofNat c).toNat = c := toNat_ofNat (by omega)
  have hd' : (UInt8.ofNat d).toNat = d := toNat_ofNat (by omega)
  have hs : sequenceLength (UInt8.ofNat a) = some 4 := by
    rw [sequenceLength_ofNat (by omega), if_neg (by omega), if_neg (by omega), if_pos ha]
  have hk : continuesStart (UInt8.ofNat a) (UInt8.ofNat b) = true := by
    rw [continuesStart_ofNat (by omega) (by omega)]
    grind
  simp only [feed, List.foldl_cons, List.foldl_nil]
  rw [push_start (by omega) hs, push_second (by rw [hs]; simp) hk,
    push_third (by rw [hs]; simp) (isContinuation_ofNat hc),
    push_quadruple (isContinuation_ofNat hd), quadruple, ha', hb', hc', hd']

/-- The bytes of a character are read as this character. -/
theorem feed_encodeChar (x : Char) :
    feed ⟨.none, pieces⟩ (String.utf8EncodeChar x) = ⟨.none, .char x :: pieces⟩ := by
  have hx : Char.ofNat x.toNat = x := Char.ofNat_toNat x
  have hn : x.val.toNat = x.toNat := rfl
  have hv : x.toNat < 0xD800 ∨ 0xDFFF < x.toNat ∧ x.toNat < 0x110000 := x.valid
  have hchar : ∀ m, m = x.toNat → Char.ofNat m = x := fun m hm => by rw [hm, hx]
  simp only [String.utf8EncodeChar, hn]
  split
  · rw [feed_one pieces (by omega), hx]
  · split
    · rw [feed_two pieces (by omega) (by omega), hchar _ (by omega)]
    · split
      · rw [feed_three pieces (by omega) (by omega) (by omega) (by omega) (by omega),
          hchar _ (by omega)]
      · rw [feed_four pieces (by omega) (by omega) (by omega) (by omega) (by omega) (by omega),
          hchar _ (by omega)]

/-- The bytes of a text are read as its characters. -/
theorem feed_encode (s : List Char) :
    feed ⟨.none, pieces⟩ (encode s) = ⟨.none, (s.map Piece.char).reverse ++ pieces⟩ := by
  induction s generalizing pieces with
  | nil => rfl
  | cons x r ih =>
    have he : encode (x :: r) = String.utf8EncodeChar x ++ encode r := rfl
    rw [he, feed_append, feed_encodeChar, ih]
    simp

theorem begin_reversed (a b : List Piece) (x : UInt8) :
    begin (a ++ b) x = ⟨(begin a x).pending, (begin a x).reversed ++ b⟩ := by
  unfold begin
  split
  · rfl
  · split <;> rfl

theorem push_reversed (p : Pending) (a b : List Piece) (x : UInt8) :
    push ⟨p, a ++ b⟩ x = ⟨(push ⟨p, a⟩ x).pending, (push ⟨p, a⟩ x).reversed ++ b⟩ := by
  cases p with
  | none => exact begin_reversed a b x
  | one y =>
    simp only [push]
    split
    · split <;> rfl
    · exact begin_reversed (_ :: a) b x
  | two y z =>
    simp only [push]
    split
    · split <;> rfl
    · exact begin_reversed (_ :: a) b x
  | three y z u =>
    simp only [push]
    split
    · rfl
    · exact begin_reversed (_ :: a) b x

/-- A decoder does not look back. -/
theorem feed_reversed (p : Pending) (a b : List Piece) (chunk : List UInt8) :
    feed ⟨p, a ++ b⟩ chunk =
      ⟨(feed ⟨p, a⟩ chunk).pending, (feed ⟨p, a⟩ chunk).reversed ++ b⟩ := by
  induction chunk generalizing p a with
  | nil => rfl
  | cons x r ih =>
    simp only [feed, List.foldl_cons] at ih ⊢
    rw [push_reversed, ih]

theorem pieces_close_reversed (p : Pending) (a b : List Piece) :
    (Decoder.mk p (a ++ b)).close.pieces = b.reverse ++ (Decoder.mk p a).close.pieces := by
  cases p <;> simp [close, Decoder.pieces]

/-- The pieces of two chunks are those of the first and then those of the second, read from where
the first one stops. -/
theorem pieces_feed_append (p : Pending) (a b : List UInt8) :
    (feed ⟨p, []⟩ (a ++ b)).close.pieces =
      (feed ⟨p, []⟩ a).pieces ++ (feed ⟨(feed ⟨p, []⟩ a).pending, []⟩ b).close.pieces := by
  have h := feed_reversed (feed ⟨p, []⟩ a).pending [] (feed ⟨p, []⟩ a).reversed b
  rw [List.nil_append] at h
  rw [feed_append, h, pieces_close_reversed]
  rfl

end Decoder

theorem firstFlaw_eq_none_iff {position : Nat} {ps : List Piece} :
    firstFlaw position ps = none ↔ ∀ p ∈ ps, ∃ c, p = .char c := by
  induction ps generalizing position with
  | nil => simp [firstFlaw]
  | cons p r ih => cases p <;> simp [firstFlaw, ih]

theorem firstFlaw_append_eq_none_iff {position m n : Nat} {a b : List Piece} :
    firstFlaw position (a ++ b) = none ↔ firstFlaw m a = none ∧ firstFlaw n b = none := by
  simp only [firstFlaw_eq_none_iff, List.mem_append]
  grind

theorem decode_eq_ok_iff {bytes : List UInt8} {text : List Char} :
    decode bytes = .ok text ↔
      firstFlaw 0 (pieces bytes) = none ∧ (pieces bytes).map Piece.toChar = text := by
  unfold decode
  dsimp only
  cases firstFlaw 0 (pieces bytes) <;> simp

/-- What has been encoded is decoded again. -/
theorem decode_encode (s : List Char) : decode (encode s) = .ok s := by
  have hp : pieces (encode s) = s.map Piece.char := by
    rw [pieces, Decoder.start, Decoder.feed_encode]
    simp [Decoder.close, Decoder.pieces]
  rw [decode_eq_ok_iff, hp, firstFlaw_eq_none_iff]
  constructor
  · intro p hm
    obtain ⟨c, -, rfl⟩ := List.mem_map.mp hm
    exact ⟨c, rfl⟩
  · rw [List.map_map]
    exact List.map_id' s

/-- Different texts have different bytes. -/
theorem encode_injective {s t : List Char} (h : encode s = encode t) : s = t :=
  Except.ok.inj ((decode_encode s).symm.trans (h ▸ decode_encode t))

theorem decodeAfter_of_close {p : Pending} {chunks : List (List UInt8)}
    (h : firstFlaw 0 ((Decoder.mk p []).feed chunks.flatten).close.pieces = none) :
    decodeAfter p chunks =
      (((Decoder.mk p []).feed chunks.flatten).close.pieces.map Piece.toChar, none) := by
  induction chunks generalizing p with
  | nil => cases p <;> first | rfl | cases h
  | cons chunk r ih =>
    rw [List.flatten_cons, Decoder.pieces_feed_append] at h ⊢
    obtain ⟨ha, hb⟩ := (firstFlaw_append_eq_none_iff (m := 0) (n := 0)).mp h
    have hf : p.feed chunk = .ok (((Decoder.mk p []).feed chunk).pieces.map Piece.toChar,
        ((Decoder.mk p []).feed chunk).pending) := by
      rw [Pending.feed, ha]
    rw [decodeAfter, hf]
    dsimp only
    rw [ih hb, List.map_append]

theorem close_of_decodeAfter {p : Pending} {chunks : List (List UInt8)}
    (h : (decodeAfter p chunks).2 = none) :
    firstFlaw 0 ((Decoder.mk p []).feed chunks.flatten).close.pieces = none := by
  induction chunks generalizing p with
  | nil =>
    rw [decodeAfter, Pending.finish] at h
    cases hf : firstFlaw 0 (Decoder.mk p []).close.pieces with
    | none => exact hf
    | some flaw =>
      rw [hf] at h
      cases h
  | cons chunk r ih =>
    rw [List.flatten_cons, Decoder.pieces_feed_append]
    rw [decodeAfter, Pending.feed] at h
    cases hf : firstFlaw 0 ((Decoder.mk p []).feed chunk).pieces with
    | none =>
      rw [hf] at h
      exact (firstFlaw_append_eq_none_iff (m := 0) (n := 0)).mpr ⟨hf, ih h⟩
    | some flaw =>
      rw [hf] at h
      cases h

/-- A text that is read in chunks is the text that is read at once. -/
theorem decodeUpTo_of_decode {chunks : List (List UInt8)} {text : List Char}
    (h : decode chunks.flatten = .ok text) : decodeUpTo chunks = (text, none) := by
  obtain ⟨hf, ht⟩ := decode_eq_ok_iff.mp h
  rw [decodeUpTo, decodeAfter_of_close hf]
  exact congrArg (·, none) ht

/-- Reading in chunks comes upon a flaw exactly if there is one. -/
theorem decodeUpTo_eq_none_iff (chunks : List (List UInt8)) :
    (decodeUpTo chunks).2 = none ↔ ∃ text, decode chunks.flatten = .ok text := by
  constructor
  · intro h
    exact ⟨_, decode_eq_ok_iff.mpr ⟨close_of_decodeAfter h, rfl⟩⟩
  · rintro ⟨text, h⟩
    rw [decodeUpTo_of_decode h]

end LineShell.Text.Utf8
