import LineShell.Proofs.Text.Lines
import LineShell.Proofs.Text.Utf8
import Mathlib.Data.List.Induction

namespace LineShell.Text

namespace Utf8

open Decoder (start)

def Unbroken (ps : List Piece) : Prop := ∀ p ∈ ps, ∃ c, p = .char c

theorem unbroken_append {a b : List Piece} : Unbroken (a ++ b) ↔ Unbroken a ∧ Unbroken b :=
  List.forall_mem_append

theorem unbroken_reverse {ps : List Piece} : Unbroken ps.reverse ↔ Unbroken ps := by
  simp only [Unbroken, List.mem_reverse]

theorem not_unbroken_broken {b : UInt8} {bs : List UInt8} {reason : Reason} {ps : List Piece} :
    ¬ Unbroken (.broken b bs reason :: ps) := by
  intro h
  obtain ⟨c, hc⟩ := h _ List.mem_cons_self
  cases hc

theorem begin_cases (ps : List Piece) (x : UInt8) :
    (Decoder.begin ps x).pending = .none ∨ (Decoder.begin ps x).reversed = ps := by
  unfold Decoder.begin
  split
  · exact .inl rfl
  · split
    · exact .inr rfl
    · exact .inl rfl

/-- A byte that breaks nothing off completes a character, or only joins the sequence begun. -/
theorem push_cases {d : Decoder} {x : UInt8} (h : Unbroken (d.push x).reversed) :
    (d.push x).pending = .none ∨ (d.push x).reversed = d.reversed := by
  have hbroken : ∀ b bs reason,
      ¬ Unbroken (Decoder.begin (.broken b bs reason :: d.reversed) x).reversed := by
    intro b bs reason hb
    have hr := Decoder.begin_reversed [] (.broken b bs reason :: d.reversed) x
    rw [List.nil_append] at hr
    rw [hr] at hb
    exact not_unbroken_broken (unbroken_append.mp hb).2
  unfold Decoder.push at h ⊢
  cases hp : d.pending with
  | none => exact begin_cases d.reversed x
  | one a =>
    simp only [hp] at h ⊢
    split at h
    · rename_i hc
      rw [if_pos hc]
      split
      · exact .inl rfl
      · exact .inr rfl
    · exact absurd h (hbroken _ _ _)
  | two a b =>
    simp only [hp] at h ⊢
    split at h
    · rename_i hc
      rw [if_pos hc]
      split
      · exact .inl rfl
      · exact .inr rfl
    · exact absurd h (hbroken _ _ _)
  | three a b c =>
    simp only [hp] at h ⊢
    split at h
    · rename_i hc
      rw [if_pos hc]
      exact .inl rfl
    · exact absurd h (hbroken _ _ _)

/-- The characters that have been read are those of some beginning, after which no sequence is
under way. -/
theorem exists_between (bytes : List UInt8) (h : Unbroken (start.feed bytes).reversed) :
    ∃ good, good <+: bytes ∧ start.feed good = ⟨.none, (start.feed bytes).reversed⟩ := by
  induction bytes using List.reverseRecOn with
  | nil => exact ⟨[], List.prefix_rfl, rfl⟩
  | append_singleton bytes x ih =>
    have hx : start.feed (bytes ++ [x]) = (start.feed bytes).push x := Decoder.feed_append _ _ _
    rw [hx] at h ⊢
    rcases push_cases h with hp | hr
    · refine ⟨bytes ++ [x], List.prefix_rfl, ?_⟩
      rw [hx, ← hp]
    · rw [hr] at h ⊢
      obtain ⟨good, hgood, hfeed⟩ := ih h
      exact ⟨good, hgood.trans (List.prefix_append _ _), hfeed⟩

theorem decode_of_feed {bytes : List UInt8} {ps : List Piece}
    (h : start.feed bytes = ⟨.none, ps⟩) (hps : Unbroken ps) :
    decode bytes = .ok (ps.reverse.map Piece.toChar) := by
  have hp : pieces bytes = ps.reverse := by
    rw [pieces, h]
    rfl
  rw [decode_eq_ok_iff, hp, firstFlaw_eq_none_iff]
  exact ⟨unbroken_reverse.mpr hps, rfl⟩

theorem feed_of_decode {bytes : List UInt8} {text : List Char} (h : decode bytes = .ok text) :
    ∃ ps, start.feed bytes = ⟨.none, ps⟩ ∧ Unbroken ps ∧ ps.reverse.map Piece.toChar = text := by
  obtain ⟨hf, ht⟩ := decode_eq_ok_iff.mp h
  have hu : Unbroken (start.feed bytes).close.pieces := firstFlaw_eq_none_iff.mp hf
  unfold pieces at ht
  generalize start.feed bytes = d at hu ht ⊢
  obtain ⟨pending, ps⟩ := d
  unfold Decoder.pieces at hu ht
  rw [unbroken_reverse] at hu
  cases pending with
  | none => exact ⟨ps, rfl, hu, ht⟩
  | one a => exact absurd hu not_unbroken_broken
  | two a b => exact absurd hu not_unbroken_broken
  | three a b c => exact absurd hu not_unbroken_broken

theorem exists_decode (read : List UInt8) (h : Unbroken (start.feed read).reversed)
    (more : List UInt8) :
    ∃ good, good <+: read ++ more ∧
      decode good = .ok ((start.feed read).reversed.reverse.map Piece.toChar) := by
  obtain ⟨good, hgood, hfeed⟩ := exists_between read h
  exact ⟨good, hgood.trans (List.prefix_append _ _), decode_of_feed hfeed h⟩

theorem pending_feed_eq_ok {p pending : Pending} {chunk : List UInt8} {text : List Char}
    (h : p.feed chunk = .ok (text, pending)) :
    let d := (Decoder.mk p []).feed chunk
    Unbroken d.reversed ∧ d.reversed.reverse.map Piece.toChar = text ∧ d.pending = pending := by
  intro d
  unfold Pending.feed at h
  dsimp only at h
  split at h
  · cases h
  · rename_i hflaw
    cases h
    exact ⟨unbroken_reverse.mp (firstFlaw_eq_none_iff.mp hflaw), rfl, rfl⟩

/-- What is decoded from chunks after the bytes read so far is decoded from some beginning. -/
theorem exists_decode_eq_decodeAfter (read : List UInt8) (chunks : List (List UInt8))
    (h : Unbroken (start.feed read).reversed) :
    ∃ good, good <+: read ++ chunks.flatten ∧
      decode good = .ok ((start.feed read).reversed.reverse.map Piece.toChar ++
        (decodeAfter (start.feed read).pending chunks).1) := by
  -- the bytes of a sequence begun count with those read, so their number is not to be followed
  induction chunks generalizing read with
  | nil =>
    rw [decodeAfter]
    cases (start.feed read).pending.finish <;> simpa using exists_decode read h []
  | cons chunk r ih =>
    rw [decodeAfter]
    cases hp : (start.feed read).pending.feed chunk with
    | error flaw => simpa using exists_decode read h (chunk :: r).flatten
    | ok decoded =>
      obtain ⟨text, pending⟩ := decoded
      obtain ⟨hunbroken, rfl, rfl⟩ := pending_feed_eq_ok hp
      have hfeed := Decoder.feed_reversed (start.feed read).pending [] (start.feed read).reversed
        chunk
      rw [List.nil_append] at hfeed
      change (start.feed read).feed chunk = _ at hfeed
      rw [← Decoder.feed_append] at hfeed
      have hnext : Unbroken (start.feed (read ++ chunk)).reversed := by
        rw [hfeed]
        exact unbroken_append.mpr ⟨hunbroken, h⟩
      obtain ⟨good, hgood, hdecode⟩ := ih (read ++ chunk) hnext
      refine ⟨good, by rwa [List.append_assoc] at hgood, ?_⟩
      rw [hdecode, hfeed]
      simp only [List.reverse_append, List.map_append, List.append_assoc]

/-- The text up to a flaw is the text of a beginning of the bytes. -/
theorem exists_decode_eq_decodeUpTo (chunks : List (List UInt8)) :
    ∃ good, good <+: chunks.flatten ∧ decode good = .ok (decodeUpTo chunks).1 :=
  exists_decode_eq_decodeAfter [] chunks (by simp [Unbroken, start, Decoder.feed])

/-- The text of a beginning is a beginning of the text. -/
theorem prefix_of_decode {good bytes : List UInt8} {text more : List Char} (h : good <+: bytes)
    (hg : decode good = .ok text) (hb : decode bytes = .ok more) : text <+: more := by
  obtain ⟨rest, rfl⟩ := h
  obtain ⟨ps, hfeed, -, rfl⟩ := feed_of_decode hg
  obtain ⟨-, rfl⟩ := decode_eq_ok_iff.mp hb
  have hp := Decoder.pieces_feed_append .none good rest
  change pieces (good ++ rest) = (start.feed good).pieces ++ _ at hp
  rw [hp, hfeed, List.map_append]
  exact List.prefix_append _ _

/-- The longest beginning that is well formed, and its text. -/
structure Longest (bytes good : List UInt8) (text : List Char) : Prop where
  within : good <+: bytes
  decoded : decode good = .ok text
  longest : ∀ other more, other <+: bytes → decode other = .ok more → other <+: good

theorem exists_longest (bytes : List UInt8) : ∃ good text, Longest bytes good text := by
  induction bytes using List.reverseRecOn with
  | nil => exact ⟨[], [], List.prefix_rfl, rfl, fun _ _ h _ => h⟩
  | append_singleton bytes x ih =>
    cases hd : decode (bytes ++ [x]) with
    | ok text => exact ⟨_, text, List.prefix_rfl, hd, fun _ _ h _ => h⟩
    | error flaw =>
      obtain ⟨good, text, h⟩ := ih
      refine ⟨good, text, h.within.trans (List.prefix_append _ _), h.decoded, ?_⟩
      intro other more hother hmore
      rcases List.prefix_concat_iff.mp hother with rfl | hother
      · rw [hd] at hmore
        cases hmore
      · exact h.longest other more hother hmore

end Utf8

def endedLines (s : List Char) : List (List Char) := (pieces (· == '\n') s).dropLast

theorem prefix_endedLines {s t : List Char} (h : s <+: t) : endedLines s <+: endedLines t := by
  obtain ⟨rest, rfl⟩ := h
  unfold endedLines
  rw [pieces_append, List.dropLast_append_of_ne_nil (pieces_ne_nil _ _)]
  exact List.prefix_append _ _

/-- What a reader has of a text is a beginning of the text with its line ends made uniform. -/
theorem prefix_text_feed {s t : List Char} (h : s <+: t) :
    (NewlineReader.start.feed s).text <+: uniformNewlines t := by
  obtain ⟨rest, rfl⟩ := h
  have ht := NewlineReader.text_feed_append false s rest
  rw [uniformNewlines, NewlineReader.finish_eq]
  refine List.IsPrefix.trans ?_ (List.prefix_append _ _)
  change _ <+: ((NewlineReader.mk false []).feed (s ++ rest)).text
  rw [ht]
  exact List.prefix_append _ _

end LineShell.Text
