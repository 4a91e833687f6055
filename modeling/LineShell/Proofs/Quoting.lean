import LineShell.Report

namespace LineShell.Text

theorem hexValue_hexDigit : ∀ d < 16, hexValue (hexDigit d) = some d := by decide

theorem hexDigit_range : ∀ d < 16, 0x20 ≤ (hexDigit d).toNat ∧ (hexDigit d).toNat < 0x7B ∧
    hexDigit d ≠ '"' := by decide

namespace Quoted

variable {c : Char} {n : Nat} {s t : List Char}

theorem exists_digit_of_mem_number (hn : n < 256) (h : c ∈ number n) :
    ∃ d < 16, c = hexDigit d := by
  unfold number at h
  split at h
  · exact ⟨n, by omega, by simpa using h⟩
  · simp only [List.mem_cons, List.not_mem_nil, or_false] at h
    rcases h with rfl | rfl
    · exact ⟨n / 16, by omega, rfl⟩
    · exact ⟨n % 16, by omega, rfl⟩

theorem mem_numbered (hn : n < 256) (h : c ∈ ['\\', 'u', '\x7b'] ++ number n ++ ['\x7d']) :
    c ∈ ['\\', 'u', '\x7b', '\x7d'] ∨ ∃ d < 16, c = hexDigit d := by
  simp only [List.mem_append] at h
  rcases h with (h | h) | h
  · left
    exact List.mem_append_left ['\x7d'] h
  · exact .inr (exists_digit_of_mem_number hn h)
  · left
    exact List.mem_append_right ['\\', 'u', '\x7b'] h

/-- The ways in which a character is written between quotes. -/
inductive Written : Char → List Char → Prop where
  | plain {c : Char} (hq : c ≠ '"') (hb : c ≠ '\\') (hl : 0x20 ≤ c.toNat) (hd : c.toNat ≠ 0x7F) :
      Written c [c]
  | marked {c : Char} (h : c = '"' ∨ c = '\\') : Written c ['\\', c]
  | null : Written '\x00' ['\\', '0']
  | numbered {c : Char} (h : c.toNat < 0x20 ∨ c.toNat = 0x7F) :
      Written c (['\\', 'u', '\x7b'] ++ number c.toNat ++ ['\x7d'])

theorem written_escape (c : Char) : Written c (escape c) := by
  unfold escape
  split
  · exact .marked (by assumption)
  · rename_i hmark
    obtain ⟨hq, hb⟩ := not_or.mp hmark
    split
    · rename_i hnull
      subst hnull
      exact .null
    · split
      · exact .numbered (by assumption)
      · rename_i hcontrol
        obtain ⟨hl, hd⟩ := not_or.mp hcontrol
        exact .plain hq hb (by omega) hd

section Reading

theorem readBody_hexDigit {d : Nat} (hd : d < 16) (m : Nat) (r : List Char) :
    readBody (.digits m) (hexDigit d :: r) = readBody (.digits (m * 16 + d)) r := by
  have hrange := hexDigit_range d hd
  have hclose : hexDigit d ≠ '\x7d' := by
    intro he
    rw [he] at hrange
    exact absurd hrange.2.1 (by decide)
  simp [readBody, hclose, hexValue_hexDigit d hd]

-- a control character's number has two digits at most
theorem readBody_number (hn : n < 256) (r : List Char) :
    readBody (.digits 0) (number n ++ r) = readBody (.digits n) r := by
  unfold number
  split
  · rename_i h
    rw [List.singleton_append, readBody_hexDigit h, Nat.zero_mul, Nat.zero_add]
  · have hsplit : (0 * 16 + n / 16) * 16 + n % 16 = n := by omega
    rw [List.cons_append, List.singleton_append, readBody_hexDigit (by omega),
      readBody_hexDigit (by omega), hsplit]

/-- Reading an escaped character gives this character, and goes on after it. -/
theorem readBody_escape (c : Char) (r : List Char) :
    readBody .plain (escape c ++ r) = (readBody .plain r).map fun (s, t) => (c :: s, t) := by
  have hw := written_escape c
  generalize escape c = text at hw ⊢
  cases hw with
  | plain hq hb hl hd => simp [readBody, hq, hb]
  | marked h => simp [readBody, h]
  | null => simp [readBody]
  | numbered h =>
    have hn : c.toNat < 256 := by omega
    have hread : readBody (.digits 0) (number c.toNat ++ '\x7d' :: r) =
        (readBody .plain r).map fun (s, t) => (c :: s, t) := by
      rw [readBody_number hn]
      simp [readBody]
    simpa [readBody] using hread

theorem readBody_body (s r : List Char) : readBody .plain (body s ++ '"' :: r) = some (s, r) := by
  induction s with
  | nil => simp [body, readBody]
  | cons c s ih =>
    have hb : body (c :: s) = escape c ++ body s := rfl
    rw [hb, List.append_assoc, readBody_escape, ih]
    rfl

theorem read_write (s r : List Char) : read (write s ++ r) = some (s, r) := by
  have hw : write s ++ r = '"' :: (body s ++ '"' :: r) := by simp [write]
  rw [hw, read, readBody_body]

theorem write_injective (h : write s = write t) : s = t := by
  have hs := read_write s []
  rw [h, read_write t []] at hs
  cases hs
  rfl

end Reading

theorem shown_escape (c : Char) : ∀ x ∈ escape c, 0x20 ≤ x.toNat ∧ x.toNat ≠ 0x7F := by
  intro x hx
  have hw := written_escape c
  generalize escape c = text at hw hx
  cases hw with
  | plain hq hb hl hd =>
    obtain rfl := List.mem_singleton.mp hx
    exact ⟨hl, hd⟩
  | marked h =>
    simp only [List.mem_cons, List.not_mem_nil, or_false] at hx
    rcases hx with rfl | rfl
    · decide
    · rcases h with rfl | rfl <;> decide
  | null =>
    simp only [List.mem_cons, List.not_mem_nil, or_false] at hx
    rcases hx with rfl | rfl <;> decide
  | numbered h =>
    rcases mem_numbered (by omega) hx with hx | ⟨d, hd, rfl⟩
    · simp only [List.mem_cons, List.not_mem_nil, or_false] at hx
      rcases hx with rfl | rfl | rfl | rfl <;> decide
    · have hrange := hexDigit_range d hd
      omega

section Quotes

/-- Whether a text ends in a backslash that escapes what follows, that is in one that is not
escaped itself. -/
def escapesNext (text : List Char) : Bool :=
  text.foldl (fun escaped c => c == '\\' && !escaped) false

theorem escapesNext_append (hs : escapesNext s = false) (t : List Char) :
    escapesNext (s ++ t) = escapesNext t := by
  unfold escapesNext at hs ⊢
  rw [List.foldl_append, hs]

theorem escapesNext_concat (s : List Char) (hc : c ≠ '\\') : escapesNext (s ++ [c]) = false := by
  simp [escapesNext, hc]

/-- Every quote in a text is escaped, and nothing after the text is. -/
structure Guarded (text : List Char) : Prop where
  quotes : ∀ before after, text = before ++ '"' :: after → escapesNext before = true
  ends : escapesNext text = false

theorem Guarded.append (hs : Guarded s) (ht : Guarded t) : Guarded (s ++ t) := by
  refine ⟨?_, (escapesNext_append hs.ends t).trans ht.ends⟩
  intro before after h
  -- the quote stands in the second text, or in the first
  rcases List.append_eq_append_iff.mp h with ⟨rest, rfl, hr⟩ | ⟨rest, rfl, hr⟩
  · rw [escapesNext_append hs.ends]
    exact ht.quotes rest after hr
  · cases rest with
    | nil =>
      rw [List.nil_append] at hr
      have hq := ht.quotes [] after hr.symm
      cases hq
    | cons x rest =>
      cases hr
      exact hs.quotes before rest rfl

theorem guarded_escape (c : Char) : Guarded (escape c) := by
  have hw := written_escape c
  generalize escape c = text at hw ⊢
  cases hw with
  | plain hq hb hl hd =>
    refine ⟨?_, escapesNext_concat [] hb⟩
    intro before after h
    have hm : '"' ∈ [c] := h ▸ List.mem_append_right _ List.mem_cons_self
    exact absurd (List.mem_singleton.mp hm).symm hq
  | marked h =>
    refine ⟨?_, ?_⟩
    · intro before after hsplit
      rcases before with _ | ⟨x, _ | ⟨y, before⟩⟩
      · cases hsplit
      · cases hsplit
        rfl
      · simp at hsplit
    · rcases h with rfl | rfl <;> rfl
  | null =>
    refine ⟨?_, rfl⟩
    intro before after h
    have hm : '"' ∈ ['\\', '0'] := h ▸ List.mem_append_right _ List.mem_cons_self
    exact absurd hm (by decide)
  | numbered h =>
    refine ⟨?_, escapesNext_concat _ (by decide)⟩
    intro before after hsplit
    have hm : '"' ∈ ['\\', 'u', '\x7b'] ++ number c.toNat ++ ['\x7d'] :=
      hsplit ▸ List.mem_append_right _ List.mem_cons_self
    rcases mem_numbered (by omega) hm with hm | ⟨d, hd, he⟩
    · exact absurd hm (by decide)
    · exact absurd he.symm (hexDigit_range d hd).2.2

theorem guarded_body (s : List Char) : Guarded (body s) := by
  induction s with
  | nil =>
    refine ⟨?_, rfl⟩
    intro before after h
    simp [body] at h
  | cons c s ih => exact (guarded_escape c).append ih

/-- The quotes of a quoted name that are not escaped are its first and its last character. -/
theorem escapesNext_of_write {before after : List Char} (h : write s = before ++ '"' :: after) :
    escapesNext before = false ↔ before = [] ∨ after = [] := by
  have hbody := guarded_body s
  have hfirst : ∀ text, escapesNext ('"' :: text) = escapesNext text := fun _ => rfl
  -- the quote is the first character, the last one, or one between them
  rcases before with _ | ⟨x, before⟩
  · exact ⟨fun _ => .inl rfl, fun _ => rfl⟩
  · obtain ⟨rfl, hrest⟩ : '"' = x ∧ body s ++ ['"'] = before ++ '"' :: after := by
      simpa [write] using h
    rw [hfirst]
    rcases List.eq_nil_or_concat after with rfl | ⟨inner, y, rfl⟩
    · obtain rfl : body s = before := by simpa using hrest
      simp [hbody.ends]
    · have hlast : body s ++ ['"'] = (before ++ '"' :: inner) ++ [y] := by simpa using hrest
      have hsplit := (List.append_inj' hlast rfl).1
      simp [hbody.quotes before inner hsplit]

end Quotes

/-- A quoted name is read back from the front of any text. It shows no control characters, and
only the two quotes around it are not escaped. Names that are not found are told apart by their
messages. -/
theorem name_read_back :
    (∀ name rest : String,
      read (ofString name ++ rest).toList = some (name.toList, rest.toList)) ∧
    (∀ name : String, ∀ c ∈ (ofString name).toList, 0x20 ≤ c.toNat ∧ c.toNat ≠ 0x7F) ∧
    (∀ name : String, (∃ inner, (ofString name).toList = '"' :: inner ++ ['"']) ∧
      ∀ before after, (ofString name).toList = before ++ '"' :: after →
        (escapesNext before = false ↔ before = [] ∨ after = [])) ∧
    ∀ a b : String, (LineError.notFound a).message = (LineError.notFound b).message → a = b := by
  have hlist : ∀ name : String, (ofString name).toList = write name.toList :=
    fun _ => String.toList_ofList
  refine ⟨?_, ?_, ?_, ?_⟩
  · intro name rest
    rw [String.toList_append, hlist, read_write]
  · intro name c hc
    rw [hlist] at hc
    simp only [write, body, List.mem_append, List.mem_cons, List.mem_flatMap, List.not_mem_nil,
      or_false] at hc
    rcases hc with (rfl | ⟨x, -, hx⟩) | rfl
    · decide
    · exact shown_escape x c hx
    · decide
  · intro name
    refine ⟨⟨body name.toList, hlist name⟩, ?_⟩
    intro before after h
    rw [hlist] at h
    exact escapesNext_of_write h
  · intro a b h
    have hq : ofString a = ofString b := (String.append_right_inj _).mp h
    have hw : write a.toList = write b.toList := by rw [← hlist, ← hlist, hq]
    exact String.toList_inj.mp (write_injective hw)

/-- A null character before a digit, and a name that looks like it once it is quoted. -/
theorem name_read_back_null :
    ofString "\x001" = "\"\\01\"" ∧ ofString "\\01" = "\"\\\\01\"" ∧
      read "\"\\01\"2".toList = some (['\x00', '1'], ['2']) ∧
      (LineError.notFound "\x001").message ≠ (LineError.notFound "\\01").message := by
  obtain ⟨hread, -, -, hmessage⟩ := name_read_back
  have hnull : ofString "\x001" = "\"\\01\"" := by decide
  refine ⟨hnull, by decide, ?_, ?_⟩
  · have h := hread "\x001" "2"
    rw [hnull] at h
    exact h
  · intro h
    exact absurd (hmessage _ _ h) (by decide)

end Quoted

end LineShell.Text
