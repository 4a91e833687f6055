import LineShell.Proofs.Yaml.Building
import LineShell.Proofs.Yaml.Lexer
import LineShell.Proofs.Yaml.Node
import LineShell.Settings.Standard

namespace LineShell.Yaml

section Tokens

variable {F : Failure → Prop} {T : Token → Prop} {handles : List (String × String)}

theorem ends_readDirectives (ht : Telling F T) {ts : List Token} (h : ∀ t ∈ ts, T t)
    (versioned : Bool) :
    Ends F (fun r => ∀ t ∈ r.2, T t) (readDirectives versioned handles ts) := by
  fun_induction readDirectives versioned handles ts with
  | case1 versioned handles major r ih =>
    exact (ends_require ht.malformed _).bind fun _ _ =>
      ih fun t hr => h t (List.mem_cons_of_mem _ hr)
  | case2 versioned handles name meaning r ih =>
    exact (ends_require ht.malformed _).bind fun _ _ =>
      ih fun t hr => h t (List.mem_cons_of_mem _ hr)
  | case3 versioned handles r ih => exact ih fun t hr => h t (List.mem_cons_of_mem _ hr)
  | case4 => exact h

theorem ends_readRoot (ht : Telling F T) (depth : Nat) {ts : List Token} (h : ∀ t ∈ ts, T t) :
    Ends F (fun r => r.2.All T) (readRoot depth handles ts) :=
  (Node.ending ht _).read .block (s := .ofTokens depth ts) h

theorem ends_readAnnounced (ht : Telling F T) (depth : Nat) {ts : List Token}
    (h : ∀ t ∈ ts, T t) : Ends F (fun r => r.2.All T) (readAnnounced depth ts) := by
  unfold readAnnounced
  refine (ends_readDirectives ht h false).bind fun (handles, ts) h => ?_
  dsimp only
  split
  · rename_i r
    have hr : ∀ t ∈ r, T t := fun t ht => h t (List.mem_cons_of_mem _ ht)
    split
    iterate 4 exact hr
    exact ends_readRoot ht depth hr
  · exact Reading.All.unexpected (s := .ofTokens depth ts) h ht

/-- A document ends where the tokens do. -/
theorem ends_readEnd (ht : Telling F T) {ts : List Token} (h : ∀ t ∈ ts, T t) :
    Ends F (fun _ => T .streamEnd) (readEnd ts) := by
  fun_induction readEnd ts with
  | case1 r => exact h _ List.mem_cons_self
  | case2 r ih => exact ih fun t hr => h t (List.mem_cons_of_mem _ hr)
  | case3 ts => exact Reading.All.unexpected (s := .ofTokens 0 ts) h ht

end Tokens

section Source

variable {text : List Char} {f : Failure} {whole : Bool} {depth : Nat} {v : Value}

theorem ne_endMark_of_isReadable {x : Char} (h : isReadable x = true) : x ≠ endMark := by
  rintro rfl
  revert h
  decide

/-- Before the first character that no document may hold, all may be held. -/
theorem isReadable_of_mem_take {n : Nat}
    (h : ∀ i, (text.findIdx? fun c => !isReadable c) = some i → n ≤ i) :
    ∀ x ∈ text.take n, isReadable x = true := by
  intro x hx
  cases hf : text.findIdx? fun c => !isReadable c with
  | none =>
    have hn := List.findIdx?_eq_none_iff.mp hf x (List.mem_of_mem_take hx)
    simpa using hn
  | some i =>
    obtain ⟨j, hj, rfl⟩ := List.mem_take_iff_getElem.mp hx
    obtain ⟨hlt, -, hbefore⟩ := List.findIdx?_eq_some_iff_getElem.mp hf
    have hn := hbefore j (by have := h i hf; omega)
    simpa using hn

theorem blockStart_le (place : Nat) : blockStart place ≤ place := by
  unfold blockStart
  split
  · exact Nat.zero_le _
  · exact Nat.div_mul_le_self _ _

theorem marked_cutAt {start : Nat}
    (h : ∀ i, (text.findIdx? fun c => !isReadable c) = some i → start ≤ i) :
    Lexer.Marked (cutAt text start f) := by
  intro x hx
  refine ne_endMark_of_isReadable (isReadable_of_mem_take (n := start - 1) ?_ x hx)
  intro i hi
  have := h i hi
  omega

/-- A document is its whole text, or the text before the first block that cannot be read. -/
theorem source_cases (whole : Bool) (text : List Char) :
    let strange? := text.findIdx? fun c => !isReadable c
    (whole = true ∧ strange? = none ∧ source whole text = .ofText text none) ∨
      ∃ start f, (∀ i, strange? = some i → start ≤ i) ∧ source whole text = cutAt text start f ∧
        (f = .malformed ∨ (whole = false ∧ f = .unread)) := by
  intro strange?
  unfold source
  dsimp only
  have hstrange : (text.findIdx? fun c => !isReadable c) = strange? := rfl
  rw [hstrange]
  cases strange? with
  | none =>
    cases whole with
    | true => exact .inl ⟨rfl, rfl, rfl⟩
    | false => exact .inr ⟨_, _, by simp, rfl, .inr ⟨rfl, rfl⟩⟩
  | some i =>
    have hi : ∀ j, some i = some j → blockStart i ≤ j := by
      rintro j ⟨⟩
      exact blockStart_le i
    cases whole with
    | true => exact .inr ⟨_, _, hi, rfl, .inl rfl⟩
    | false =>
      dsimp only [Option.map_some]
      split
      · exact .inr ⟨_, _, hi, rfl, .inl rfl⟩
      · rename_i hle
        refine .inr ⟨_, _, ?_, rfl, .inr ⟨rfl, rfl⟩⟩
        rintro j ⟨⟩
        have := blockStart_le i
        omega

theorem marked_source (whole : Bool) (text : List Char) : Lexer.Marked (source whole text) := by
  rcases source_cases whole text with ⟨-, hs, he⟩ | ⟨start, f, hs, he, -⟩
  · rw [he]
    intro x hx
    have hr := List.findIdx?_eq_none_iff.mp hs x hx
    exact ne_endMark_of_isReadable (by simpa using hr)
  · rw [he]
    exact marked_cutAt hs

/-- A text that is whole is never cut off for want of the rest. -/
theorem whole_of_beyond (h : (source whole text).beyond = some .unread) : whole = false := by
  rcases source_cases whole text with ⟨-, -, he⟩ | ⟨start, f, -, he, rfl | ⟨hw, -⟩⟩
  · rw [he] at h
    cases h
  · rw [he] at h
    cases h
  · exact hw

theorem ends_valueOfTokens {F : Failure → Prop} {T : Token → Prop} (ho : Own F)
    (ht : Telling F T) (depth : Nat) {ts : List Token} (h : ∀ t ∈ ts, T t) :
    Ends F (fun _ => T .streamEnd) (valueOfTokens depth ts) := by
  unfold valueOfTokens
  split
  · exact h _ List.mem_cons_self
  · extract_lets rest
    have hrest : ∀ {root : Nat} {s : Reading}, s.All T →
        Ends F (fun _ => T .streamEnd) (rest (root, s)) := by
      intro root s hs
      refine (ends_readEnd ht hs).bind fun _ he => ?_
      exact (s.nodes.ends_value ho root).mono fun _ _ => he
    split
    · exact (ends_readAnnounced ht depth h).read fun root s hs => hrest hs
    · exact (ends_readAnnounced ht depth h).read fun root s hs => hrest hs
    · exact (ends_readRoot ht depth h).read fun root s hs => hrest hs

/-- Reading a document gives a value only if its text is not cut off. It fails for what the text
says, or for why it is cut off. -/
theorem ends_read (depth : Nat) (whole : Bool) (text : List Char) :
    Ends (source whole text).Fails (fun _ => (source whole text).beyond = none)
      (read depth whole text) :=
  ends_valueOfTokens (T := Lexer.Possible (source whole text))
    ⟨.inl rfl, fun fault => .inr (.inl ⟨fault, rfl⟩)⟩
    ⟨.inl rfl, .inr (.inl ⟨_, rfl⟩), fun _ h => h⟩ depth
    (possible_tokens (marked_source whole text))

/-- The end of a text that is whole is always there to be read. -/
theorem read_whole_ne_unread (depth : Nat) (text : List Char) :
    read depth true text ≠ .error .unread := by
  intro h
  have he := ends_read depth true text
  rw [h] at he
  rcases he with he | ⟨fault, he⟩ | he
  · cases he
  · cases he
  · cases whole_of_beyond he

/-- What the loader puts in for a whole text that is cut off is never seen. -/
theorem isSome_document?_whole (depth : Nat) (complaint : String) (text : List Char) :
    (document? complaint (read depth true text)).isSome := by
  unfold document?
  split
  · rfl
  · rfl
  · rfl
  · rename_i hr
    exact absurd hr (read_whole_ne_unread depth text)

end Source

end LineShell.Yaml
