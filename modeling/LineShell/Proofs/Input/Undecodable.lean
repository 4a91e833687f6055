import LineShell.Proofs.Input.Rounds
import LineShell.Proofs.Text.Beginning

namespace LineShell

namespace Shell

/-- The last of these lines ended the shell, each before it being followed by the next. -/
inductive EndedBy (sh : Shell) (w : World) : List String → Ending → Prop where
  | exit {before : List String} {line : String} (continues : sh.Continues w before)
      (verdict : (sh.execute (sh.executeAll w before) line).2 = .exit 0) :
      EndedBy sh w (before ++ [line]) (.status 0)
  | pathNotSet {before : List String} {line : String} (continues : sh.Continues w before)
      (verdict : (sh.execute (sh.executeAll w before) line).2 = .fatal .pathNotSet) :
      EndedBy sh w (before ++ [line]) (.fatal .pathNotSet)

variable {sh : Shell} {w : World} {before lines : List String} {line : String} {ending : Ending}

theorem StopsAt.endedBy (h : sh.StopsAt w before line) :
    sh.EndedBy w (before ++ [line]) (sh.execute (sh.executeAll w before) line).2.ending := by
  obtain ⟨hbefore, hline⟩ := h
  rcases verdict_eq_of_ne_next hline with hv | hv
  · rw [hv]
    exact .exit hbefore hv
  · rw [hv]
    exact .pathNotSet hbefore hv

theorem EndedBy.ne_input (h : sh.EndedBy w lines ending) (path : String) (cause : Option Cause) :
    ending ≠ .fatal (.input path cause) := by
  cases h <;> simp

theorem EndedBy.not_continues (h : sh.EndedBy w lines ending) : ¬ sh.Continues w lines := by
  intro hc
  cases h with
  | exit _ hv => cases (hc _ _ [] rfl).symm.trans hv
  | pathNotSet _ hv => cases (hc _ _ [] rfl).symm.trans hv

end Shell

namespace Input

open Text

variable {sh : Shell} {w : World} {before lines : List String} {line : String}
  {tail : List Reading} {bytes : List UInt8}

theorem loop_of_continues (h : sh.Continues w lines) (tail : List Reading) :
    loop sh false (lines.map .line ++ tail) w = loop sh false tail (sh.executeAll w lines) := by
  induction lines generalizing w with
  | nil => rfl
  | cons line lines ih =>
    obtain ⟨hline, hlines⟩ := Shell.continues_cons_iff.mp h
    rw [List.map_cons, List.cons_append, loop_line]
    exact (if_pos hline).trans (ih hlines)

theorem loop_of_stopsAt (h : sh.StopsAt w before line) (tail : List Reading) :
    loop sh false (before.map .line ++ .line line :: tail) w =
      (sh.executeAll w (before ++ [line]),
        (sh.execute (sh.executeAll w before) line).2.ending) := by
  obtain ⟨hbefore, hline⟩ := h
  have hlast : sh.executeAll w (before ++ [line]) =
      (sh.execute (sh.executeAll w before) line).1 := by
    rw [Shell.executeAll, List.foldl_append]
    rfl
  rw [loop_of_continues hbefore, loop_line, hlast]
  exact if_neg hline

@[simp] theorem typed_nil : typed [] = [] := rfl

@[simp] theorem typed_failed (cause : Cause) (tail : List Reading) :
    typed (.failed cause :: tail) = [] := rfl

theorem typed_append (lines : List String) (tail : List Reading) :
    typed (lines.map .line ++ tail) = lines ++ typed tail := by
  induction lines with
  | nil => rfl
  | cons line lines ih => exact congrArg (line :: ·) ih

/-- A session executes all its lines, and ends as what comes after them does, or one of them ends
it. -/
theorem session_lines (sh : Shell) (lines : List String) {tail : List Reading} (last : Ending)
    (ht : typed tail = []) (hl : ∀ v, loop sh false tail v = (v, last)) (w : World) :
    let readings := lines.map .line ++ tail
    let run := session sh false readings w
    let done := executed sh readings w.files
    run.world = sh.executeAll w done ∧ done <+: lines ∧
      (sh.Continues w done ∧ done = lines ∧ run.ending = last ∨ sh.EndedBy w done run.ending) := by
  intro readings run done
  have hdone : done = sh.reached w.files lines := by
    change executed sh readings w.files = _
    rw [executed_eq_reached, typed_append, ht, List.append_nil]
  have hprefix : done <+: lines := hdone ▸ Shell.prefix_reached w.files lines
  rcases Shell.continues_or_stopsAt sh w lines with h | ⟨before, line, after, rfl, h⟩
  · have hall : done = lines := hdone.trans (Shell.reached_of_continues h)
    have hloop : loop sh false readings w = (sh.executeAll w lines, last) :=
      (loop_of_continues h tail).trans (hl _)
    refine ⟨?_, hprefix, .inl ⟨hall ▸ h, hall, congrArg Prod.snd hloop⟩⟩
    rw [hall]
    exact congrArg Prod.fst hloop
  · have hpart : done = before ++ [line] := hdone.trans (Shell.reached_of_stopsAt h after)
    have hreadings : readings =
        before.map .line ++ .line line :: (after.map .line ++ tail) := by
      simp [readings]
    have hloop := loop_of_stopsAt h (after.map .line ++ tail)
    rw [← hreadings] at hloop
    have hending : run.ending = (sh.execute (sh.executeAll w before) line).2.ending :=
      congrArg Prod.snd hloop
    refine ⟨?_, hprefix, .inr ?_⟩
    · rw [hpart]
      exact congrArg Prod.fst hloop
    · rw [hpart, hending]
      exact h.endedBy

theorem lineReadings_eq (ls : List (List Char)) :
    lineReadings ls = (ls.map String.ofList).map .line := by
  rw [List.map_map]
  rfl

/-- Where bytes do not decode, lines of the longest beginning that does are read, and then the flaw;
each of them is ended by a line feed. -/
theorem ofBytes_of_not_decode (h : ∀ text, Utf8.decode bytes ≠ .ok text) :
    ∃ good text read flaw, Utf8.Longest bytes good text ∧ read <+: uniformNewlines text ∧
      ofBytes bytes = lineReadings (endedLines read) ++ [.failed (.undecodable flaw)] := by
  obtain ⟨good, text, hlongest⟩ := Utf8.exists_longest bytes
  let parts := chunks chunkSize bytes
  have hbytes : parts.flatten = bytes := flatten_chunks chunkSize (by decide) bytes
  have hflaw : (Utf8.decodeUpTo parts).2 ≠ none := by
    intro hnone
    obtain ⟨t, ht⟩ := (Utf8.decodeUpTo_eq_none_iff parts).mp hnone
    exact h t (hbytes ▸ ht)
  obtain ⟨flaw, hflaw⟩ := Option.ne_none_iff_exists'.mp hflaw
  obtain ⟨start, hstart, hdecode⟩ := Utf8.exists_decode_eq_decodeUpTo parts
  rw [hbytes] at hstart
  have htext : (Utf8.decodeUpTo parts).1 <+: text :=
    Utf8.prefix_of_decode (hlongest.longest start _ hstart hdecode) hdecode hlongest.decoded
  refine ⟨good, text, _, flaw, hlongest, prefix_text_feed htext, ?_⟩
  rw [ofBytes, Stream.readings_eq Stream.unfinished_start]
  change textReadings [] (NewlineReader.start.feed (Utf8.decodeUpTo parts).1)
    (Utf8.decodeUpTo parts).2 = _
  rw [hflaw]
  rfl

/-- What a session does whose input is these bytes, when nobody watches. If they decode, all lines
are executed, unless one of them ends the shell. If they do not, only lines are executed that a line
feed ends in the longest beginning that does, and the session fails, unless one of them ends the
shell. -/
theorem session_ofBytes (sh : Shell) (bytes : List UInt8) (w : World) :
    let run := session sh false (ofBytes bytes) w
    let done := executed sh (ofBytes bytes) w.files
    run.world = sh.executeAll w done ∧
      (∀ text, Utf8.decode bytes = .ok text →
        let all := (linesAt (· == '\n') (uniformNewlines text)).map String.ofList
        (∀ path cause, run.ending ≠ .fatal (.input path cause)) ∧ done <+: all ∧
          (sh.Continues w done ∧ done = all ∧ run.ending = .status 0 ∨
            sh.EndedBy w done run.ending)) ∧
      ((∀ text, Utf8.decode bytes ≠ .ok text) →
        ∃ good text, Utf8.Longest bytes good text ∧
          done <+: (endedLines (uniformNewlines text)).map String.ofList ∧
          (sh.Continues w done ∧
              (∃ flaw, run.ending = .fatal (.input "standard input" (some (.undecodable flaw)))) ∨
            sh.EndedBy w done run.ending)) := by
  intro run done
  by_cases hd : ∃ text, Utf8.decode bytes = .ok text
  · obtain ⟨text, hd⟩ := hd
    let all := (linesAt (· == '\n') (uniformNewlines text)).map String.ofList
    have hread : ofBytes bytes = all.map .line ++ [] := by
      rw [ofBytes_of_decode hd, lineReadings_eq, List.append_nil]
    have h := session_lines sh all (.status 0) typed_nil (fun v => rfl) w
    rw [← hread] at h
    obtain ⟨hworld, hprefix, hend⟩ := h
    refine ⟨hworld, ?_, fun hnot => absurd hd (hnot text)⟩
    intro text' hd' all'
    obtain rfl : text' = text := Except.ok.inj (hd'.symm.trans hd)
    refine ⟨?_, hprefix, hend⟩
    intro path cause
    rcases hend with ⟨-, -, hstatus⟩ | hended
    · simp [run, hstatus]
    · exact hended.ne_input path cause
  · have hnot : ∀ text, Utf8.decode bytes ≠ .ok text := fun text h => hd ⟨text, h⟩
    obtain ⟨good, text, read, flaw, hlongest, hread, hreadings⟩ := ofBytes_of_not_decode hnot
    rw [lineReadings_eq] at hreadings
    have h := session_lines sh ((endedLines read).map String.ofList)
      (.fatal (.input "standard input" (some (.undecodable flaw)))) (typed_failed _ [])
      (fun v => rfl) w
    rw [← hreadings] at h
    obtain ⟨hworld, hprefix, hend⟩ := h
    refine ⟨hworld, fun text hd => absurd hd (hnot text), fun _ => ⟨good, text, hlongest, ?_, ?_⟩⟩
    · exact hprefix.trans ((prefix_endedLines hread).map _)
    · rcases hend with ⟨hc, -, hfatal⟩ | hended
      · exact .inl ⟨hc, flaw, hfatal⟩
      · exact .inr hended

/-- A line begun, and the first byte of a character that does not come. -/
theorem session_ofBytes_cut :
    let sh := Shell.stock none
    let w := World.ofFiles Files.Tree.standard
    let bytes := Utf8.encode "echo a\necho b".toList ++ [0xC3]
    let run := session sh false (ofBytes bytes) w
    (∀ text, Utf8.decode bytes ≠ .ok text) ∧ run.world = sh.executeAll w ["echo a"] ∧
      run.world.view.stdout = "a\n" ∧
      ∃ flaw, run.ending = .fatal (.input "standard input" (some (.undecodable flaw))) := by
  intro sh w bytes run
  have hnot : ∀ text, Utf8.decode bytes ≠ .ok text := by
    intro text h
    cases h
  have hread : ofBytes bytes = [.line "echo a", .failed (.undecodable ⟨0xC3, 0, 1, .cut⟩)] := by
    have hchunks : chunks chunkSize bytes = [bytes] :=
      chunks_of_length_le (by decide) (by decide) (by decide)
    rw [ofBytes, hchunks]
    decide
  have hdone : executed sh (ofBytes bytes) w.files = ["echo a"] := by
    rw [hread]
    decide
  obtain ⟨hworld, -, hbroken⟩ := session_ofBytes sh bytes w
  rw [hdone] at hworld hbroken
  obtain ⟨good, text, -, -, hend⟩ := hbroken hnot
  refine ⟨hnot, hworld, ?_, ?_⟩
  · rw [hworld]
    decide
  · rcases hend with ⟨-, hfatal⟩ | hended
    · exact hfatal
    · have hnext : (sh.execute w "echo a").2 = .next := by decide
      have hcontinues : sh.Continues w ["echo a"] :=
        Shell.continues_cons_iff.mpr ⟨hnext, Shell.continues_nil⟩
      exact absurd hcontinues hended.not_continues

end Input

end LineShell
