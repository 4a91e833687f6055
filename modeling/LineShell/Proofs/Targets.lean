import LineShell.Proofs.Delivery
import LineShell.Proofs.Files.Typed
import LineShell.Proofs.Outcome
import LineShell.Proofs.Redirected

namespace LineShell

open Files (LosesEnd Tree steps)
open Files.Path (normal)
open Text (Utf8.encode)

namespace Files.Fault

theorem text_ne_empty (fault : Fault) : fault.text ≠ "" := by
  unfold text
  cases hl : texts.lookup fault.number with
  | none => simp [String.append_eq_empty_iff]
  | some words =>
    have hall : ∀ e ∈ texts, e.2 ≠ "" := by decide +kernel
    obtain ⟨before, after, he, -⟩ := List.lookup_eq_some_iff.mp hl
    exact hall (fault.number, words) (by simp [he])

end Files.Fault

namespace Files.Tree

variable {t : Tree} {path : String} {bytes : List UInt8} {cause : Cause}

/-- What writing to a path name can fail for. -/
theorem write_eq_error (h : t.write path bytes = .error cause) :
    cause = .nullCharacter ∨ cause = .ofFault .noSpace ∨
      ∃ fault, cause = .ofFaultAt fault path := by
  unfold write at h
  split at h
  · rename_i ht
    cases h
    unfold target at ht
    split at ht
    · exact .inl (Except.error.inj ht).symm
    · split at ht <;> cases ht
      all_goals exact .inr (.inr ⟨_, rfl⟩)
  · cases h
  · cases h
  · split at h <;> cases h
    exact .inr (.inl rfl)

/-- Under another name it fails for the same reason. -/
theorem description_naming (h : t.write path bytes = .error cause) (file : String) :
    (cause.naming file).description = cause.description := by
  rcases write_eq_error h with rfl | rfl | ⟨fault, rfl⟩
  · rfl
  · rfl
  · simp [Cause.ofFaultAt, Cause.naming, Cause.description, Files.Fault.text_ne_empty]

end Files.Tree

namespace View

/-- Writes the text to exactly this path name. If it cannot be written, the normal form is
complained of. -/
def storeTyped (v : View) (typed text : String) : View :=
  match v.files.write typed (Utf8.encode text.toList) with
  | .ok files => { v with files := files }
  | .error cause => v.complain (LineError.unwritable (normal typed) cause).message

theorem store_normal {typed : String} (v : View) (text : String) (hne : typed ≠ "")
    (hlen : typed.utf8ByteSize ≤ Files.maxPathLength) (h : ¬ LosesEnd (steps typed)) :
    v.store (normal typed) text = v.storeTyped typed text := by
  have hwrite := v.files.write_normal hne hlen h (Utf8.encode text.toList)
  unfold storeTyped
  cases hw : v.files.write typed (Utf8.encode text.toList) with
  | ok files =>
    rw [hw] at hwrite
    dsimp only [Except.mapError] at hwrite
    exact store_of_write hwrite
  | error cause =>
    rw [hw] at hwrite
    dsimp only [Except.mapError] at hwrite
    have hmessage : (LineError.unwritable (normal typed) (cause.naming (normal typed))).message =
        (LineError.unwritable (normal typed) cause).message := by
      have hd := Tree.description_naming hw (normal typed)
      unfold LineError.message Report.unwritable
      dsimp only
      rw [hd]
    rw [store_of_error hwrite, hmessage]

end View

/-- The text that a line sends to its target, and the files at that moment. -/
def Course.sent? : Course → Option (Tree × String)
  | .answered _ files text => some (files, text)
  | .failed _ files e => some (files, e.message)
  | _ => none

namespace Line

theorem ne_empty_of_mem_tokens {mark : Option String} {line token : String}
    (h : token ∈ tokens mark line) : token ≠ "" := by
  have hw : token ∈ words line := by
    unfold tokens at h
    cases hl : words line with
    | nil => simp [hl] at h
    | cons first rest =>
      rw [hl] at h
      dsimp only at h
      split at h
      · cases h
      · exact h
  exact (isToken_of_mem_words hw).1

theorem Parses.typed {strict : Bool} {args dropped : List String} {typed : String}
    (ha : marker ∉ args) (hp : typed ≠ marker) (hd : marker ∉ dropped)
    (hs : strict = true → dropped = []) :
    Parses strict (args ++ [marker, typed] ++ dropped) ⟨some (normal typed), args, dropped⟩ := by
  cases strict with
  | false => exact .dropping rfl ha hp hd
  | true =>
    rw [hs rfl, List.append_nil]
    exact .sent ha hp

end Line

namespace Shell

/-- The line has a redirection, and this token is its path. -/
inductive Types (sh : Shell) (line : String) : String → Prop where
  | intro {name typed : String} {args dropped : List String}
      (tokens : Line.tokens sh.settings.commentMark line =
        name :: (args ++ [Line.marker, typed] ++ dropped))
      (plain : Line.marker ∉ args) (path : typed ≠ Line.marker) (single : Line.marker ∉ dropped)
      (lenient : sh.settings.strictRedirection = true → dropped = []) : Types sh line typed

variable {sh : Shell} {w : World} {files : Tree} {line typed : String}

theorem Types.ne_empty (h : sh.Types line typed) : typed ≠ "" := by
  obtain ⟨ht, -, -, -, -⟩ := h
  have hm : typed ∈ Line.tokens sh.settings.commentMark line := by
    rw [ht]
    simp
  exact Line.ne_empty_of_mem_tokens hm

theorem Types.parsed (h : sh.Types line typed) :
    ∃ name args dropped,
      sh.parsed? line = some (name, ⟨some (normal typed), args, dropped⟩) := by
  obtain ⟨ht, plain, path, single, lenient⟩ := h
  have hp := Line.Parses.typed plain path single lenient
  exact ⟨_, _, _, parsed?_eq_some_iff.mpr ⟨_, ht, hp.redirection_eq⟩⟩

/-- What a line with a redirection shows. -/
theorem Types.shown (h : sh.Types line typed) (v : View) :
    (sh.course files line).shown v =
      match (sh.course files line).sent? with
      | none => v
      | some (files, text) => { v with files := files }.store (normal typed) text := by
  obtain ⟨name, args, dropped, hp⟩ := h.parsed
  rw [course_of_parsed hp]
  rcases commandCourse_cases sh files name args with h | h | ⟨files, text, h⟩ | ⟨files, e, h⟩
  all_goals rw [h]; rfl

/-- The text of a line goes to the file that was typed: the line does what writing to exactly this
path name does, and complains of the same reason. Only a path name that loses its end is written
without it; as it was typed, it could not be. -/
theorem typed_target_written (w : World) (h : sh.Types line typed)
    (hlen : typed.utf8ByteSize ≤ Files.maxPathLength) :
    let after := (sh.execute w line).1.view
    sh.target? line = some (normal typed) ∧
    ((sh.course w.files line).sent? = none → after = w.view) ∧
    ∀ files text, (sh.course w.files line).sent? = some (files, text) →
      (¬ LosesEnd (steps typed) →
        after = { w.view with files := files }.storeTyped typed text) ∧
      (LosesEnd (steps typed) →
        (∃ cause, files.write typed (Utf8.encode text.toList) = .error cause) ∧
        after = { w.view with files := files }.store (normal typed) text) := by
  intro after
  have hafter : after = (sh.course w.files line).shown w.view := view_execute sh w line
  rw [h.shown] at hafter
  refine ⟨?_, ?_, ?_⟩
  · obtain ⟨name, args, dropped, hp⟩ := h.parsed
    rw [target?, hp]
    rfl
  · intro hn
    rw [hafter, hn]
  · intro files text hs
    rw [hafter, hs]
    constructor
    · intro hl
      exact View.store_normal _ text h.ne_empty hlen hl
    · intro hl
      exact ⟨files.write_of_losesEnd hl _, rfl⟩

/-- A link in a path name with a needless slash and the directory itself. -/
theorem typed_target_written_link :
    let files := Tree.standard.set ["l", "box", "tmp"] (.link "out")
    let after := ((stock none).execute (World.ofFiles files) "echo hi > .//l").1.view
    (stock none).Types "echo hi > .//l" ".//l" ∧ ¬ LosesEnd (steps ".//l") ∧
      (stock none).target? "echo hi > .//l" = some "l" ∧
      files.write ".//l" (Utf8.encode "hi".toList) = .ok after.files ∧
      after.files.get? ["out", "box", "tmp"] =
        some (.file Files.newFileMode (Utf8.encode "hi".toList)) ∧
      after.errors = "" := by
  intro files after
  have ht : Line.tokens (stock none).settings.commentMark "echo hi > .//l" =
      "echo" :: (["hi"] ++ [Line.marker, ".//l"] ++ []) := by decide +kernel
  have htypes : (stock none).Types "echo hi > .//l" ".//l" :=
    .intro ht (by decide) (by decide) (by decide) fun _ => rfl
  have hkept : ¬ LosesEnd (steps ".//l") := by
    have hs : steps ".//l" = [".", "l"] := by decide +kernel
    rw [hs]
    rintro (⟨⟨hstays, -⟩, -, -⟩ | ⟨⟨-, hmore, -⟩ | ⟨⟨⟩⟩⟩)
    · exact hstays (.inr rfl)
    · exact hmore rfl
  have hsent : ((stock none).course files "echo hi > .//l").sent? = some (files, "hi") := by
    decide +kernel
  obtain ⟨htarget, -, hwritten⟩ :=
    typed_target_written (World.ofFiles files) htypes (by decide)
  have hview := (hwritten _ _ hsent).1 hkept
  have hw : files.write ".//l" (Utf8.encode "hi".toList) =
      .ok (files.set ["out", "box", "tmp"]
        (.file Files.newFileMode (Utf8.encode "hi".toList))) := by rfl
  have hstored : after = ⟨files.set ["out", "box", "tmp"]
      (.file Files.newFileMode (Utf8.encode "hi".toList)), "", ""⟩ := by
    refine hview.trans ?_
    rw [View.storeTyped]
    dsimp only
    rw [hw]
    rfl
  refine ⟨htypes, hkept, ?_, ?_, ?_, ?_⟩
  · rw [htarget]
    decide +kernel
  · rw [hstored]
    exact hw
  · rw [hstored]
    exact Tree.get?_set_self _ _ _
  · rw [hstored]

/-- A slash at the end asks for a directory, but a file is made. -/
theorem typed_target_lost :
    ¬ ∀ (sh : Shell) (w : World) (line typed : String), sh.Types line typed →
      typed.utf8ByteSize ≤ Files.maxPathLength →
      ∀ files text, (sh.course w.files line).sent? = some (files, text) →
        (sh.execute w line).1.view = { w.view with files := files }.storeTyped typed text := by
  intro hall
  have ht : Line.tokens (stock none).settings.commentMark "echo hi > out/" =
      "echo" :: (["hi"] ++ [Line.marker, "out/"] ++ []) := by decide +kernel
  have htypes : (stock none).Types "echo hi > out/" "out/" :=
    .intro ht (by decide) (by decide) (by decide) fun _ => rfl
  have hcourse : (stock none).course Tree.standard "echo hi > out/" =
      .answered (some "out") Tree.standard "hi" := by decide +kernel
  have hview := hall (stock none) (World.ofFiles Tree.standard) _ _ htypes (by decide) _ _
    (congrArg Course.sent? hcourse)
  have hshown : ((stock none).execute (World.ofFiles Tree.standard) "echo hi > out/").1.view =
      View.store ⟨Tree.standard, "", ""⟩ "out" "hi" :=
    (view_execute _ _ _).trans (congrArg (Course.shown _) hcourse)
  have ho : Tree.standard.target "out" =
      .ok (.file ["out", "box", "tmp"] Files.newFileMode []) := rfl
  rw [View.store_eq_set ho] at hshown
  have hrefused : Tree.standard.write "out/" (Utf8.encode "hi".toList) =
      .error (.ofFaultAt .isDirectory "out/") := rfl
  rw [hshown, View.storeTyped, hrefused] at hview
  have hmade : some _ = Tree.standard.get? ["out", "box", "tmp"] :=
    (Tree.get?_set_self _ _ _).symm.trans
      (congrArg (fun v : View => v.files.get? ["out", "box", "tmp"]) hview)
  cases hmade

end Shell

end LineShell
