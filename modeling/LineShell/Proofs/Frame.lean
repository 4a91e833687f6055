import LineShell.Proofs.Delivery
import LineShell.Proofs.Files.Written
import LineShell.Proofs.Input.Stopping

namespace LineShell

open Files (Framed Place Tree)
open Text (Utf8.encode)

namespace View

theorem framed_store (v : View) (path text : String) :
    Framed (some path) v.files (v.store path text).files := by
  cases hw : v.files.write path (Utf8.encode text.toList) with
  | ok files =>
    rw [store_of_write hw]
    exact .of_write hw
  | error cause =>
    rw [store_of_error hw]
    exact .untouched

end View

namespace Shell

/-- The command of a line stands for a program. -/
def StartsProgram (sh : Shell) (files : Tree) (line : String) : Prop :=
  ∃ name r path, sh.parsed? line = some (name, r) ∧
    Command.resolve files sh.searchPath name = .ok (.external path)

variable {sh : Shell} {w : World} {files : Tree} {line : String}

theorem filesLeft_of_not_startsProgram (h : ¬ sh.StartsProgram files line) :
    sh.filesLeft files line = files := by
  unfold filesLeft
  cases hp : sh.parsed? line with
  | none => rfl
  | some p =>
    obtain ⟨name, r⟩ := p
    dsimp only
    unfold commandFiles
    split
    · rename_i path hr
      exact absurd ⟨name, r, path, hp, hr⟩ h
    · rfl

/-- A line that ends the shell starts no program. -/
theorem filesLeft_of_verdict (h : (sh.course files line).verdict ≠ .next) :
    sh.filesLeft files line = files := by
  apply filesLeft_of_not_startsProgram
  rintro ⟨name, r, path, hp, hr⟩
  exact h (verdict_of_resolve hp hr (by simp))

theorem shown_of_verdict {c : Course} (h : c.verdict ≠ .next) (v : View) : c.shown v = v := by
  cases c with
  | stopped | exits => rfl
  | _ => exact absurd rfl h

theorem target?_of_parsed (h : sh.parsed? line = none) : sh.target? line = none := by
  rw [target?, h]
  rfl

/-- Once its command is done, a line writes at most its target. -/
theorem framed_execute (sh : Shell) (w : World) (line : String) :
    Framed (sh.target? line) (sh.filesLeft w.files line) (sh.execute w line).1.files := by
  have hfiles : (sh.execute w line).1.files =
      ((sh.course w.files line).shown w.view).files :=
    congrArg View.files (view_execute sh w line)
  rw [hfiles]
  rcases course_outcome sh w.files line with ⟨ht, hc⟩ | ⟨hp, e, hc⟩ | ⟨hv, -⟩ | ⟨-, text, hc⟩ |
    ⟨-, e, hc⟩
  · have hp : sh.parsed? line = none := by rw [parsed?, ht]
    rw [hc, filesLeft, hp]
    exact .untouched
  · rw [hc, filesLeft, hp]
    exact .untouched
  · rw [shown_of_verdict hv, filesLeft_of_verdict hv]
    exact .untouched
  · rw [hc]
    cases sh.target? line with
    | none => exact .untouched
    | some path => exact View.framed_store { w.view with files := _ } path text
  · rw [hc]
    cases sh.target? line with
    | none => exact .untouched
    | some path => exact View.framed_store { w.view with files := _ } path e.message

theorem files_of_verdict (h : (sh.execute w line).2 ≠ .next) :
    (sh.execute w line).1.files = w.files := by
  rw [verdict_execute] at h
  have hv := view_execute sh w line
  rw [shown_of_verdict h] at hv
  exact congrArg View.files hv

theorem parsed?_of_not_wellFormed {name : String} {rest : List String}
    (ht : Line.tokens sh.settings.commentMark line = name :: rest)
    (hw : ¬ Line.WellFormed sh.settings.strictRedirection rest) : sh.parsed? line = none := by
  cases hp : sh.parsed? line with
  | none => rfl
  | some p =>
    obtain ⟨rest', ht', hr⟩ := parsed?_eq_some_iff.mp hp
    cases ht.symm.trans ht'
    exact absurd (Line.redirection_ok_iff.mp ⟨_, hr⟩) hw

/-- Of all entries, a line that starts no program changes at most the regular file to which its
target leads, or creates that file in a directory that is there. It changes nothing if it is skipped
or rejected, if it ends the shell, or if it has no target that can be opened for writing. -/
theorem execute_frame (h : ¬ sh.StartsProgram w.files line) :
    let after := (sh.execute w line).1.files
    (∀ place, after.get? place ≠ w.files.get? place → ∃ path mode content bytes,
      sh.target? line = some path ∧ w.files.target path = .ok (.file place mode content) ∧
      w.files.Standing place mode content ∧ after.get? place = some (.file mode bytes)) ∧
    (∀ place place', after.get? place ≠ w.files.get? place →
      after.get? place' ≠ w.files.get? place' → place = place') ∧
    after.here = w.files.here ∧ (w.files.Rooted → after.Rooted) ∧
    (Line.tokens sh.settings.commentMark line = [] → after = w.files) ∧
    (∀ name rest, Line.tokens sh.settings.commentMark line = name :: rest →
      ¬ Line.WellFormed sh.settings.strictRedirection rest → after = w.files) ∧
    (∀ rest, Line.tokens sh.settings.commentMark line = "exit" :: rest → after = w.files) ∧
    ((sh.execute w line).2 = .fatal .pathNotSet → after = w.files) ∧
    (∀ name rest, Line.tokens sh.settings.commentMark line = name :: rest →
      Line.marker ∉ rest → after = w.files) ∧
    ∀ path cause, sh.target? line = some path → w.files.target path = .error cause →
      after = w.files := by
  intro after
  have hframed : Framed (sh.target? line) w.files after := by
    have hf := framed_execute sh w line
    rwa [filesLeft_of_not_startsProgram h] at hf
  have huntargeted : sh.target? line = none → after = w.files := by
    intro hn
    rw [hn] at hframed
    exact hframed.eq_of_none
  have hrejected : ∀ name rest, Line.tokens sh.settings.commentMark line = name :: rest →
      ¬ Line.WellFormed sh.settings.strictRedirection rest → after = w.files := by
    intro name rest ht hw
    exact huntargeted (target?_of_parsed (parsed?_of_not_wellFormed ht hw))
  refine ⟨fun place => hframed.changed, fun place place' => hframed.changed_unique,
    hframed.here_eq, hframed.rooted, ?_, hrejected, ?_, ?_, ?_, ?_⟩
  · intro ht
    apply huntargeted
    exact target?_of_parsed (by rw [parsed?, ht])
  · intro rest ht
    by_cases hw : Line.WellFormed sh.settings.strictRedirection rest
    · apply files_of_verdict
      rw [verdict_execute, course_eq_exits_iff.mpr ⟨rest, ht, hw⟩]
      simp [Course.verdict]
    · exact hrejected "exit" rest ht hw
  · intro hv
    apply files_of_verdict
    rw [hv]
    simp
  · intro name rest ht hm
    apply huntargeted
    rw [target?, parsed?_eq_some_iff.mpr ⟨rest, ht, Line.redirection_plain hm⟩]
    rfl
  · intro path cause ht ho
    rw [ht] at hframed
    exact hframed.eq_of_refused ho

/-- A link that leads to nothing yet: the file it names is created, and the link stays. -/
theorem execute_frame_link :
    let files := Tree.standard.set ["l", "box", "tmp"] (.link "out")
    let after := ((stock none).execute (World.ofFiles files) "echo hi > l").1.files
    ¬ (stock none).StartsProgram files "echo hi > l" ∧ files.Rooted ∧ after.Rooted ∧
      after.get? ["out", "box", "tmp"] = some (.file Files.newFileMode (Utf8.encode "hi".toList)) ∧
      (∀ place, place ≠ ["out", "box", "tmp"] → after.get? place = files.get? place) ∧
      after.get? ["l", "box", "tmp"] = some (.link "out") := by
  intro files after
  have hp : (stock none).parsed? "echo hi > l" = some ("echo", ⟨some "l", ["hi"], []⟩) := by
    decide +kernel
  have hn : ¬ (stock none).StartsProgram files "echo hi > l" := by
    rintro ⟨name, r, path, hp', hr⟩
    cases hp.symm.trans hp'
    cases hr
  have ho : files.target "l" = .ok (.file ["out", "box", "tmp"] Files.newFileMode []) := rfl
  have hc : (stock none).course files "echo hi > l" = .answered (some "l") files "hi" := by
    rw [course_of_parsed hp]
    rfl
  have hview : ((stock none).execute (World.ofFiles files) "echo hi > l").1.view =
      View.store ⟨files, "", ""⟩ "l" "hi" :=
    (view_execute _ _ _).trans (congrArg (Course.shown _) hc)
  rw [View.store_eq_set ho] at hview
  have hafter : after = files.set ["out", "box", "tmp"]
      (.file Files.newFileMode (Utf8.encode "hi".toList)) := congrArg View.files hview
  have hkept : ∀ place, place ≠ ["out", "box", "tmp"] → after.get? place = files.get? place := by
    intro place hne
    by_cases hsame : after.get? place = files.get? place
    · exact hsame
    obtain ⟨path, _, _, _, ht, ho', -⟩ :=
      (execute_frame (w := World.ofFiles files) hn).1 place hsame
    have hl : (stock none).target? "echo hi > l" = some "l" := by rw [target?, hp]; rfl
    cases hl.symm.trans ht
    cases ho.symm.trans ho'
    exact absurd rfl hne
  have hr : files.Rooted := Tree.rooted_standard.set (by decide) rfl _
  have hr' : after.Rooted := (execute_frame (w := World.ofFiles files) hn).2.2.2.1 hr
  refine ⟨hn, hr, hr', ?_, hkept, ?_⟩
  · rw [hafter, Tree.get?_set_self]
  · rw [hkept _ (by decide)]
    exact Tree.get?_set_self ..

end Shell

end LineShell
