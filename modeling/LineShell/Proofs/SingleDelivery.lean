import LineShell.Proofs.Delivery
import LineShell.Proofs.Outcome
import LineShell.Proofs.Text.Utf8
import Mathlib.Logic.ExistsUnique

namespace LineShell

open Files (Place Tree)
open Text (Utf8.encode)

namespace Line

variable {strict : Bool} {tokens : List String} {r : Redirection}

theorem target_isSome_iff (h : redirection strict tokens = .ok r) :
    r.target.isSome ↔ marker ∈ tokens := by
  cases redirection_eq_ok_iff.mp h with
  | plain ha => simp [ha]
  | sent ha hp => simp
  | dropping hs ha hp he => simp

end Line

namespace Files.Tree

/-- A path name that leads to no special file opens as a regular file, or not at all. -/
theorem opensFile_or_write_error {t : Tree} {path : String}
    (hd : ∀ kind, t.target path ≠ .ok (.device kind)) :
    t.OpensFile path ∨ ∃ cause, ∀ bytes, t.write path bytes = .error cause := by
  cases ht : t.target path with
  | error cause => exact .inr ⟨cause, fun bytes => by rw [write, ht]⟩
  | ok target =>
    cases target with
    | file place mode content => exact .inl ⟨place, mode, content, ht⟩
    | device kind => exact absurd ht (hd kind)

end Files.Tree

inductive Delivery where
  | output (text : String)
  | error (text : String)
  | file (text : String)

/-- What there is to see of a delivery: a stream has grown by the text and a line end, or the
target is a regular file that now holds exactly the text, and the other files are as they were. -/
def Delivery.Happened (target : Option String) (before after : View) : Delivery → Prop
  | .output text => after.stdout = before.stdout ++ (text ++ "\n")
  | .error text => after.errors = before.errors ++ (text ++ "\n")
  | .file text => ∃ path place mode content, target = some path ∧
      before.files.target path = .ok (.file place mode content) ∧
      after.files = before.files.set place (.file mode (Utf8.encode text.toList)) ∧
      after.files.read path = .ok (Utf8.encode text.toList)

/-- One text has gone to one place, and nothing else has changed. -/
structure Delivers (target : Option String) (before after : View) : Prop where
  once : ∃! d : Delivery, d.Happened target before after
  oneStream : after.stdout = before.stdout ∨ after.errors = before.errors
  unprinted : target ≠ none → after.stdout = before.stdout
  silent : ∀ text, (Delivery.file text).Happened target before after →
    after.stdout = before.stdout ∧ after.errors = before.errors
  untouched : (∀ text, ¬ (Delivery.file text).Happened target before after) →
    after.files = before.files

namespace View

variable {v : View} {target : Option String} {path text : String}

theorem ne_append_line (s text : String) : s ≠ s ++ (text ++ "\n") := by
  intro h
  have hl := congrArg String.length h
  simp [String.length_append] at hl

theorem append_line_inj {s a b : String} (h : s ++ (a ++ "\n") = s ++ (b ++ "\n")) : a = b :=
  (String.append_left_inj "\n").mp ((String.append_right_inj s).mp h)

/-- A text that is printed is delivered, if it has no target. -/
theorem print_delivers (v : View) (text : String) :
    Delivers none v (v.print (text ++ "\n")) where
  once := by
    refine ⟨.output text, rfl, ?_⟩
    intro d hd
    cases d with
    | output other => rw [append_line_inj hd]
    | error other => exact absurd hd (ne_append_line _ _)
    | file other =>
      obtain ⟨_, _, _, _, h, -⟩ := hd
      cases h
  oneStream := .inr rfl
  unprinted := fun h => absurd rfl h
  silent := by
    rintro other ⟨_, _, _, _, h, -⟩
    cases h
  untouched := fun _ => rfl

/-- A message that is shown is delivered, if its target does not open as a regular file. -/
theorem complain_delivers (hf : ∀ path, target = some path → ¬ v.files.OpensFile path) :
    Delivers target v (v.complain text) := by
  have hnot : ∀ other, ¬ (Delivery.file other).Happened target v (v.complain text) := by
    rintro other ⟨path, place, mode, content, ht, ho, -⟩
    exact hf path ht ⟨place, mode, content, ho⟩
  exact {
    once := by
      refine ⟨.error text, rfl, ?_⟩
      intro d hd
      cases d with
      | output other => exact absurd hd (ne_append_line _ _)
      | error other => rw [append_line_inj hd]
      | file other => exact absurd hd (hnot other)
    oneStream := .inl rfl
    unprinted := fun _ => rfl
    silent := fun other h => absurd h (hnot other)
    untouched := fun _ => rfl }

/-- A text that is sent to a path name is delivered, there or by the reason why it cannot be. -/
theorem store_delivers (hd : ∀ kind, v.files.target path ≠ .ok (.device kind)) :
    Delivers (some path) v (v.store path text) := by
  rcases Tree.opensFile_or_write_error hd with ho | ⟨cause, hw⟩
  · have hread := read_store ho text
    obtain ⟨place, mode, content, ht⟩ := ho
    have hstore := store_eq_set ht text
    have hkept : (Delivery.file text).Happened (some path) v (v.store path text) :=
      ⟨path, place, mode, content, rfl, ht, by rw [hstore], hread⟩
    have hout : (v.store path text).stdout = v.stdout := by rw [hstore]
    have herr : (v.store path text).errors = v.errors := by rw [hstore]
    exact {
      once := by
        refine ⟨.file text, hkept, ?_⟩
        intro d hd
        cases d with
        | output other => exact absurd (hout.symm.trans hd) (ne_append_line _ _)
        | error other => exact absurd (herr.symm.trans hd) (ne_append_line _ _)
        | file other =>
          obtain ⟨_, _, _, _, hp, -, -, hr⟩ := hd
          cases hp
          have he : Utf8.encode other.toList = Utf8.encode text.toList :=
            Except.ok.inj (hr.symm.trans hread)
          rw [String.toList_injective (Text.Utf8.encode_injective he)]
      oneStream := .inl hout
      unprinted := fun _ => hout
      silent := fun _ _ => ⟨hout, herr⟩
      untouched := fun h => absurd hkept (h text) }
  · rw [store_of_error (hw _)]
    apply complain_delivers
    rintro _ hp ⟨place, mode, content, ht⟩
    cases hp
    cases (Tree.write_eq_set ht []).symm.trans (hw [])

end View

namespace Shell

variable {sh : Shell} {w : World} {line : String}

theorem target?_isSome {name : String} {rest : List String}
    (ht : Line.tokens sh.settings.commentMark line = name :: rest)
    (hw : Line.WellFormed sh.settings.strictRedirection rest) (hm : Line.marker ∈ rest) :
    sh.target? line ≠ none := by
  obtain ⟨r, hr⟩ := Line.redirection_ok_iff.mpr hw
  have hp : sh.parsed? line = some (name, r) := parsed?_eq_some_iff.mpr ⟨rest, ht, hr⟩
  have hs := (Line.target_isSome_iff hr).mpr hm
  rw [target?, hp]
  exact Option.isSome_iff_ne_none.mp hs

/-- What a line shows is one delivery, and only a command that succeeds prints. -/
theorem shown_delivers (v : View) (ht : Line.tokens sh.settings.commentMark line ≠ [])
    (hn : (sh.course v.files line).verdict = .next)
    (hd : ∀ path kind, sh.target? line = some path →
      (sh.filesLeft v.files line).target path ≠ .ok (.device kind)) :
    let after := (sh.course v.files line).shown v
    Delivers (sh.target? line) { v with files := sh.filesLeft v.files line } after ∧
      (after.stdout ≠ v.stdout → sh.Succeeds v.files line) := by
  have hstore : ∀ path text, sh.target? line = some path →
      Delivers (some path) { v with files := sh.filesLeft v.files line }
        (View.store { v with files := sh.filesLeft v.files line } path text) :=
    fun path text hp => View.store_delivers fun kind => hd path kind hp
  rcases course_outcome sh v.files line with ⟨h, -⟩ | ⟨hp, e, hc⟩ | ⟨h, -⟩ | ⟨hs, text, hc⟩ |
    ⟨-, e, hc⟩
  · exact absurd h ht
  · have htarget : sh.target? line = none := by rw [target?, hp]; rfl
    have hfiles : sh.filesLeft v.files line = v.files := by rw [filesLeft, hp]
    rw [hc, hfiles]
    exact ⟨View.complain_delivers (by simp [htarget]), fun h => absurd rfl h⟩
  · exact absurd hn h
  · rw [hc]
    refine ⟨?_, fun _ => hs⟩
    cases htarget : sh.target? line with
    | none => exact View.print_delivers _ text
    | some path => exact hstore path text htarget
  · rw [hc]
    cases htarget : sh.target? line with
    | none => exact ⟨View.complain_delivers (by simp), fun h => absurd rfl h⟩
    | some path =>
      have hs := hstore path e.message htarget
      exact ⟨hs, fun h => absurd (hs.unprinted (by simp)) h⟩

/-- A line that the next one follows, and that is not skipped, gives one text to one place: a line
on standard output, a line on standard error, or the whole content of its target. With a
redirection nothing is printed, and only a command that succeeds prints. -/
theorem execute_delivers (ht : Line.tokens sh.settings.commentMark line ≠ [])
    (hn : (sh.execute w line).2 = .next)
    (hd : ∀ path kind, sh.target? line = some path →
      (sh.filesLeft w.files line).target path ≠ .ok (.device kind)) :
    let before : View := { w.view with files := sh.filesLeft w.files line }
    let after := (sh.execute w line).1.view
    Delivers (sh.target? line) before after ∧
      (∀ name rest, Line.tokens sh.settings.commentMark line = name :: rest →
        Line.WellFormed sh.settings.strictRedirection rest → Line.marker ∈ rest →
          after.stdout = before.stdout) ∧
      (after.stdout ≠ before.stdout → sh.Succeeds w.files line) := by
  intro before after
  have hafter : after = (sh.course w.files line).shown w.view := view_execute sh w line
  rw [verdict_execute] at hn
  obtain ⟨hdelivers, hprints⟩ := shown_delivers w.view ht hn hd
  rw [hafter]
  refine ⟨hdelivers, ?_, hprints⟩
  intro name rest hl hw hm
  exact hdelivers.unprinted (target?_isSome hl hw hm)

/-- A command that is not found overwrites its target with the one message of its line. -/
theorem execute_delivers_not_found :
    let sh := stock (some "bin")
    let place : Place := ["out", "box", "tmp"]
    let files := Tree.standard.set place (.file 0o600 (Utf8.encode "old".toList))
    let after := (sh.execute (World.ofFiles files) "nope > out").1.view
    Line.tokens sh.settings.commentMark "nope > out" ≠ [] ∧
      (sh.execute (World.ofFiles files) "nope > out").2 = .next ∧
      (∀ path kind, sh.target? "nope > out" = some path →
        (sh.filesLeft files "nope > out").target path ≠ .ok (.device kind)) ∧
      Delivers (some "out") ⟨files, "", ""⟩ after ∧ after.stdout = "" ∧ after.errors = "" ∧
      after.files = files.set place
        (.file 0o600 (Utf8.encode "Command not found: \"nope\"".toList)) := by
  intro sh place files after
  have hc : sh.course files "nope > out" = .failed (some "out") files (.notFound "nope") := by
    decide +kernel
  have ht : Line.tokens sh.settings.commentMark "nope > out" ≠ [] := by decide +kernel
  have hn : (sh.execute (World.ofFiles files) "nope > out").2 = .next :=
    (verdict_execute sh _ _).trans (congrArg Course.verdict hc)
  have htarget : sh.target? "nope > out" = some "out" := by decide +kernel
  have hfiles : sh.filesLeft files "nope > out" = files := by decide +kernel
  have ho : files.target "out" = .ok (.file place 0o600 (Utf8.encode "old".toList)) := rfl
  have hd : ∀ path kind, sh.target? "nope > out" = some path →
      (sh.filesLeft files "nope > out").target path ≠ .ok (.device kind) := by
    intro path kind hp hk
    cases htarget.symm.trans hp
    rw [hfiles, ho] at hk
    cases hk
  have hdelivers := (execute_delivers (w := World.ofFiles files) ht hn hd).1
  have hview : after = View.store ⟨files, "", ""⟩ "out" (LineError.notFound "nope").message :=
    (view_execute sh _ _).trans (congrArg (Course.shown _) hc)
  rw [View.store_eq_set ho] at hview
  rw [htarget, show (World.ofFiles files).files = files from rfl, hfiles] at hdelivers
  refine ⟨ht, hn, hd, hdelivers, ?_⟩
  rw [hview]
  exact ⟨rfl, rfl, rfl⟩

end Shell

end LineShell
