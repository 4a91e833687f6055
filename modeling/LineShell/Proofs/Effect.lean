import LineShell.Proofs.Input.Stopping

namespace LineShell

open Files (Tree)

namespace World

def preceded (w : World) (earlier : List Entry) : World := ⟨w.files, earlier ++ w.transcript⟩

variable (w : World) (earlier : List Entry)

@[simp] theorem files_preceded : (w.preceded earlier).files = w.files := rfl

theorem ofFiles_preceded : (ofFiles w.files).preceded w.transcript = w := by
  rw [preceded, ofFiles, List.append_nil]

@[simp] theorem add_preceded (es : List Entry) :
    (w.preceded earlier).add es = (w.add es).preceded earlier := by
  simp only [add, preceded, List.append_assoc]

@[simp] theorem note_preceded (e : Log.Event) :
    (w.preceded earlier).note e = (w.note e).preceded earlier := add_preceded w earlier _

@[simp] theorem notes_preceded (es : List Log.Event) :
    (w.preceded earlier).notes es = (w.notes es).preceded earlier := add_preceded w earlier _

@[simp] theorem print_preceded (text : String) :
    (w.preceded earlier).print text = (w.print text).preceded earlier := add_preceded w earlier _

@[simp] theorem complain_preceded (message : String) :
    (w.preceded earlier).complain message = (w.complain message).preceded earlier :=
  add_preceded w earlier _

theorem save_preceded (path text : String) :
    (w.preceded earlier).save path text =
      ((w.save path text).1.preceded earlier, (w.save path text).2) := by
  simp only [save_eq, note_preceded, files_preceded]
  cases w.files.write path (Text.Utf8.encode text.toList) with
  | ok files => rfl
  | error cause => rfl

@[simp] theorem report_preceded (target : Option String) (e : LineError) :
    (w.preceded earlier).report target e = (w.report target e).preceded earlier := by
  cases target with
  | none => exact complain_preceded w earlier e.message
  | some path =>
    simp only [report, save_preceded]
    obtain ⟨v, failure⟩ := w.save path e.message
    cases failure with
    | none => rfl
    | some failure => exact complain_preceded v earlier failure.message

@[simp] theorem deliver_preceded (target : Option String) (text : String) :
    (w.preceded earlier).deliver target text = (w.deliver target text).preceded earlier := by
  cases target with
  | none => exact print_preceded w earlier (text ++ "\n")
  | some path =>
    simp only [deliver, save_preceded]
    obtain ⟨v, failure⟩ := w.save path text
    cases failure with
    | none => rfl
    | some failure => exact complain_preceded v earlier failure.message

end World

/-- What a line does to files: those it leaves, what it shows, and what follows it. -/
structure Effect where
  files : Tree
  shown : List Entry
  verdict : Verdict
deriving Repr, DecidableEq

def Effect.on (e : Effect) (w : World) : World := ⟨e.files, w.transcript ++ e.shown⟩

namespace Shell

variable (sh : Shell) (w : World) (earlier : List Entry) (name : String)

theorem carryOut_preceded (args : List String) (resolution : Command.Resolution) :
    sh.carryOut (w.preceded earlier) name args resolution =
      ((sh.carryOut w name args resolution).1.preceded earlier,
        (sh.carryOut w name args resolution).2) := by
  cases resolution with
  | builtin b => cases b <;> simp [carryOut]
  | external path =>
    let r := Command.run sh.programs w.files path args
    have h : ({ w.preceded earlier with files := r.files } : World).notes r.events =
        (({ w with files := r.files } : World).notes r.events).preceded earlier :=
      World.notes_preceded { w with files := r.files } earlier r.events
    simp only [carryOut, World.files_preceded]
    exact Prod.ext h rfl
  | notFound => rfl

theorem perform_preceded (target : Option String) (args : List String) :
    sh.perform (w.preceded earlier) name target args =
      ((sh.perform w name target args).1.preceded earlier,
        (sh.perform w name target args).2) := by
  unfold perform
  rw [World.files_preceded]
  cases Command.resolve w.files sh.searchPath name with
  | error e => rfl
  | ok resolution =>
    simp only [World.notes_preceded, World.note_preceded, carryOut_preceded]
    generalize sh.carryOut _ name args resolution = done
    obtain ⟨v, result⟩ := done
    rcases result with e | text | status
    · simp
    · simp
    · rfl

theorem execute_preceded (line : String) :
    sh.execute (w.preceded earlier) line =
      ((sh.execute w line).1.preceded earlier, (sh.execute w line).2) := by
  unfold execute
  cases Line.tokens sh.settings.commentMark line with
  | nil => rfl
  | cons name rest =>
    dsimp only
    cases Line.redirection sh.settings.strictRedirection rest with
    | error e => simp
    | ok r =>
      dsimp only
      split
      · exact perform_preceded sh w earlier name r.target r.args
      · rw [World.note_preceded]
        exact perform_preceded sh _ earlier name r.target r.args

/-- The effect of a line. -/
def effect (files : Tree) (line : String) : Effect :=
  let r := sh.execute (World.ofFiles files) line
  ⟨r.1.files, r.1.transcript, r.2⟩

theorem execute_eq_effect (line : String) :
    sh.execute w line =
      ((sh.effect w.files line).on w, (sh.effect w.files line).verdict) := by
  have h := execute_preceded sh (World.ofFiles w.files) w.transcript line
  rw [World.ofFiles_preceded] at h
  exact h

/-- The lines that are executed: those up to the first that ends the shell. -/
def reached : Tree → List String → List String
  | _, [] => []
  | files, line :: lines =>
    let e := sh.effect files line
    line :: if e.verdict = .next then reached e.files lines else []

variable {sh w}

theorem effect_verdict (line : String) :
    (sh.effect w.files line).verdict = (sh.execute w line).2 := by
  rw [execute_eq_effect]

theorem effect_files (line : String) :
    (sh.effect w.files line).files = (sh.execute w line).1.files := by
  rw [execute_eq_effect]
  rfl

theorem reached_cons (line : String) (lines : List String) :
    sh.reached w.files (line :: lines) =
      line :: if (sh.execute w line).2 = .next then
        sh.reached (sh.execute w line).1.files lines else [] := by
  rw [reached, effect_verdict, effect_files]

theorem reached_of_continues {lines : List String} (h : sh.Continues w lines) :
    sh.reached w.files lines = lines := by
  induction lines generalizing w with
  | nil => rfl
  | cons line lines ih =>
    obtain ⟨hline, hlines⟩ := continues_cons_iff.mp h
    rw [reached_cons, if_pos hline, ih hlines]

theorem reached_of_stopsAt {before : List String} {line : String} (h : sh.StopsAt w before line)
    (after : List String) :
    sh.reached w.files (before ++ line :: after) = before ++ [line] := by
  induction before generalizing w with
  | nil =>
    have hline : (sh.execute w line).2 ≠ .next := h.2
    rw [List.nil_append, reached_cons, if_neg hline, List.nil_append]
  | cons first before ih =>
    obtain ⟨hfirst, hrest⟩ := stopsAt_cons_iff.mp h
    rw [List.cons_append, reached_cons, if_pos hfirst, ih hrest, List.cons_append]

theorem prefix_reached (files : Tree) (lines : List String) :
    sh.reached files lines <+: lines := by
  induction lines generalizing files with
  | nil => exact List.prefix_rfl
  | cons line lines ih =>
    refine (List.prefix_cons_inj line).mpr ?_
    split
    · exact ih _
    · exact List.nil_prefix

end Shell

end LineShell
