import LineShell.Proofs.Effect

namespace LineShell

open Files (Tree)

namespace Transcript

theorem stderr_append (style : Log.Style) (a b : List Entry) :
    stderr style (a ++ b) = stderr style a ++ stderr style b :=
  join_map_append _ a b

end Transcript

namespace Input

/-- What comes of one attempt to read a line. -/
inductive Round where
  | line (text : String) (effect : Effect)
  | interrupt
  | failure (cause : Cause)
  | endOfInput
deriving Repr, DecidableEq

namespace Round

def line? : Round → Option String
  | line text _ => some text
  | _ => none

def shown (interactive : Bool) : Round → List Entry
  | line _ effect => effect.shown
  | interrupt => [.output "\n"]
  | failure _ => []
  | endOfInput => if interactive then [.output "\n"] else []

def own : Round → List Entry
  | line _ effect => effect.shown
  | _ => []

def entries (prompt : String) (interactive : Bool) (r : Round) : List Entry :=
  (if interactive then [.output prompt] else []) ++ r.shown interactive

def printed (interactive : Bool) (r : Round) : String := Transcript.stdout (r.shown interactive)

end Round

def rounds (sh : Shell) : List Reading → Tree → List Round
  | [], _ => [.endOfInput]
  | .interrupt :: r, files => .interrupt :: rounds sh r files
  | .failed cause :: _, _ => [.failure cause]
  | .line text :: r, files =>
    let e := sh.effect files text
    .line text e :: if e.verdict = .next then rounds sh r e.files else []

def filesAfter : List Round → Tree → Tree
  | [], files => files
  | .line _ e :: rs, _ => filesAfter rs e.files
  | _ :: rs, files => filesAfter rs files

def endingOf : List Round → Ending
  | .line _ e :: rs => if e.verdict = .next then endingOf rs else e.verdict.ending
  | .interrupt :: rs => endingOf rs
  | .failure cause :: _ => .fatal (.input "standard input" (some cause))
  | _ => .status 0

def executed (sh : Shell) (readings : List Reading) (files : Tree) : List String :=
  (rounds sh readings files).filterMap Round.line?

variable {sh : Shell} {interactive : Bool} {readings : List Reading} {files : Tree}

theorem rounds_ne_nil : rounds sh readings files ≠ [] := by
  cases readings with
  | nil => simp [rounds]
  | cons reading r => cases reading <;> simp [rounds]

theorem prompted_eq (sh : Shell) (interactive : Bool) (w : World) :
    prompted sh interactive w =
      w.add (if interactive then [.output sh.settings.prompt] else []) := by
  cases interactive with
  | true => rfl
  | false => simp [prompted, World.add]

/-- A session shows its rounds, and leaves and ends as they say. -/
theorem loop_eq_rounds (w : World) :
    let rs := rounds sh readings w.files
    loop sh interactive readings w =
      (⟨filesAfter rs w.files,
        w.transcript ++ rs.flatMap (Round.entries sh.settings.prompt interactive)⟩,
        endingOf rs) := by
  induction readings generalizing w with
  | nil =>
    change ((if interactive then (prompted sh interactive w).print "\n"
      else prompted sh interactive w), _) = _
    rw [prompted_eq]
    cases interactive <;>
      simp [rounds, filesAfter, endingOf, Round.entries, Round.shown, World.print, World.add]
  | cons reading r ih =>
    cases reading with
    | interrupt =>
      change loop sh interactive r ((prompted sh interactive w).print "\n") = _
      rw [ih, prompted_eq]
      simp [rounds, filesAfter, endingOf, Round.entries, Round.shown, World.print, World.add]
    | failed cause =>
      change (prompted sh interactive w, _) = _
      rw [prompted_eq]
      simp [rounds, filesAfter, endingOf, Round.entries, Round.shown, World.add]
    | line text =>
      rw [loop_line, prompted_eq, Shell.execute_eq_effect]
      simp only [rounds, filesAfter, endingOf]
      change (if (sh.effect w.files text).verdict = .next then _ else _) = _
      split
      · rw [ih]
        simp [Effect.on, World.add, Round.entries, Round.shown]
      · simp [Effect.on, World.add, filesAfter, Round.entries, Round.shown]

theorem executed_line (text : String) :
    executed sh (.line text :: readings) files =
      text :: if (sh.effect files text).verdict = .next then
        executed sh readings (sh.effect files text).files else [] := by
  simp only [executed, rounds, List.filterMap_cons, Round.line?]
  split <;> rfl

def typed : List Reading → List String
  | .line text :: r => text :: typed r
  | .interrupt :: r => typed r
  | .failed _ :: _ => []
  | [] => []

theorem executed_eq_reached : executed sh readings files = sh.reached files (typed readings) := by
  induction readings generalizing files with
  | nil => rfl
  | cons reading r ih =>
    cases reading with
    | interrupt => exact ih
    | failed cause => rfl
    | line text => rw [executed_line, typed, Shell.reached, ih]

/-- The lines executed leave the files that the rounds do, and show their part of it. -/
theorem executeAll_executed (w : World) :
    let rs := rounds sh readings w.files
    sh.executeAll w (executed sh readings w.files) =
      ⟨filesAfter rs w.files, w.transcript ++ rs.flatMap Round.own⟩ := by
  have hnone : ∀ w : World, w = ⟨w.files, w.transcript ++ []⟩ := by
    intro w
    rw [List.append_nil]
  induction readings generalizing w with
  | nil => exact hnone w
  | cons reading r ih =>
    cases reading with
    | interrupt => exact ih w
    | failed cause => exact hnone w
    | line text =>
      let e := sh.effect w.files text
      have hstep : ∀ rest, sh.executeAll w (text :: rest) = sh.executeAll (e.on w) rest :=
        fun rest => congrArg (fun r => sh.executeAll r.1 rest) (Shell.execute_eq_effect sh w text)
      rw [executed_line, hstep]
      simp only [rounds, filesAfter, List.flatMap_cons, Round.own]
      split
      · have h : sh.executeAll (e.on w) (executed sh r e.files) = _ := ih (e.on w)
        rw [h]
        simp only [Effect.on, List.append_assoc, e]
      · simp [Shell.executeAll, filesAfter, Effect.on, e]

end Input

end LineShell
