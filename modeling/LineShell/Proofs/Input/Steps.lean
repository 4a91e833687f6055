import LineShell.Input.Script
import LineShell.Input.Session
import LineShell.Proofs.Course

namespace LineShell

def Verdict.ending : Verdict → Ending
  | .next => .status 0
  | .exit status => .status status
  | .fatal e => .fatal e

namespace Input

variable (sh : Shell) {w w' : World} {interactive : Bool}

/-- What follows a line, and what is seen after it, depends on what was seen before it. -/
theorem execute_congr (h : w.view = w'.view) (line : String) :
    (sh.execute w line).1.view = (sh.execute w' line).1.view ∧
      (sh.execute w line).2 = (sh.execute w' line).2 := by
  have hf : w.files = w'.files := congrArg View.files h
  rw [Shell.view_execute, Shell.view_execute, Shell.verdict_execute, Shell.verdict_execute, h, hf]
  exact ⟨rfl, rfl⟩

theorem runLine_eq (w : World) (line : String) :
    runLine sh w line = ((sh.execute w line).1, (sh.execute w line).2.ending) := by
  unfold runLine
  generalize sh.execute w line = r
  obtain ⟨v, verdict⟩ := r
  cases verdict <;> rfl

def numbered (number : Nat) (w : World) (line : String) : World × Verdict :=
  sh.execute (w.note (.lineStarted number line)) line

theorem numbered_congr (number : Nat) (h : w.view = w'.view) (line : String) :
    (numbered sh number w line).1.view = (sh.execute w' line).1.view ∧
      (numbered sh number w line).2 = (sh.execute w' line).2 :=
  execute_congr sh ((World.view_note w _).trans h) line

def closed (number : Nat) (verdict : Verdict) (w : World) : World :=
  match verdict with
  | .exit _ => w.note (.exitOnLine number)
  | _ => w

@[simp] theorem view_closed (number : Nat) (verdict : Verdict) (w : World) :
    (closed number verdict w).view = w.view := by
  cases verdict with
  | exit status => exact World.view_note _ _
  | next => rfl
  | fatal e => rfl

theorem runLines_cons (number : Nat) (line : String) (lines : List String) (w : World) :
    runLines sh number (line :: lines) w =
      if (numbered sh number w line).2 = .next then
        runLines sh (number + 1) lines (numbered sh number w line).1
      else (closed number (numbered sh number w line).2 (numbered sh number w line).1,
        (numbered sh number w line).2.ending) := by
  have hr : sh.execute (w.note (.lineStarted number line)) line = numbered sh number w line := rfl
  rw [runLines, hr]
  generalize numbered sh number w line = r
  obtain ⟨v, verdict⟩ := r
  cases verdict <;> simp [Verdict.ending, closed]

def prompted (interactive : Bool) (w : World) : World :=
  if interactive then w.print sh.settings.prompt else w

@[simp] theorem prompted_false (w : World) : prompted sh false w = w := rfl

theorem loop_line (text : String) (tail : List Reading) (w : World) :
    loop sh interactive (.line text :: tail) w =
      if (sh.execute (prompted sh interactive w) text).2 = .next then
        loop sh interactive tail (sh.execute (prompted sh interactive w) text).1
      else ((sh.execute (prompted sh interactive w) text).1,
        (sh.execute (prompted sh interactive w) text).2.ending) := by
  have hp : (if interactive = true then w.print sh.settings.prompt else w) =
      prompted sh interactive w := rfl
  rw [loop, hp]
  generalize sh.execute (prompted sh interactive w) text = r
  obtain ⟨v, verdict⟩ := r
  cases verdict <;> simp [Verdict.ending]

end Input

end LineShell
