import LineShell.Proofs.Input.Rounds

namespace LineShell

def AtLineStart (text : String) : Prop := text = "" ∨ ∃ line, text = line ++ "\n"

theorem AtLineStart.append {a b : String} (ha : AtLineStart a) (hb : AtLineStart b) :
    AtLineStart (a ++ b) := by
  rcases hb with rfl | ⟨line, rfl⟩
  · rwa [String.append_empty]
  · exact .inr ⟨a ++ line, String.append_assoc.symm⟩

theorem Log.Style.atLineStart_render (style : Log.Style) (e : Log.Event) :
    AtLineStart (style.render e) := by
  unfold render
  cases style with
  | bare =>
    dsimp only
    split
    · exact .inl rfl
    · exact .inr ⟨_, rfl⟩
  | stamped time least =>
    dsimp only
    split
    · exact .inl rfl
    · exact .inr ⟨_, rfl⟩

namespace World

def Tidy (w : World) : Prop := ∀ text, .error text ∈ w.transcript → ∃ line, text = line ++ "\n"

/-- What is shown next on standard error starts a line. -/
theorem Tidy.stderr_starts {w : World} (h : w.Tidy) (style : Log.Style) :
    AtLineStart (Transcript.stderr style w.transcript) := by
  obtain ⟨files, es⟩ := w
  induction es with
  | nil => exact .inl rfl
  | cons entry es ih =>
    have hrest : Tidy ⟨files, es⟩ := fun text hm => h text (List.mem_cons_of_mem _ hm)
    have hfirst : AtLineStart (Transcript.stderr style [entry]) := by
      cases entry with
      | output text => exact .inl rfl
      | error text =>
        obtain ⟨line, rfl⟩ := h text List.mem_cons_self
        exact .inr ⟨line, by simp [Transcript.stderr]⟩
      | log e => simpa [Transcript.stderr] using style.atLineStart_render e
    have happend := Transcript.stderr_append style [entry] es
    change AtLineStart (Transcript.stderr style ([entry] ++ es))
    rw [happend]
    exact hfirst.append (ih hrest)

theorem tidy_ofFiles (files : Files.Tree) : (ofFiles files).Tidy := by
  simp [Tidy, ofFiles]

namespace Tidy

variable {w : World} (h : w.Tidy)

include h

theorem add {es : List Entry} (hes : ∀ text, .error text ∈ es → ∃ line, text = line ++ "\n") :
    (w.add es).Tidy := by
  intro text hm
  rcases List.mem_append.mp hm with hm | hm
  · exact h text hm
  · exact hes text hm

theorem note (e : Log.Event) : (w.note e).Tidy := h.add (by simp)

theorem notes (es : List Log.Event) : (w.notes es).Tidy := h.add (by simp)

theorem print (text : String) : (w.print text).Tidy := h.add (by simp)

theorem complain (message : String) : (w.complain message).Tidy := by
  refine h.add ?_
  intro text hm
  cases List.mem_singleton.mp hm
  exact ⟨message, rfl⟩

theorem with_files (files : Files.Tree) : { w with files := files }.Tidy := h

theorem save (path text : String) : (w.save path text).1.Tidy := by
  rw [save_eq]
  split
  · exact (h.note _).with_files _
  · exact h.note _

theorem report (target : Option String) (e : LineError) : (w.report target e).Tidy := by
  cases target with
  | none => exact h.complain _
  | some path =>
    have hs := h.save path e.message
    unfold World.report
    dsimp only
    split
    · rename_i heq
      rwa [heq] at hs
    · rename_i heq
      rw [heq] at hs
      exact hs.complain _

theorem deliver (target : Option String) (text : String) : (w.deliver target text).Tidy := by
  cases target with
  | none => exact h.print _
  | some path =>
    have hs := h.save path text
    unfold World.deliver
    dsimp only
    split
    · rename_i heq
      rwa [heq] at hs
    · rename_i heq
      rw [heq] at hs
      exact hs.complain _

theorem carryOut (sh : Shell) (name : String) (args : List String)
    (resolution : Command.Resolution) : (sh.carryOut w name args resolution).1.Tidy := by
  cases resolution with
  | builtin b =>
    cases b with
    | echo => exact h
    | exit => exact h.note _
  | external path => exact (h.with_files _).notes _
  | notFound => exact h

theorem perform (sh : Shell) (name : String) (target : Option String) (args : List String) :
    (sh.perform w name target args).1.Tidy := by
  unfold Shell.perform
  cases Command.resolve w.files sh.searchPath name with
  | error e => exact h
  | ok resolution =>
    have hc := ((h.notes (resolution.events name)).note
      (.commandStarted resolution.kind name args)).carryOut sh name args resolution
    dsimp only
    generalize sh.carryOut _ name args resolution = done at hc ⊢
    obtain ⟨v, result⟩ := done
    rcases result with e | text | status
    · exact (hc.note _).report _ _
    · exact hc.deliver _ _
    · exact hc

theorem execute (sh : Shell) (line : String) : (sh.execute w line).1.Tidy := by
  unfold Shell.execute
  cases Line.tokens sh.settings.commentMark line with
  | nil => exact h
  | cons name rest =>
    dsimp only
    cases Line.redirection sh.settings.strictRedirection rest with
    | error e => exact (h.note _).report _ _
    | ok r =>
      dsimp only
      split
      · exact h.perform sh name r.target r.args
      · exact (h.note _).perform sh name r.target r.args

end Tidy

end World

end LineShell
