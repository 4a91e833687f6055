import LineShell.Proofs.Files.Home
import LineShell.Proofs.Settings.Validation
import LineShell.Settings.Coercion

namespace LineShell.Settings

open Files
open Files.Path (HomeAtRoot)

variable {c : Coercions} {environment : Environment} {values : List (String × Value)}
  {s : Settings} {v : Value} {mark path file : String}

theorem expandHome_of_expand (h : expand environment path = .ok (.ok (some file))) :
    Path.expandHome environment path = .ok file := by
  unfold expand at h
  split at h <;> cases h
  assumption

theorem toPath_again (lawful : c.Lawful) (hh : HomeAtRoot environment)
    (h : expand environment path = .ok (.ok (some file))) (environment' : Environment) :
    toPath c environment' (.text file) = .ok (.ok (some file)) := by
  have hagain := Path.expandHome_again hh (expandHome_of_expand h) environment'
  rw [toPath_of_ne_null (by simp), lawful.written]
  exact expand_of_expandHome hagain

theorem expand_of_toPath (h : toPath c environment v = .ok (.ok (some file))) :
    ∃ path, expand environment path = .ok (.ok (some file)) := by
  by_cases hv : v = .null
  · subst hv
    cases h
  · rw [toPath_of_ne_null hv] at h
    split at h
    · cases h
    · cases h
    · exact ⟨_, h⟩

theorem expand_of_toHistoryFile {value? : Option Value}
    (h : toHistoryFile c environment value? = .ok (.ok (some file))) :
    ∃ path, expand environment path = .ok (.ok (some file)) := by
  cases value? with
  | none => exact ⟨_, h⟩
  | some v => exact expand_of_toPath h

theorem toMark_of_isMark (lawful : c.Lawful) (h : isMark mark = true) :
    toMark c (.text mark) = .ok (some mark) := by
  rw [toMark_text lawful, if_pos h]

/-- The values of settings make these settings again. -/
theorem Validates.again (lawful : c.Lawful) (hh : HomeAtRoot environment)
    (h : Validates c environment values s) (environment' : Environment) :
    Validates c environment' s.values s where
  prompt := lawful.text s.prompt
  commentMark := by
    have hvalid := h.valid
    obtain ⟨prompt, commentMark, strict, ignore, file, length⟩ := s
    cases commentMark with
    | none => rfl
    | some mark => exact toMark_of_isMark lawful (isMark_iff.mpr (hvalid mark rfl))
  strictRedirection := lawful.bool s.strictRedirection
  ignoreInterrupts := lawful.bool s.ignoreInterrupts
  historyFile := by
    have hfile := h.historyFile
    obtain ⟨prompt, commentMark, strict, ignore, file, length⟩ := s
    cases file with
    | none => rfl
    | some file =>
      obtain ⟨path, hp⟩ := expand_of_toHistoryFile hfile
      exact toPath_again lawful hh hp environment'
  historyLength := toLength_ofNat lawful s.historyLength
  known := by simp [Settings.values, names]

/-- Accepted values make settings whose values are accepted and make the same settings. -/
theorem validate_again (lawful : c.Lawful) (hh : HomeAtRoot environment) :
    (∀ values s, validate c environment values = .ok s →
      ∀ environment', validate c environment' s.values = .ok s) ∧
    (∀ b, c.toBool (.bool b) = .ok b) ∧ (∀ n : Nat, toLength c (.int n) = .ok n) ∧
    (∀ v mark, toMark c v = .ok (some mark) → toMark c (.text mark) = .ok (some mark)) ∧
    ∀ v file, toPath c environment v = .ok (.ok (some file)) →
      ∀ environment', toPath c environment' (.text file) = .ok (.ok (some file)) := by
  refine ⟨?_, lawful.bool, toLength_ofNat lawful, ?_, ?_⟩
  · intro values s h environment'
    exact validate_eq_ok_iff.mpr ((validate_eq_ok_iff.mp h).again lawful hh environment')
  · intro v mark h
    exact toMark_of_isMark lawful (isMark_of_toMark h)
  · intro v file h environment'
    obtain ⟨path, hp⟩ := expand_of_toPath h
    exact toPath_again lawful hh hp environment'

/-- A home directory with slashes at its end, and one that is not at the start of a path. -/
theorem validate_again_home :
    let home : Environment := .ofVariables [("HOME", "/home/me//")]
    let none : Environment := .ofVariables []
    let settings : Settings := ⟨"$ ", some "#", false, true, some "/home/me/h", 7⟩
    HomeAtRoot home ∧
      validate .lax home
        [("history_file", .text "./~//h/"), ("strict_redirection", .text "Off"),
          ("history_length", .text " +0_7.0")] = .ok settings ∧
      validate .lax none settings.values = .ok settings := by
  intro home none settings
  have hhome : HomeAtRoot home := by
    refine ⟨?_, ?_⟩
    · intro directory h
      cases h
      decide
    · intro a ha
      cases ha
  have hvalid : validate .lax home
      [("history_file", .text "./~//h/"), ("strict_redirection", .text "Off"),
        ("history_length", .text " +0_7.0")] = .ok settings := rfl
  exact ⟨hhome, hvalid, (validate_again Coercions.lawful_lax hhome).1 _ _ hvalid none⟩

end LineShell.Settings
