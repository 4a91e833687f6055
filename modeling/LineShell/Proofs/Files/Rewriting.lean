import LineShell.Files.Entry
import LineShell.Proofs.Files.Written

namespace LineShell.Files.Tree

variable {t : Tree} {path other : String} {p q : Place} {mode : Nat} {content : List UInt8}

/-- What is put at a place last is what stands there. -/
theorem set_set (t : Tree) (p : Place) (a b : Node) : (t.set p a).set p b = t.set p b := by
  simp [set, List.filter_filter]

def Target.place? : Target → Option Place
  | .file place _ _ => some place
  | .device _ => none

/-- A target depends on what the path name leads to, and on nothing else in the tree. -/
theorem target_of_locate {x : Target} (h : t.target path = .ok x) :
    hasNull path = false ∧ ∃ f, t.locate .create path = .ok f ∧
      (f.IsFile p → x.place? = some p) ∧
      ∀ t' : Tree, t'.locate .create path = .ok f → t'.target path = .ok x := by
  have hnull : hasNull path = false := by
    rw [← Bool.not_eq_true]
    intro hn
    simp [target, hn] at h
  refine ⟨hnull, ?_⟩
  cases hl : t.locate .create path with
  | error fault => simp [target, hnull, hl] at h
  | ok f =>
    refine ⟨f, rfl, ?_, ?_⟩
    · rintro (rfl | ⟨mode, content, rfl⟩)
      all_goals
        simp only [target, hnull, hl, Bool.false_eq_true, if_false] at h
        cases h
        rfl
    · intro t' hl'
      rw [← h, target, target, hl, hl']

theorem target_set {x : Target} (ho : t.target other = .ok (.file p mode content))
    (h : t.target path = .ok x) (mode' : Nat) (bytes : List UInt8) :
    ∃ y, (t.set p (.file mode' bytes)).target path = .ok y ∧ y.place? = x.place? := by
  obtain ⟨-, f, hl, hf⟩ := target_eq_file ho
  obtain ⟨hnull, g, hg, hplace, hsame⟩ := target_of_locate (p := p) h
  by_cases hfile : g.IsFile p
  · have hset : (t.set p (.file mode' bytes)).locate .create path =
        .ok (.node p (.file mode' bytes)) := locate_set hfile hg
    exact ⟨.file p mode' bytes, by simp [target, hnull, hset], (hplace hfile).symm⟩
  · exact ⟨x, hsame _ (locate_set_other hf (locate_stands hl) hfile hg), rfl⟩

theorem entry_eq_ok_iff :
    t.entry path = .ok q ↔ ∃ name directory, (Path.components path).getLast? = some name ∧
      (name ≠ "." ∧ name ≠ "..") ∧ name.utf8ByteSize ≤ maxNameLength ∧
      t.locate .look (directoryOf path) = .ok (.node directory .directory) ∧
      t.barred.lookup directory = none ∧ q = name :: directory := by
  unfold entry
  cases (Path.components path).getLast? with
  | none => simp
  | some name =>
    by_cases hstays : name = "." ∨ name = ".."
    · rcases hstays with rfl | rfl <;> simp
    by_cases hlong : name.utf8ByteSize > maxNameLength
    · have hsize : ¬ name.utf8ByteSize ≤ maxNameLength := Nat.not_le.mpr hlong
      simp [hstays, hlong, hsize]
    rw [not_or] at hstays
    cases t.locate .look (directoryOf path) with
    | error fault => simp [hstays, hlong]
    | ok f =>
      cases f with
      | vacant place => simp [hstays, hlong]
      | node place n =>
        cases n with
        | directory =>
          have hsize : name.utf8ByteSize ≤ maxNameLength := Nat.not_lt.mp hlong
          cases hb : t.barred.lookup place with
          | some fault => simp [hstays, hlong, hb, -List.lookup_eq_none_iff]
          | none => simp [hstays, hlong, hsize, hb, @eq_comm _ q, -List.lookup_eq_none_iff]
        | _ => simp [hstays, hlong]

theorem entry_set (ho : t.target other = .ok (.file p mode content)) (h : t.entry path = .ok q)
    (mode' : Nat) (bytes : List UInt8) : (t.set p (.file mode' bytes)).entry path = .ok q := by
  obtain ⟨-, f, hl, hf⟩ := target_eq_file ho
  obtain ⟨name, directory, hlast, hstays, hsize, hd, hopen, rfl⟩ := entry_eq_ok_iff.mp h
  have hdirectory : ¬ (Found.node directory .directory).IsFile p := by
    simp [Found.IsFile]
  exact entry_eq_ok_iff.mpr ⟨name, directory, hlast, hstays, hsize,
    locate_set_other hf (locate_stands hl) hdirectory hd, hopen, rfl⟩

theorem linkTarget?_set (ho : t.target other = .ok (.file p mode content))
    (h : t.entry path = .ok q) (mode' : Nat) (bytes : List UInt8) :
    (t.set p (.file mode' bytes)).linkTarget? path = t.linkTarget? path := by
  rw [linkTarget?, linkTarget?, h, entry_set ho h]
  dsimp only
  by_cases hq : q = p
  · subst hq
    rw [get?_set_self]
    cases standing_of_target ho with
    | file stands => rw [stands]
    | vacant free => rw [free]
  · rw [get?_set_of_ne t _ hq]

end LineShell.Files.Tree
