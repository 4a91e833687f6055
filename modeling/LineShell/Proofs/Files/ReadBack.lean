import LineShell.Files.Access
import LineShell.Proofs.Files.Walk

namespace LineShell.Files.Tree

variable {t : Tree} {path : String} {purpose : Purpose} {f : Found} {p : Place}

theorem locate_eq_ok_iff :
    t.locate purpose path = .ok f ↔ path ≠ "" ∧ path.utf8ByteSize ≤ maxPathLength ∧
      t.walk purpose maxLinks (if Path.isAbsolute path then [] else t.here) (steps path) =
        .ok f := by
  unfold locate
  by_cases hempty : path = ""
  · simp [hempty]
  · by_cases hlong : path.utf8ByteSize > maxPathLength
    · simp [hempty, hlong, Nat.not_le.mpr hlong]
    · simp [hempty, hlong, Nat.not_lt.mp hlong]

theorem locate_set {mode : Nat} {content : List UInt8} (hf : f.IsFile p)
    (h : t.locate purpose path = .ok f) :
    (t.set p (.file mode content)).locate purpose path = .ok (.node p (.file mode content)) := by
  rw [locate_eq_ok_iff] at h ⊢
  exact ⟨h.1, h.2.1, walk_set hf h.2.2⟩

theorem locate_set_other {f' : Found} {mode : Nat} {content : List UInt8}
    (hf : f.IsFile p) (hs : f.Stands t) (ho : ¬ f'.IsFile p)
    (h : t.locate purpose path = .ok f') :
    (t.set p (.file mode content)).locate purpose path = .ok f' := by
  rw [locate_eq_ok_iff] at h ⊢
  exact ⟨h.1, h.2.1, walk_set_other hf hs ho h.2.2⟩

theorem locate_stands (h : t.locate purpose path = .ok f) : f.Stands t := by
  obtain ⟨-, -, hw⟩ := locate_eq_ok_iff.mp h
  exact (walk_eq_ok_iff.mp hw).stands

theorem locate_look (h : t.locate .create path = .ok f) : t.locate .look path = .ok f := by
  rw [locate_eq_ok_iff] at h ⊢
  exact ⟨h.1, h.2.1, walk_look h.2.2⟩

theorem locate_create (hf : ∀ q, f ≠ .node q .directory) (h : t.locate .look path = .ok f) :
    t.locate .create path = .ok f := by
  rw [locate_eq_ok_iff] at h ⊢
  exact ⟨h.1, h.2.1, walk_create hf h.2.2⟩

/-- Whether a path name opens for writing as a regular file, one that is there or is created. -/
def OpensFile (t : Tree) (path : String) : Prop :=
  ∃ place mode content, t.target path = .ok (.file place mode content)

/-- What opening a regular file for writing comes from. -/
theorem target_eq_file {mode : Nat} {content : List UInt8}
    (h : t.target path = .ok (.file p mode content)) :
    hasNull path = false ∧ ∃ f, t.locate .create path = .ok f ∧ f.IsFile p := by
  unfold target at h
  split at h
  · cases h
  · refine ⟨by simpa using ‹¬ hasNull path = true›, ?_⟩
    split at h <;> cases h
    · exact ⟨_, by assumption, .inl rfl⟩
    · exact ⟨_, by assumption, .inr ⟨_, _, rfl⟩⟩

/-- A file that has been written holds what was written. -/
theorem read_set {mode mode' : Nat} {content : List UInt8}
    (h : t.target path = .ok (.file p mode content)) (bytes : List UInt8) :
    (t.set p (.file mode' bytes)).read path = .ok bytes := by
  obtain ⟨hnull, f, hl, hf⟩ := target_eq_file h
  have hset : (t.set p (.file mode' bytes)).locate .look path =
      .ok (.node p (.file mode' bytes)) := locate_set hf (locate_look hl)
  simp [read, hnull, hset]

/-- What is no regular file is not changed by writing to it. -/
theorem write_of_not_opensFile (h : ¬ t.OpensFile path) (bytes : List UInt8) :
    t.write path bytes = .ok t ∨ ∃ cause, t.write path bytes = .error cause := by
  unfold write
  cases ht : t.target path with
  | error cause => exact .inr ⟨cause, rfl⟩
  | ok target =>
    cases target with
    | file place mode content => exact absurd ⟨place, mode, content, ht⟩ h
    | device kind =>
      cases kind with
      | null => exact .inl rfl
      | full =>
        dsimp only
        split
        · exact .inl rfl
        · exact .inr ⟨_, rfl⟩

/-- Bytes are read from regular files; a special file that can be read is empty. -/
theorem opensFile_of_read {bytes : List UInt8} (h : t.read path = .ok bytes) :
    bytes = [] ∨ t.OpensFile path := by
  unfold read at h
  split at h
  · cases h
  · have hnull : hasNull path = false := by simpa using ‹¬ hasNull path = true›
    split at h <;> cases h
    · rename_i q mode hl
      have hc := locate_create (by simp) hl
      exact .inr ⟨q, mode, bytes, by simp [target, hnull, hc]⟩
    · exact .inl rfl

/-- Bytes are read from a node, and they are read wherever a path name leads to this node. -/
theorem exists_node_of_read {bytes : List UInt8} (h : t.read path = .ok bytes) :
    hasNull path = false ∧ ∃ q n, n ≠ .directory ∧ t.locate .look path = .ok (.node q n) ∧
      ∀ t' : Tree, t'.locate .look path = .ok (.node q n) → t'.read path = .ok bytes := by
  have hnull : hasNull path = false := by
    rw [← Bool.not_eq_true]
    intro hn
    simp [read, hn] at h
  refine ⟨hnull, ?_⟩
  cases hl : t.locate .look path with
  | error fault => simp [read, hnull, hl] at h
  | ok f =>
    cases f with
    | vacant q => simp [read, hnull, hl] at h
    | node q n =>
      refine ⟨q, n, ?_, rfl, ?_⟩
      · rintro rfl
        simp [read, hnull, hl] at h
      · intro t' hl'
        rw [← h, read, read, hl, hl']

/-- What stands at a place where a file is found is this file. -/
theorem isFile_of_stands {n : Node} (hf : f.IsFile p) (hs : f.Stands t)
    (hn : t.get? p = some n) : (Found.node p n).IsFile p := by
  rcases hf with rfl | ⟨mode, content, rfl⟩
  · have hfree : t.get? p = none := hs
    cases hfree.symm.trans hn
  · have hthere : t.get? p = some (.file mode content) := hs.resolve_left (by simp)
    cases hthere.symm.trans hn
    exact .inr ⟨mode, content, rfl⟩

/-- After a file has been written, a path name is read as before, or it leads to this file. -/
theorem read_set_cases {path' : String} {mode : Nat} {content before : List UInt8}
    (ht : t.target path' = .ok (.file p mode content)) (h : t.read path = .ok before)
    (bytes : List UInt8) :
    (t.set p (.file mode bytes)).read path = .ok before ∨
      (t.set p (.file mode bytes)).read path = .ok bytes := by
  obtain ⟨-, f, hl', hf⟩ := target_eq_file ht
  have hs : f.Stands t := locate_stands hl'
  obtain ⟨hnull, q, n, hn, hl, hread⟩ := exists_node_of_read h
  -- what is read is the file that was written, or it is not touched
  by_cases hq : q = p
  · subst hq
    have hstands : t.get? q = some n := (locate_stands hl).resolve_left hn
    have hset : (t.set q (.file mode bytes)).locate .look path =
        .ok (.node q (.file mode bytes)) := locate_set (isFile_of_stands hf hs hstands) hl
    right
    simp [read, hnull, hset]
  · exact .inl (hread _ (locate_set_other hf hs (Found.not_isFile_node hq n) hl))

end LineShell.Files.Tree
