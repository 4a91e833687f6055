import LineShell.Proofs.Files.ReadBack

namespace LineShell.Files

/-- Every entry stands in a directory, up to the root. -/
structure Tree.Rooted (t : Tree) : Prop where
  root : t.get? [] = some .directory
  here : t.get? t.here = some .directory
  above : ∀ name place, t.get? (name :: place) ≠ none → t.get? place = some .directory

def Descent.Inside (t : Tree) : Descent → Prop
  | .found (.vacant p) => ∃ name directory, p = name :: directory ∧
      t.get? directory = some .directory
  | .link directory _ _ => t.get? directory = some .directory
  | _ => True

namespace Tree

variable {t : Tree} {purpose : Purpose} {directory p : Place} {names : List String} {f : Found}
  {links mode : Nat} {path : String} {content bytes : List UInt8}

theorem Rooted.tail (h : t.Rooted) (hd : t.get? directory = some .directory) :
    t.get? directory.tail = some .directory := by
  cases directory with
  | nil => exact h.root
  | cons name place => exact h.above name place (by simp [hd])

theorem Rooted.descend_inside (h : t.Rooted) (hd : t.get? directory = some .directory)
    (purpose : Purpose) (names : List String) :
    (t.descend purpose directory names).Inside t := by
  fun_induction t.descend purpose directory names with
  | case1 => trivial
  | case2 _ _ _ _ ih => exact ih hd
  | case4 _ _ _ _ ih => exact ih (h.tail hd)
  | case7 directory name => exact ⟨name, directory, rfl, hd⟩
  | case9 _ _ _ _ _ _ _ _ _ stands ih => exact ih stands
  | case10 => exact hd
  | case3 | case5 | case6 | case8 | case11 | case12 => trivial

theorem Rooted.walks_inside (h : t.Rooted) (hw : Walks t purpose f links directory names)
    (hd : t.get? directory = some .directory) : (Descent.found f).Inside t := by
  induction hw with
  | @found _ directory names hdesc =>
    have hi := h.descend_inside hd purpose names
    rwa [hdesc] at hi
  | @link _ directory place target names rest hdesc _ _ ih =>
    have hi := h.descend_inside hd purpose names
    rw [hdesc] at hi
    apply ih
    split
    · exact h.root
    · exact hi

theorem Rooted.locate_inside (h : t.Rooted) (hl : t.locate purpose path = .ok f) :
    (Descent.found f).Inside t := by
  obtain ⟨-, -, hw⟩ := locate_eq_ok_iff.mp hl
  refine h.walks_inside (walk_eq_ok_iff.mp hw) ?_
  split
  · exact h.root
  · exact h.here

/-- What stands where a regular file is opened: that file, or nothing yet in a directory. -/
inductive Standing (t : Tree) (p : Place) (mode : Nat) (content : List UInt8) : Prop where
  | file (stands : t.get? p = some (.file mode content))
  | vacant (free : t.get? p = none) (created : mode = newFileMode ∧ content = [])
      (inside : t.Rooted → ∃ name directory, p = name :: directory ∧
        t.get? directory = some .directory)

theorem standing_of_target (h : t.target path = .ok (.file p mode content)) :
    t.Standing p mode content := by
  unfold target at h
  split at h
  · cases h
  split at h <;> cases h
  · rename_i hl
    exact .vacant (locate_stands hl) ⟨rfl, rfl⟩ fun hr => hr.locate_inside hl
  · rename_i hl
    rcases locate_stands hl with hd | hs
    · cases hd
    · exact .file hs

theorem Standing.not_directory (h : t.Standing p mode content) : t.get? p ≠ some .directory := by
  cases h with
  | file stands => simp [stands]
  | vacant free => simp [free]

theorem Standing.inside (h : t.Standing p mode content) (hr : t.Rooted) :
    ∃ name directory, p = name :: directory ∧ t.get? directory = some .directory := by
  cases h with
  | file stands =>
    cases p with
    | nil => cases stands.symm.trans hr.root
    | cons name directory => exact ⟨name, directory, rfl, hr.above name _ (by simp [stands])⟩
  | vacant _ _ inside => exact inside hr

/-- Where no directory is, anything may be put into one. -/
theorem Rooted.set (h : t.Rooted) {name : String}
    (hp : t.get? (name :: directory) ≠ some .directory)
    (hd : t.get? directory = some .directory) (n : Node) :
    (t.set (name :: directory) n).Rooted := by
  have hkept : ∀ q, t.get? q = some .directory →
      (t.set (name :: directory) n).get? q = some .directory := by
    intro q hq
    have hne : q ≠ name :: directory := by
      rintro rfl
      exact hp hq
    rw [get?_set_of_ne t _ hne, hq]
  refine ⟨hkept _ h.root, hkept _ h.here, ?_⟩
  intro other place hn
  apply hkept
  by_cases he : other :: place = name :: directory
  · cases he
    exact hd
  · rw [get?_set_of_ne t _ he] at hn
    exact h.above other place hn

theorem rooted_standard : standard.Rooted := by
  have hall : ∀ e ∈ standard.entries, e.1 ≠ [] → standard.get? e.1.tail = some .directory := by
    decide
  refine ⟨rfl, rfl, ?_⟩
  intro name place hn
  obtain ⟨n, hl⟩ := Option.ne_none_iff_exists'.mp hn
  obtain ⟨before, after, he, -⟩ := List.lookup_eq_some_iff.mp hl
  have hm : (name :: place, n) ∈ standard.entries := by simp [he]
  exact hall _ hm (List.cons_ne_nil _ _)

end Tree

/-- A tree after a line that started no program: as it was, or with the regular file written that
the target leads to. -/
inductive Framed (target : Option String) (before : Tree) : Tree → Prop where
  | untouched : Framed target before before
  | written {path : String} {place : Place} {mode : Nat} {content : List UInt8}
      (named : target = some path) (opened : before.target path = .ok (.file place mode content))
      (bytes : List UInt8) : Framed target before (before.set place (.file mode bytes))

namespace Framed

variable {target : Option String} {before after : Tree} {place place' : Place}

theorem of_write {path : String} {bytes : List UInt8}
    (h : before.write path bytes = .ok after) : Framed (some path) before after := by
  unfold Tree.write at h
  split at h
  · cases h
  · cases h
    exact .written rfl (by assumption) bytes
  · cases h
    exact .untouched
  · split at h <;> cases h
    exact .untouched

theorem changed (h : Framed target before after) (hc : after.get? place ≠ before.get? place) :
    ∃ path mode content bytes, target = some path ∧
      before.target path = .ok (.file place mode content) ∧
      before.Standing place mode content ∧ after.get? place = some (.file mode bytes) := by
  cases h with
  | untouched => exact absurd rfl hc
  | @written path q mode content named opened bytes =>
    have hq : place = q := Decidable.not_not.mp fun hne => hc (Tree.get?_set_of_ne _ _ hne)
    subst hq
    exact ⟨path, mode, content, bytes, named, opened, Tree.standing_of_target opened,
      Tree.get?_set_self ..⟩

theorem changed_unique (h : Framed target before after)
    (hc : after.get? place ≠ before.get? place) (hc' : after.get? place' ≠ before.get? place') :
    place = place' := by
  obtain ⟨path, _, _, _, ht, ho, -⟩ := h.changed hc
  obtain ⟨path', _, _, _, ht', ho', -⟩ := h.changed hc'
  cases ht.symm.trans ht'
  cases ho.symm.trans ho'
  rfl

theorem here_eq (h : Framed target before after) : after.here = before.here := by
  cases h with
  | untouched => rfl
  | written => exact Tree.here_set ..

theorem rooted (h : Framed target before after) (hr : before.Rooted) : after.Rooted := by
  cases h with
  | untouched => exact hr
  | written _ opened bytes =>
    have hs := Tree.standing_of_target opened
    obtain ⟨name, directory, rfl, hd⟩ := hs.inside hr
    exact hr.set hs.not_directory hd _

theorem eq_of_none (h : Framed none before after) : after = before := by
  cases h with
  | untouched => rfl
  | written named => cases named

theorem eq_of_refused {path : String} {cause : Cause} (h : Framed (some path) before after)
    (hr : before.target path = .error cause) : after = before := by
  cases h with
  | untouched => rfl
  | written named opened =>
    cases named
    cases opened.symm.trans hr

end Framed

end LineShell.Files
