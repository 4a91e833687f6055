import LineShell.Proofs.Files.NormalForm
import LineShell.Proofs.Files.ReadBack

namespace LineShell.Files

variable {purpose : Purpose} {l l' : List String} {name path : String}

/-- A component at which a walk stays where it is. -/
def Stays (name : String) : Prop := name = "" ∨ name = "."

instance (name : String) : Decidable (Stays name) :=
  inferInstanceAs (Decidable (name = "" ∨ name = "."))

/-- Two rests of a walk that agree on what ends it. -/
structure SameEnd (purpose : Purpose) (l l' : List String) : Prop where
  done : l = [] ↔ l' = []
  slash : purpose = .create → (l = [""] ↔ l' = [""])

/-- Two lists of components that lead the same way. -/
inductive SameWay (purpose : Purpose) : List String → List String → Prop where
  | nil : SameWay purpose [] []
  | left {name : String} {l l' : List String} (stays : Stays name)
      (onward : SameWay purpose l l') : SameWay purpose (name :: l) l'
  | right {name : String} {l l' : List String} (stays : Stays name)
      (onward : SameWay purpose l l') : SameWay purpose l (name :: l')
  | both {name : String} {l l' : List String} (rests : name = ".." ∨ SameEnd purpose l l')
      (onward : SameWay purpose l l') : SameWay purpose (name :: l) (name :: l')

theorem SameEnd.refl (purpose : Purpose) (l : List String) : SameEnd purpose l l :=
  ⟨Iff.rfl, fun _ => Iff.rfl⟩

theorem SameEnd.isEmpty_eq (h : SameEnd purpose l l') : l.isEmpty = l'.isEmpty := by
  rw [Bool.eq_iff_iff, List.isEmpty_iff, List.isEmpty_iff]
  exact h.done

theorem SameEnd.cons (h : SameEnd purpose l l') (name : String) :
    SameEnd purpose (name :: l) (name :: l') := by
  refine ⟨by simp, fun _ => ?_⟩
  simp [h.done]

theorem SameEnd.append_left (h : SameEnd purpose l l') (before : List String) :
    SameEnd purpose (before ++ l) (before ++ l') := by
  induction before with
  | nil => exact h
  | cons name before ih => exact ih.cons name

theorem SameWay.append_left (h : SameWay purpose l l') (hend : SameEnd purpose l l')
    (before : List String) : SameWay purpose (before ++ l) (before ++ l') := by
  induction before with
  | nil => exact h
  | cons name before ih => exact .both (.inr (hend.append_left before)) ih

theorem SameWay.refl (purpose : Purpose) (l : List String) : SameWay purpose l l := by
  induction l with
  | nil => exact .nil
  | cons name l ih => exact .both (.inr (.refl purpose l)) ih

/-- Past a link too, rests that lead the same way still do. -/
theorem SameWay.past_link (h : SameWay purpose l l') (hend : SameEnd purpose l l')
    (target : String) :
    SameWay purpose (if l.isEmpty then steps target else Path.components target ++ l)
      (if l'.isEmpty then steps target else Path.components target ++ l') := by
  rw [hend.isEmpty_eq]
  split
  · exact .refl purpose _
  · exact h.append_left hend _

inductive Descent.Same (purpose : Purpose) : Descent → Descent → Prop where
  | found (f : Found) : Same purpose (.found f) (.found f)
  | refused (fault : Fault) : Same purpose (.refused fault) (.refused fault)
  | link {directory : Place} {target : String} {rest rest' : List String}
      (onward : SameWay purpose rest rest') (rests : SameEnd purpose rest rest') :
      Same purpose (.link directory target rest) (.link directory target rest')

/-- Components that name an entry and then only stay there, as those of `out/` and `out/.` do.
Without the last ones the entry need not be a directory. -/
inductive LosesEnd : List String → Prop where
  | here {name : String} {rest : List String} (entry : ¬ Stays name ∧ name ≠ "..")
      (more : rest ≠ []) (stays : ∀ n ∈ rest, Stays n) : LosesEnd (name :: rest)
  | later {name : String} {rest : List String} (onward : LosesEnd rest) :
      LosesEnd (name :: rest)

/-- After an entry, leaving out what stays leaves something, unless the end is lost. -/
theorem sameEnd_filter (purpose : Purpose) (entry : ¬ Stays name ∧ name ≠ "..")
    (h : ¬ LosesEnd (name :: l)) : SameEnd purpose l (l.filter fun n => ¬ Stays n) := by
  have hmore : l ≠ [] → ¬ ∀ n ∈ l, Stays n := fun hl hall => h (.here entry hl hall)
  refine ⟨?_, fun _ => ⟨?_, ?_⟩⟩
  · rw [List.filter_eq_nil_iff]
    constructor
    · rintro rfl
      exact nofun
    · intro hall
      by_cases hl : l = []
      · exact hl
      · exact absurd (by simpa using hall) (hmore hl)
  · rintro rfl
    refine absurd ?_ (hmore (List.cons_ne_nil _ _))
    intro n hn
    exact .inl (List.mem_singleton.mp hn)
  · intro he
    have hm : "" ∈ l.filter fun n => ¬ Stays n := he ▸ List.mem_singleton_self ""
    have hs : ¬ Stays "" := by simpa using (List.mem_filter.mp hm).2
    exact absurd (.inl rfl) hs

/-- Components without those that stay lead the same way, unless the end is lost with them. -/
theorem sameWay_filter (purpose : Purpose) (h : ¬ LosesEnd l) :
    SameWay purpose l (l.filter fun n => ¬ Stays n) := by
  induction l with
  | nil => exact .nil
  | cons name l ih =>
    have onward := ih fun hl => h (.later hl)
    by_cases hs : Stays name
    · rw [List.filter_cons_of_neg (by simpa using hs)]
      exact .left hs onward
    · rw [List.filter_cons_of_pos (by simpa using hs)]
      refine .both ?_ onward
      by_cases hup : name = ".."
      · exact .inl hup
      · exact .inr (sameEnd_filter purpose ⟨hs, hup⟩ h)

theorem LosesEnd.exists_last (h : LosesEnd l) :
    ∃ before last, l = before ++ [last] ∧ Stays last := by
  induction h with
  | @here name rest _ more stays =>
    refine ⟨name :: rest.dropLast, rest.getLast more, ?_, stays _ (List.getLast_mem more)⟩
    rw [List.cons_append, List.dropLast_concat_getLast]
  | @later name rest _ ih =>
    obtain ⟨before, last, rfl, hs⟩ := ih
    exact ⟨name :: before, last, rfl, hs⟩

namespace Tree

variable {t : Tree} {directory : Place} {links : Nat} {f : Found}

/-- Descents along the same way get equally far. -/
theorem descend_same (t : Tree) (directory : Place) (h : SameWay purpose l l') :
    (t.descend purpose directory l).Same purpose (t.descend purpose directory l') := by
  induction h generalizing directory with
  | nil => exact .found _
  | @left name l l' stays _ ih =>
    have hs : name = "" ∨ name = "." := stays
    rw [descend, if_pos hs]
    exact ih directory
  | @right name l l' stays _ ih =>
    have hs : name = "" ∨ name = "." := stays
    rw [descend.eq_2, if_pos hs]
    exact ih directory
  | @both name l l' rests onward ih =>
    rw [descend, descend]
    split
    · exact ih directory
    cases t.barred.lookup directory with
    | some fault => exact .refused fault
    | none =>
      dsimp only
      split
      · exact ih directory.tail
      have hend := rests.resolve_left (by assumption)
      simp only [hend.isEmpty_eq, and_congr_right hend.slash]
      split
      · exact .refused _
      split
      · exact .refused _
      cases t.get? (name :: directory) with
      | none =>
        dsimp only
        split
        · exact .found _
        · exact .refused _
      | some node =>
        cases node with
        | directory => exact ih _
        | link target => exact .link onward hend
        | file | device | interpreter =>
          dsimp only
          split
          · exact .found _
          · exact .refused _

/-- Walks that lead the same way end alike. -/
theorem walk_same (t : Tree) (links : Nat) (directory : Place) (h : SameWay purpose l l') :
    t.walk purpose links directory l = t.walk purpose links directory l' := by
  induction links generalizing directory l l' with
  | zero =>
    have hd := descend_same t directory h
    rw [walk, walk]
    generalize t.descend purpose directory l = d at hd ⊢
    generalize t.descend purpose directory l' = d' at hd ⊢
    cases hd with
    | found | refused | link => rfl
  | succ n ih =>
    have hd := descend_same t directory h
    rw [walk, walk]
    generalize t.descend purpose directory l = d at hd ⊢
    generalize t.descend purpose directory l' = d' at hd ⊢
    cases hd with
    | found | refused => rfl
    | @link place target rest rest' onward rests =>
      dsimp only
      split
      · rfl
      · exact ih _ (onward.past_link rests target)

/-- What ends in a component that stays leads to a directory. -/
theorem directory_of_stays_last {before : List String} {last : String} (hs : Stays last)
    (h : t.walk purpose links directory (before ++ [last]) = .ok f) :
    ∃ p, f = .node p .directory := by
  have hlook : t.walk .look links directory (before ++ [last]) = .ok f := by
    cases purpose with
    | look => exact h
    | create => exact walk_look h
  -- one that only looks does not tell the component from a slash at the end
  have hend : SameEnd .look [last] [""] := ⟨by simp, nofun⟩
  have hway : SameWay .look [last] [""] := .left hs (.right (.inl rfl) .nil)
  rw [walk_same t links directory (hway.append_left hend before)] at hlook
  exact (walk_eq_ok_iff.mp hlook).isDirectory (asksDirectory_append (by simp) rfl)

end Tree

theorem filter_steps (path : String) :
    (steps path).filter (fun n => ¬ Stays n) = Path.names path := by
  have hf : (Path.components path).filter (fun n => ¬ Stays n) = Path.names path := by
    refine List.filter_congr ?_
    intro n hn
    have hne := (Path.isComponent_of_mem_components hn).1
    simp [Stays, hne]
  unfold steps
  dsimp only
  split
  · rw [List.filter_append, hf]
    exact List.append_nil _
  · exact hf

theorem sameWay_normal (purpose : Purpose) (h : ¬ LosesEnd (steps path)) :
    SameWay purpose (steps path) (steps (Path.normal path)) := by
  have hway := sameWay_filter purpose h
  rw [filter_steps] at hway
  rw [Path.steps_normal, Path.components_normal]
  split
  · rename_i hempty
    rw [hempty.2] at hway
    exact .right (.inr rfl) hway
  · exact hway

namespace Tree

variable {t : Tree}

theorem locate_normal (t : Tree) (purpose : Purpose) (hne : path ≠ "")
    (hlen : path.utf8ByteSize ≤ maxPathLength) (h : ¬ LosesEnd (steps path)) :
    t.locate purpose (Path.normal path) = t.locate purpose path := by
  have hshort := Nat.le_trans (Path.utf8ByteSize_normal_le hne) hlen
  unfold locate
  rw [if_neg (Path.normal_ne_empty path), if_neg (Nat.not_lt.mpr hshort), if_neg hne,
    if_neg (Nat.not_lt.mpr hlen), Path.isAbsolute_normal]
  exact (walk_same t maxLinks _ (sameWay_normal purpose h)).symm

end Tree

end LineShell.Files

namespace LineShell

def Cause.naming (file : String) : Cause → Cause
  | .system number words (some _) => .system number words (some file)
  | c => c

end LineShell

namespace LineShell.Files.Tree

variable {t : Tree} {path : String}

theorem target_normal (t : Tree) (hne : path ≠ "") (hlen : path.utf8ByteSize ≤ maxPathLength)
    (h : ¬ LosesEnd (steps path)) :
    t.target (Path.normal path) =
      (t.target path).mapError (Cause.naming (Path.normal path)) := by
  unfold target
  rw [Path.hasNull_normal, locate_normal t .create hne hlen h]
  split
  · rfl
  · split <;> rfl

theorem write_normal (t : Tree) (hne : path ≠ "") (hlen : path.utf8ByteSize ≤ maxPathLength)
    (h : ¬ LosesEnd (steps path)) (bytes : List UInt8) :
    t.write (Path.normal path) bytes =
      (t.write path bytes).mapError (Cause.naming (Path.normal path)) := by
  unfold write
  rw [target_normal t hne hlen h]
  cases t.target path with
  | error cause => rfl
  | ok target =>
    cases target with
    | file place mode content => rfl
    | device kind =>
      cases kind with
      | null => rfl
      | full =>
        dsimp only [Except.mapError]
        split <;> rfl

/-- A path name that loses its end never opens for writing. -/
theorem target_of_losesEnd (t : Tree) (h : LosesEnd (steps path)) :
    ∃ cause, t.target path = .error cause := by
  obtain ⟨before, last, hsteps, hs⟩ := h.exists_last
  have hdirectory : ∀ f, t.locate .create path = .ok f → ∃ p, f = .node p .directory := by
    intro f hl
    have hw := (locate_eq_ok_iff.mp hl).2.2
    rw [hsteps] at hw
    exact directory_of_stays_last hs hw
  unfold target
  split
  · exact ⟨_, rfl⟩
  cases hl : t.locate .create path with
  | error fault => exact ⟨_, rfl⟩
  | ok f =>
    obtain ⟨p, rfl⟩ := hdirectory f hl
    exact ⟨_, rfl⟩

theorem write_of_losesEnd (t : Tree) (h : LosesEnd (steps path)) (bytes : List UInt8) :
    ∃ cause, t.write path bytes = .error cause := by
  obtain ⟨cause, hc⟩ := target_of_losesEnd t h
  exact ⟨cause, by rw [write, hc]⟩

end LineShell.Files.Tree
