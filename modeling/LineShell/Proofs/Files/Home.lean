import LineShell.Files.Home
import LineShell.Proofs.Files.NormalForm
import Mathlib.Data.List.DropRight

namespace LineShell.Files.Path

variable {environment : Environment} {path file component directory : String}

/-- The first name of a path name stands for a home directory. -/
def StartsAtHome (path : String) : Prop :=
  root path = "" ∧ ∃ first rest, names path = first :: rest ∧ first.toList.head? = some '~'

/-- All home directories of the environment start at the root. -/
structure HomeAtRoot (environment : Environment) : Prop where
  home : ∀ directory, environment.home? = some directory → isAbsolute directory = true
  accounts : ∀ a ∈ environment.accounts, isAbsolute a.2 = true

/-- A path name in which nothing is left to put in or to make shorter. -/
structure Settled (path : String) : Prop where
  not_home : ¬ StartsAtHome path
  normal : normal path = path

theorem startsAtHome_normal : StartsAtHome (normal path) ↔ StartsAtHome path := by
  have hroot : root (normal path) = root path := congrArg Parts.root (ofPath_normal path)
  rw [StartsAtHome, StartsAtHome, hroot, names_normal]

theorem settled_normal (h : ¬ StartsAtHome path) : Settled (normal path) :=
  ⟨mt startsAtHome_normal.mp h, normal_normal path⟩

theorem expandHome_of_not_startsAtHome (h : ¬ StartsAtHome path) :
    expandHome environment path = .ok (normal path) := by
  unfold expandHome
  dsimp only
  split
  · rename_i first rest hroot hnames
    split
    · exact absurd ⟨hroot, first, rest, hnames, by assumption⟩ h
    · rfl
  · rfl

theorem known_eq_ok_iff {directory? : Option String} :
    known directory? = .ok directory ↔ directory? = some directory := by
  cases directory? <;> simp [known]

theorem isAbsolute_home (hh : HomeAtRoot environment)
    (h : home environment component = .ok directory) : isAbsolute directory = true := by
  have hdirectory : environment.home? = some directory ∨
      environment.accounts.lookup (String.ofList (component.toList.drop 1)) = some directory := by
    unfold home at h
    split at h
    · exact .inl (known_eq_ok_iff.mp h)
    · split at h
      · cases h
      · exact .inr (known_eq_ok_iff.mp h)
  rcases hdirectory with hd | hd
  · exact hh.home directory hd
  · obtain ⟨before, after, he, -⟩ := List.lookup_eq_some_iff.mp hd
    have hm : (String.ofList (component.toList.drop 1), directory) ∈ environment.accounts := by
      rw [he]
      exact List.mem_append_right _ List.mem_cons_self
    exact hh.accounts _ hm

theorem isAbsolute_trimmed (h : isAbsolute directory = true) :
    isAbsolute (if (directory.toList.rdropWhile (· == '/')).isEmpty then "/"
      else String.ofList (directory.toList.rdropWhile (· == '/'))) = true := by
  obtain ⟨after, ha⟩ := List.rdropWhile_prefix (· == '/') directory.toList
  cases ht : directory.toList.rdropWhile (· == '/') with
  | nil => rfl
  | cons c rest =>
    rw [ht] at ha
    rw [isAbsolute, ← ha] at h
    simpa [isAbsolute] using h

/-- Names below a directory at the root make a path name that is settled. -/
theorem settled_below {base : String} {rest : List String} (hb : isAbsolute base = true)
    (hrest : ∀ n ∈ rest, n ∈ names path) :
    Settled (Parts.mk (root base) (names base ++ rest)).toPath := by
  have hcomponent : ∀ n ∈ names base ++ rest, IsComponent n := by
    intro n hn
    rcases List.mem_append.mp hn with hn | hn
    · exact isComponent_names base n hn
    · exact isComponent_names path n (hrest n hn)
  have hdot : ∀ n ∈ names base ++ rest, n ≠ "." := by
    intro n hn
    rcases List.mem_append.mp hn with hn | hn
    · exact ne_dot_of_mem_names base n hn
    · exact ne_dot_of_mem_names path n (hrest n hn)
  -- written out, these are the parts of a path name, which a normal form keeps
  have hparts := ofPath_written base hcomponent hdot
  have hroot := congrArg Parts.root hparts
  rw [← hparts]
  apply settled_normal
  rintro ⟨hr, -⟩
  exact (isAbsolute_iff_root base).mp hb (hroot.symm.trans hr)

theorem settled_of_below {rest : List String} (ha : isAbsolute directory = true)
    (hrest : ∀ n ∈ rest, n ∈ names path) (h : below directory rest = .ok file) :
    Settled file := by
  unfold below at h
  dsimp only at h
  split at h
  · cases h
  · rw [← Except.ok.inj h]
    exact settled_below (isAbsolute_trimmed ha) hrest

theorem settled_of_expandHome (hh : HomeAtRoot environment)
    (h : expandHome environment path = .ok file) : Settled file := by
  -- a path name that starts in a home directory comes to stand below it, at the root
  by_cases hs : StartsAtHome path
  · unfold expandHome at h
    dsimp only at h
    split at h
    · rename_i first rest hroot hnames
      have hrest : ∀ n ∈ rest, n ∈ names path := by
        intro n hn
        rw [names, hnames]
        exact List.mem_cons_of_mem _ hn
      split at h
      · cases hd : home environment first with
        | error fault =>
          rw [hd] at h
          cases h
        | ok directory =>
          rw [hd] at h
          exact settled_of_below (isAbsolute_home hh hd) hrest h
      · rename_i htilde
        obtain ⟨-, first', rest', hnames', htilde'⟩ := hs
        cases hnames.symm.trans hnames'
        exact absurd htilde' htilde
    · rename_i hnone
      obtain ⟨hroot, first, rest, hnames, -⟩ := hs
      exact absurd hnames (hnone first rest hroot)
  · rw [expandHome_of_not_startsAtHome hs] at h
    cases h
    exact settled_normal hs

theorem expandHome_again (hh : HomeAtRoot environment)
    (h : expandHome environment path = .ok file) (environment' : Environment) :
    expandHome environment' file = .ok file := by
  have hs := settled_of_expandHome hh h
  rw [expandHome_of_not_startsAtHome hs.not_home, hs.normal]

end LineShell.Files.Path
