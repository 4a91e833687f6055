import LineShell.Files.Lookup

namespace LineShell.Files

/-- Components that end in a slash, or none at all: only a directory can answer them. -/
def AsksDirectory (names : List String) : Prop := names.getLastD "" = ""

theorem asksDirectory_cons {name : String} {rest : List String} (h : rest ≠ []) :
    AsksDirectory (name :: rest) ↔ AsksDirectory rest := by
  cases rest with
  | nil => exact absurd rfl h
  | cons a r => simp [AsksDirectory]

theorem asksDirectory_append {names rest : List String} (h : rest ≠ [])
    (hr : AsksDirectory rest) : AsksDirectory (names ++ rest) := by
  induction names with
  | nil => exact hr
  | cons a r ih => exact (asksDirectory_cons (by simp [h])).mpr ih

/-- A descent that has found nothing but a directory, and asks for one where it goes on. -/
def Descent.AsksDirectory : Descent → Prop
  | .found f => ∃ p, f = .node p .directory
  | .refused _ => True
  | .link _ _ rest => rest ≠ [] ∧ Files.AsksDirectory rest

def Found.Stands (t : Tree) : Found → Prop
  | .vacant p => t.get? p = none
  | .node p n => n = .directory ∨ t.get? p = some n

def Found.IsFile (p : Place) (f : Found) : Prop :=
  f = .vacant p ∨ ∃ mode content, f = .node p (.file mode content)

theorem Found.not_isFile_node {p q : Place} (h : q ≠ p) (n : Node) :
    ¬ (Found.node q n).IsFile p := by
  rintro (hv | ⟨mode, content, hn⟩)
  · cases hv
  · exact h (Found.node.inj hn).1

namespace Tree

variable {t : Tree} {purpose : Purpose} {directory : Place} {names : List String} {f : Found}
  {links : Nat}

theorem get?_set (t : Tree) (p q : Place) (n : Node) :
    (t.set p n).get? q = if q = p then some n else t.get? q := by
  split
  · subst q
    exact get?_set_self t p n
  · exact get?_set_of_ne t n (by assumption)

/-- Only a slash at the end tells a descent that creates from one that looks. -/
theorem descend_eq_look (h : ¬ AsksDirectory names) :
    t.descend purpose directory names = t.descend .look directory names := by
  fun_induction t.descend purpose directory names
  all_goals grind [descend, asksDirectory_cons, AsksDirectory]

/-- A descent that creates may refuse a slash at the end, and nothing else that one that looks
does not. -/
theorem descend_look {d : Descent} (h : t.descend .create directory names = d)
    (hd : d ≠ .refused .isDirectory) : t.descend .look directory names = d := by
  fun_induction t.descend .create directory names
  all_goals grind [descend]

theorem descend_asksDirectory (t : Tree) (directory : Place) (h : AsksDirectory names) :
    (t.descend .look directory names).AsksDirectory := by
  fun_induction t.descend .look directory names
  all_goals grind [Descent.AsksDirectory, asksDirectory_cons, AsksDirectory]

theorem descend_stands (h : t.descend purpose directory names = .found f) : f.Stands t := by
  fun_induction t.descend purpose directory names
  all_goals grind [Found.Stands]

/-- A descent to a file ends at whatever file is put there. -/
theorem descend_set_found {p : Place} {mode : Nat} {content : List UInt8} (hf : f.IsFile p)
    (h : t.descend purpose directory names = .found f) :
    (t.set p (.file mode content)).descend purpose directory names =
      .found (.node p (.file mode content)) := by
  have hs := descend_stands h
  fun_induction t.descend purpose directory names
  all_goals grind [Found.Stands, Found.IsFile, descend, get?_set]

/-- A descent to a link does not pass a place where no directory or link is. -/
theorem descend_set_link {p place : Place} {mode : Nat} {content : List UInt8} {target : String}
    {rest : List String} (hf : f.IsFile p) (hs : f.Stands t)
    (h : t.descend purpose directory names = .link place target rest) :
    (t.set p (.file mode content)).descend purpose directory names =
      .link place target rest := by
  fun_induction t.descend purpose directory names
  all_goals grind [Found.Stands, Found.IsFile, descend, get?_set]

/-- A descent that finds anything else does not meet a file that is put at a place where no
directory or link is. -/
theorem descend_set_other {f' : Found} {p : Place} {mode : Nat} {content : List UInt8}
    (hf : f.IsFile p) (hs : f.Stands t) (ho : ¬ f'.IsFile p)
    (h : t.descend purpose directory names = .found f') :
    (t.set p (.file mode content)).descend purpose directory names = .found f' := by
  fun_induction t.descend purpose directory names
  all_goals grind [Found.Stands, Found.IsFile, descend, get?_set]

/-- The walks that find something: descents from link to link, the last of which finds it. -/
inductive Walks (t : Tree) (purpose : Purpose) (f : Found) :
    Nat → Place → List String → Prop where
  | found {links : Nat} {directory : Place} {names : List String}
      (descent : t.descend purpose directory names = .found f) :
      Walks t purpose f links directory names
  | link {links : Nat} {directory place : Place} {target : String} {names rest : List String}
      (descent : t.descend purpose directory names = .link place target rest)
      (named : target ≠ "")
      (onward : Walks t purpose f links (if Path.isAbsolute target then [] else place)
        (if rest.isEmpty then steps target else Path.components target ++ rest)) :
      Walks t purpose f (links + 1) directory names

theorem walk_eq_ok_iff :
    t.walk purpose links directory names = .ok f ↔ Walks t purpose f links directory names := by
  constructor
  · intro h
    induction links generalizing directory names with
    | zero =>
      rw [walk] at h
      split at h
      · exact .found (Except.ok.inj h ▸ by assumption)
      · cases h
      · cases h
    | succ n ih =>
      rw [walk] at h
      split at h
      · exact .found (Except.ok.inj h ▸ by assumption)
      · cases h
      · dsimp only at h
        split at h
        · cases h
        · exact .link (by assumption) (by assumption) (ih h)
  · intro h
    induction h with
    | found hd => rw [walk, hd]
    | link hd ht _ ih =>
      rw [walk, hd]
      dsimp only
      rw [if_neg ht]
      exact ih

theorem Walks.stands (h : Walks t purpose f links directory names) : f.Stands t := by
  induction h with
  | found hd => exact descend_stands hd
  | link _ _ _ ih => exact ih

theorem Walks.isDirectory (h : Walks t .look f links directory names)
    (ha : AsksDirectory names) : ∃ p, f = .node p .directory := by
  induction h with
  | @found _ d _ hd =>
    have hk := descend_asksDirectory t d ha
    rwa [hd] at hk
  | @link _ d _ _ _ _ hd _ _ ih =>
    have hk := descend_asksDirectory t d ha
    rw [hd] at hk
    obtain ⟨hne, hr⟩ := hk
    apply ih
    rw [if_neg (by simpa using hne)]
    exact asksDirectory_append hne hr

/-- What a walk finds that means to create, it finds when it only looks. -/
theorem walk_look (h : t.walk .create links directory names = .ok f) :
    t.walk .look links directory names = .ok f := by
  rw [walk_eq_ok_iff] at h ⊢
  induction h with
  | found hd => exact .found (descend_look hd (by simp))
  | link hd ht _ ih => exact .link (descend_look hd (by simp)) ht ih

/-- What a walk finds that only looks, it finds when it means to create, unless it is a
directory. -/
theorem walk_create (hf : ∀ p, f ≠ .node p .directory)
    (h : t.walk .look links directory names = .ok f) :
    t.walk .create links directory names = .ok f := by
  have hopen : ∀ {n d ns}, Walks t .look f n d ns → ¬ AsksDirectory ns := by
    intro n d ns hw ha
    obtain ⟨p, hp⟩ := hw.isDirectory ha
    exact hf p hp
  rw [walk_eq_ok_iff] at h ⊢
  induction h with
  | @found n _ _ hd =>
    have hw : Walks t .look f n _ _ := .found hd
    exact .found ((descend_eq_look (hopen hw)).trans hd)
  | link hd ht hw ih =>
    exact .link ((descend_eq_look (hopen (.link hd ht hw))).trans hd) ht ih

/-- A walk does not stop at a file that is put where no directory or link is. What it finds then
is what its last descent finds. -/
theorem Walks.set {f' found : Found} {p : Place} {mode : Nat} {content : List UInt8}
    (hf : f.IsFile p) (hs : f.Stands t)
    (hlast : ∀ directory names, t.descend purpose directory names = .found f' →
      (t.set p (.file mode content)).descend purpose directory names = .found found)
    (h : Walks t purpose f' links directory names) :
    Walks (t.set p (.file mode content)) purpose found links directory names := by
  induction h with
  | found hd => exact .found (hlast _ _ hd)
  | link hd ht _ ih => exact .link (descend_set_link hf hs hd) ht ih

/-- A walk to a file, or to a name where one may be created, ends at whatever file is put
there. -/
theorem walk_set {p : Place} {mode : Nat} {content : List UInt8} (hf : f.IsFile p)
    (h : t.walk purpose links directory names = .ok f) :
    (t.set p (.file mode content)).walk purpose links directory names =
      .ok (.node p (.file mode content)) := by
  rw [walk_eq_ok_iff] at h ⊢
  exact h.set hf h.stands fun _ _ hd => descend_set_found hf hd

theorem walk_set_other {f' : Found} {p : Place} {mode : Nat} {content : List UInt8}
    (hf : f.IsFile p) (hs : f.Stands t) (ho : ¬ f'.IsFile p)
    (h : t.walk purpose links directory names = .ok f') :
    (t.set p (.file mode content)).walk purpose links directory names = .ok f' := by
  rw [walk_eq_ok_iff] at h ⊢
  exact h.set hf hs fun _ _ hd => descend_set_other hf hs ho hd

end Tree

end LineShell.Files
