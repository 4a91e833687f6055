import LineShell.Files.Access
import LineShell.Proofs.Text.Lines

namespace LineShell.Files.Path

open Text (pieces)

variable {path : String} {parts : List String}

def names (path : String) : List String := (Parts.ofPath path).names

theorem ofPath_eq (path : String) : Parts.ofPath path = ⟨root path, names path⟩ := rfl

def IsComponent (name : String) : Prop := name ≠ "" ∧ '/' ∉ name.toList

theorem isComponent_of_mem_components {n : String} (h : n ∈ components path) : IsComponent n := by
  obtain ⟨w, hw, rfl⟩ := List.mem_map.mp h
  obtain ⟨hpiece, hne⟩ := List.mem_filter.mp hw
  constructor
  · intro he
    have hnil : w = [] := String.ofList_eq_empty_iff.mp he
    simp [hnil] at hne
  · rw [String.toList_ofList]
    intro hc
    exact absurd (Text.not_of_mem_pieces _ _ w hpiece '/' hc) (by decide)

theorem isComponent_names (path : String) : ∀ n ∈ names path, IsComponent n := by
  intro n hn
  exact isComponent_of_mem_components (List.mem_filter.mp hn).1

theorem ne_dot_of_mem_names (path : String) : ∀ n ∈ names path, n ≠ "." := by
  intro n hn
  exact of_decide_eq_true (List.mem_filter.mp hn).2

/-- Components written with single slashes between them are the pieces of what is written. -/
theorem pieces_intercalate (h : ∀ n ∈ parts, IsComponent n) (hne : parts ≠ []) :
    pieces (· == '/') (String.intercalate "/" parts).toList = parts.map String.toList := by
  rw [String.toList_intercalate, Text.pieces_eq_splitOn]
  refine List.splitOn_intercalate '/' ?_ (by simpa using hne)
  intro w hw
  obtain ⟨n, hn, rfl⟩ := List.mem_map.mp hw
  exact (h n hn).2

theorem components_intercalate (h : ∀ n ∈ parts, IsComponent n) :
    components (String.intercalate "/" parts) = parts := by
  by_cases hne : parts = []
  · rw [hne]
    rfl
  have hkept : (parts.map String.toList).filter (fun w => !w.isEmpty) =
      parts.map String.toList := by
    rw [List.filter_eq_self]
    intro w hw
    obtain ⟨n, hn, rfl⟩ := List.mem_map.mp hw
    simpa using (h n hn).1
  rw [components, pieces_intercalate h hne, hkept, List.map_map]
  simp

/-- No slash is at either end of what is written. -/
theorem intercalate_ends (h : ∀ n ∈ parts, IsComponent n) :
    (String.intercalate "/" parts).toList.head? ≠ some '/' ∧
      (String.intercalate "/" parts).toList.getLast? ≠ some '/' := by
  by_cases hne : parts = []
  · rw [hne]
    decide
  have hfull : [] ∉ pieces (· == '/') (String.intercalate "/" parts).toList := by
    rw [pieces_intercalate h hne]
    intro hm
    obtain ⟨n, hn, he⟩ := List.mem_map.mp hm
    exact (h n hn).1 (String.toList_eq_nil_iff.mp he)
  constructor
  · intro hs
    obtain ⟨rest, hr⟩ := List.head?_eq_some_iff.mp hs
    rw [hr] at hfull
    exact hfull (by simp [pieces])
  · intro hs
    obtain ⟨before, hb⟩ := List.getLast?_eq_some_iff.mp hs
    rw [hb, Text.pieces_append_cons _ _ _ _ rfl] at hfull
    exact hfull (by simp [pieces])

theorem components_slash (path : String) : components ("/" ++ path) = components path := by
  have hl : ("/" ++ path).toList = [] ++ '/' :: path.toList := by simp
  rw [components, hl, Text.pieces_append_cons _ _ _ _ rfl]
  rfl

theorem root_cases (path : String) : root path = "" ∨ root path = "/" ∨ root path = "//" := by
  unfold root
  split <;> simp

theorem components_root_append (path rest : String) :
    components (root path ++ rest) = components rest := by
  rcases root_cases path with h | h | h
  · rw [h, String.empty_append]
  · rw [h, components_slash]
  · rw [h, show "//" = "/" ++ "/" from rfl, String.append_assoc, components_slash,
      components_slash]

theorem root_append (path : String) {rest : String} (h : rest.toList.head? ≠ some '/') :
    root (root path ++ rest) = root path := by
  have hr := root_cases path
  generalize root path = r at hr ⊢
  cases hl : rest.toList with
  | nil => rcases hr with rfl | rfl | rfl <;> simp [root, hl]
  | cons c t =>
    have hc : c ≠ '/' := by simpa [hl] using h
    rcases hr with rfl | rfl | rfl <;> simp [root, hl, hc]

theorem isAbsolute_iff_root (path : String) : isAbsolute path = true ↔ root path ≠ "" := by
  unfold isAbsolute root
  rcases path.toList with _ | ⟨c, l⟩
  · simp
  by_cases hc : c = '/'
  · subst hc
    split <;> simp_all
  · split <;> simp_all

theorem intercalate_names_eq_empty_iff :
    String.intercalate "/" (names path) = "" ↔ names path = [] := by
  constructor
  · intro h
    have hc := components_intercalate (isComponent_names path)
    rw [h] at hc
    exact hc.symm
  · intro h
    rw [h]
    rfl

theorem normal_eq (path : String) :
    normal path =
      if root path = "" ∧ names path = [] then "."
      else root path ++ String.intercalate "/" (names path) := by
  have he : root path ++ String.intercalate "/" (names path) = "" ↔
      root path = "" ∧ names path = [] := by
    rw [String.append_eq_empty_iff, intercalate_names_eq_empty_iff]
  change (if root path ++ String.intercalate "/" (names path) = "" then "." else _) = _
  simp only [he]
  rfl

theorem normal_of_names (h : names path ≠ []) :
    normal path = root path ++ String.intercalate "/" (names path) := by
  rw [normal_eq, if_neg (fun hn => h hn.2)]

theorem normal_ne_empty (path : String) : normal path ≠ "" := by
  rw [normal_eq]
  split
  · decide
  · rename_i h
    rwa [Ne, String.append_eq_empty_iff, intercalate_names_eq_empty_iff]

/-- The components of a normal form are its names, and the directory itself where nothing else
is. -/
theorem components_normal (path : String) :
    components (normal path) =
      if root path = "" ∧ names path = [] then ["."] else names path := by
  rw [normal_eq]
  split
  · decide
  · rw [components_root_append]
    exact components_intercalate (isComponent_names path)

/-- A root and names that are written are read again. -/
theorem ofPath_written (path : String) (hc : ∀ n ∈ parts, IsComponent n)
    (hd : ∀ n ∈ parts, n ≠ ".") :
    Parts.ofPath (root path ++ String.intercalate "/" parts) = ⟨root path, parts⟩ := by
  have hkept : parts.filter (· ≠ ".") = parts := by
    rw [List.filter_eq_self]
    intro n hn
    exact decide_eq_true (hd n hn)
  rw [Parts.ofPath, root_append path (intercalate_ends hc).1, components_root_append,
    components_intercalate hc, hkept]

/-- A normal form has the parts of what it comes from. -/
theorem ofPath_normal (path : String) : Parts.ofPath (normal path) = Parts.ofPath path := by
  rw [normal_eq]
  split
  · rename_i h
    rw [ofPath_eq path, h.1, h.2]
    decide
  · exact ofPath_written path (isComponent_names path) (ne_dot_of_mem_names path)

theorem normal_normal (path : String) : normal (normal path) = normal path := by
  rw [normal, ofPath_normal]
  rfl

theorem names_normal (path : String) : names (normal path) = names path :=
  congrArg Parts.names (ofPath_normal path)

theorem isAbsolute_normal (path : String) : isAbsolute (normal path) = isAbsolute path := by
  rw [Bool.eq_iff_iff, isAbsolute_iff_root path, normal_eq]
  split
  · rename_i h
    simp [h.1, isAbsolute]
  have hends := (intercalate_ends (isComponent_names path)).1
  rcases root_cases path with h | h | h
  · simpa [h, isAbsolute] using hends
  · simp [h, isAbsolute]
  · simp [h, isAbsolute]

theorem getLast?_normal (h : names path ≠ []) :
    (normal path).toList.getLast? ≠ some '/' := by
  have hends := (intercalate_ends (isComponent_names path)).2
  have hfull : String.intercalate "/" (names path) ≠ "" := mt intercalate_names_eq_empty_iff.mp h
  rw [normal_of_names h, String.toList_append, List.getLast?_append]
  cases hl : (String.intercalate "/" (names path)).toList.getLast? with
  | none => exact absurd (String.toList_eq_nil_iff.mp (List.getLast?_eq_none_iff.mp hl)) hfull
  | some c =>
    rw [hl] at hends
    simpa using hends

/-- No slash at the end of a normal form asks for a directory. -/
theorem steps_normal (path : String) : steps (normal path) = components (normal path) := by
  unfold steps
  refine if_neg ?_
  by_cases hn : names path = []
  · rw [components_normal, normal_eq]
    split
    · decide
    · simp [hn]
  · simp only [Bool.and_eq_true, decide_eq_true_eq, not_and]
    exact fun _ => getLast?_normal hn

section Length

variable {l m : List Char} {ls ms : List (List Char)}

theorem utf8ByteSize_cons (c : Char) (l : List Char) :
    (String.ofList (c :: l)).utf8ByteSize = c.utf8Size + (String.ofList l).utf8ByteSize := by
  have hc : String.ofList (c :: l) = String.singleton c ++ String.ofList l := by
    rw [← String.toList_inj]
    simp
  rw [hc, String.utf8ByteSize_append, String.utf8ByteSize_singleton]

theorem utf8ByteSize_le_of_sublist (h : l.Sublist m) :
    (String.ofList l).utf8ByteSize ≤ (String.ofList m).utf8ByteSize := by
  induction h with
  | slnil => exact Nat.le_refl _
  | cons c _ ih =>
    rw [utf8ByteSize_cons]
    omega
  | cons_cons c _ ih =>
    rw [utf8ByteSize_cons, utf8ByteSize_cons]
    omega

theorem intercalate_sublist (sep : List Char) (h : ls.Sublist ms) :
    (sep.intercalate ls).Sublist (sep.intercalate ms) := by
  induction h with
  | slnil => exact List.Sublist.refl _
  | @cons ls ms w h ih =>
    rcases ms with _ | ⟨v, vs⟩
    · obtain rfl := List.sublist_nil.mp h
      exact List.nil_sublist _
    · rw [List.intercalate_cons_cons]
      exact ih.trans (List.sublist_append_right _ _)
  | @cons_cons ls ms w h ih =>
    rcases ms with _ | ⟨v, vs⟩
    · obtain rfl := List.sublist_nil.mp h
      exact List.Sublist.refl _
    · rcases ls with _ | ⟨u, us⟩
      · rw [List.intercalate_cons_cons, List.intercalate_singleton, List.append_assoc]
        exact List.sublist_append_left _ _
      · rw [List.intercalate_cons_cons, List.intercalate_cons_cons]
        exact ih.append_left _

/-- A path name is its root and a rest. -/
theorem exists_root_append (path : String) : ∃ rest, path = root path ++ rest := by
  have hl : ∃ rest, path.toList = (root path).toList ++ rest := by
    unfold root
    split
    · exact ⟨_, by assumption⟩
    · exact ⟨_, by assumption⟩
    · exact ⟨_, by assumption⟩
    · exact ⟨path.toList, rfl⟩
  obtain ⟨rest, hr⟩ := hl
  refine ⟨String.ofList rest, ?_⟩
  rw [← String.toList_inj, String.toList_append, hr, String.toList_ofList]

theorem utf8ByteSize_names_le (path : String) :
    (String.intercalate "/" (names path)).utf8ByteSize ≤ path.utf8ByteSize := by
  have hsub : ((names path).map String.toList).Sublist (pieces (· == '/') path.toList) := by
    have hc : (components path).map String.toList =
        (pieces (· == '/') path.toList).filter (fun w => !w.isEmpty) := by
      rw [components, List.map_map]
      simp
    refine (List.filter_sublist.map String.toList).trans ?_
    rw [hc]
    exact List.filter_sublist
  have hle := utf8ByteSize_le_of_sublist (intercalate_sublist ['/'] hsub)
  rw [Text.pieces_eq_splitOn, List.intercalate_splitOn, String.ofList_toList] at hle
  have hn : String.ofList (['/'].intercalate ((names path).map String.toList)) =
      String.intercalate "/" (names path) := by
    rw [← String.toList_inj, String.toList_ofList, String.toList_intercalate]
    rfl
  rwa [hn] at hle

/-- A normal form is no longer than what it comes from. -/
theorem utf8ByteSize_normal_le (h : path ≠ "") :
    (normal path).utf8ByteSize ≤ path.utf8ByteSize := by
  rw [normal_eq]
  split
  · have hpos : path.utf8ByteSize ≠ 0 := fun hz => h (String.utf8ByteSize_eq_zero_iff.mp hz)
    rw [show ".".utf8ByteSize = 1 from rfl]
    omega
  · obtain ⟨rest, hr⟩ := exists_root_append path
    have hnames : names path = names rest := by
      change (components path).filter _ = (components rest).filter _
      rw [hr, components_root_append]
    have hle := utf8ByteSize_names_le rest
    have hsize := congrArg String.utf8ByteSize hr
    rw [String.utf8ByteSize_append] at hsize
    rw [hnames, String.utf8ByteSize_append]
    omega

end Length

/-- The characters of a path name, slashes aside, are those of its components. -/
theorem mem_toList_iff {c : Char} (hc : c ≠ '/') :
    c ∈ path.toList ↔ ∃ n ∈ components path, c ∈ n.toList := by
  have hf : c ∈ path.toList ↔ c ∈ (pieces (· == '/') path.toList).flatten := by
    rw [Text.flatten_pieces]
    simp [hc]
  rw [hf, List.mem_flatten]
  constructor
  · rintro ⟨w, hw, hm⟩
    refine ⟨String.ofList w, List.mem_map.mpr ⟨w, ?_, rfl⟩, by simpa using hm⟩
    refine List.mem_filter.mpr ⟨hw, ?_⟩
    cases w with
    | nil => cases hm
    | cons => rfl
  · rintro ⟨n, hn, hm⟩
    obtain ⟨w, hw, rfl⟩ := List.mem_map.mp hn
    exact ⟨w, (List.mem_filter.mp hw).1, by simpa using hm⟩

theorem hasNull_iff_names : hasNull path = true ↔ ∃ n ∈ names path, '\x00' ∈ n.toList := by
  have hm : hasNull path = true ↔ '\x00' ∈ path.toList := by simp [hasNull]
  rw [hm, mem_toList_iff (by decide)]
  constructor
  · rintro ⟨n, hn, hnull⟩
    refine ⟨n, List.mem_filter.mpr ⟨hn, ?_⟩, hnull⟩
    rw [decide_eq_true_eq]
    rintro rfl
    exact absurd hnull (by decide)
  · rintro ⟨n, hn, hnull⟩
    exact ⟨n, (List.mem_filter.mp hn).1, hnull⟩

theorem hasNull_normal (path : String) : hasNull (normal path) = hasNull path := by
  rw [Bool.eq_iff_iff, hasNull_iff_names, hasNull_iff_names, names_normal]

end LineShell.Files.Path
