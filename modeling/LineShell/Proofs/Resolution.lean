import LineShell.Proofs.Outcome
import LineShell.Proofs.Text.Lines

namespace LineShell.Command

open Files (Tree)
open Files.Path (join)

variable {files : Tree} {searchPath : Option String} {p q name path entry : String}
  {entries : List String} {result : Except FatalError Resolution}

/-- What the colons of a search path part. -/
structure Entries (p : String) (entries : List String) : Prop where
  nonempty : entries ≠ []
  plain : ∀ e ∈ entries, ':' ∉ e.toList
  joined : String.intercalate ":" entries = p

/-- The path name that is tried for a name in the directory of an entry. -/
def candidate (name entry : String) : String := join (if entry = "" then "." else entry) name

/-- A name that has to be searched for: it is no builtin, and not the path name of anything. -/
structure Searched (files : Tree) (name : String) : Prop where
  plain : ∀ b : Builtin, name ≠ b.name
  absent : ¬ ('/' ∈ name.toList ∧ files.has name = true)

/-- What a name stands for, or that this cannot be told. -/
inductive Resolves (files : Tree) (searchPath : Option String) (name : String) :
    Except FatalError Resolution → Prop where
  | builtin {b : Builtin} (named : name = b.name) :
      Resolves files searchPath name (.ok (.builtin b))
  | literal (plain : ∀ b : Builtin, name ≠ b.name) (slash : '/' ∈ name.toList)
      (found : files.has name = true) : Resolves files searchPath name (.ok (.external name))
  | unset (searched : Searched files name) (none : searchPath = none) :
      Resolves files searchPath name (.error .pathNotSet)
  | first {p entry : String} {before after : List String} (searched : Searched files name)
      (some : searchPath = some p) (entries : Entries p (before ++ entry :: after))
      (earlier : ∀ e ∈ before, files.has (candidate name e) = false)
      (found : files.has (candidate name entry) = true) :
      Resolves files searchPath name (.ok (.external (candidate name entry)))
  | nowhere {p : String} {entries : List String} (searched : Searched files name)
      (some : searchPath = some p) (parted : Entries p entries)
      (missing : ∀ e ∈ entries, files.has (candidate name e) = false) :
      Resolves files searchPath name (.ok .notFound)

theorem exists_entries (p : String) : ∃ entries, Entries p entries := by
  have hne := Text.pieces_ne_nil (· == ':') p.toList
  refine ⟨(Text.pieces (· == ':') p.toList).map String.ofList, ?_, ?_, ?_⟩
  · simpa using hne
  · intro e he hc
    obtain ⟨d, hd, rfl⟩ := List.mem_map.mp he
    rw [String.toList_ofList] at hc
    have hn := Text.not_of_mem_pieces (· == ':') p.toList d hd ':' hc
    exact absurd hn (by decide)
  · rw [← String.toList_inj, String.toList_intercalate, List.map_map]
    have hid : String.toList ∘ String.ofList = id := by
      funext d
      exact String.toList_ofList
    rw [hid, List.map_id, Text.pieces_eq_splitOn]
    exact List.intercalate_splitOn ':'

theorem Entries.directories_eq (h : Entries p entries) :
    directories p = entries.map fun e => if e = "" then "." else e := by
  have hp : Text.pieces (· == ':') p.toList = entries.map String.toList := by
    rw [← h.joined, String.toList_intercalate, Text.pieces_eq_splitOn]
    refine List.splitOn_intercalate ':' ?_ (by simpa using h.nonempty)
    intro d hd
    obtain ⟨e, he, rfl⟩ := List.mem_map.mp hd
    exact h.plain e he
  rw [directories, hp, List.map_map]
  refine List.map_congr_left ?_
  intro e _
  by_cases he : e = ""
  · simp [he]
  · have hl : e.toList ≠ [] := fun hl => he (String.toList_eq_nil_iff.mp hl)
    simp [he, hl, String.ofList_toList]

theorem Entries.search_eq (h : Entries p entries) (files : Tree) (name : String) :
    search files p name = (entries.map (candidate name)).find? files.has := by
  rw [search, h.directories_eq, List.map_map]
  rfl

theorem search_append (files : Tree) (p q name : String) :
    search files (p ++ ":" ++ q) name = (search files p name).or (search files q name) := by
  have hd : directories (p ++ ":" ++ q) = directories p ++ directories q := by
    have hp : (p ++ ":" ++ q).toList = p.toList ++ ':' :: q.toList := by simp
    rw [directories, hp, Text.pieces_append_cons _ _ _ _ rfl, List.map_append]
    rfl
  rw [search, hd, List.map_append, List.find?_append]
  rfl

theorem resolve_of_searched (h : Searched files name) :
    resolve files searchPath name =
      match searchPath with
      | none => .error .pathNotSet
      | some p =>
        match search files p name with
        | none => .ok .notFound
        | some path => .ok (.external path) := by
  have hb : Builtin.ofName? name = none :=
    ofName?_eq_none_iff.mpr ⟨h.plain .echo, h.plain .exit⟩
  have hl : isLiteral files name = false := isLiteral_eq_false_iff.mpr h.absent
  rw [resolve, hb]
  unfold program?
  cases searchPath with
  | none => simp [hl]
  | some p => cases hs : search files p name <;> simp [hl, hs]

theorem resolve_of_literal (hp : ∀ b : Builtin, name ≠ b.name) (hs : '/' ∈ name.toList)
    (hf : files.has name = true) : resolve files searchPath name = .ok (.external name) := by
  have hb : Builtin.ofName? name = none := ofName?_eq_none_iff.mpr ⟨hp .echo, hp .exit⟩
  have hl : isLiteral files name = true := by simp [isLiteral, hs, hf]
  rw [resolve, hb]
  unfold program?
  simp [hl]

theorem Resolves.resolve_eq (h : Resolves files searchPath name result) :
    resolve files searchPath name = result := by
  cases h with
  | builtin named => exact resolve_eq_builtin_iff.mpr named
  | literal plain slash found => exact resolve_of_literal plain slash found
  | unset searched hnone =>
    rw [resolve_of_searched searched, hnone]
  | @first p entry before after searched hsome entries earlier found =>
    have hf : search files p name = some (candidate name entry) := by
      rw [entries.search_eq, List.map_append, List.map_cons]
      refine List.find?_eq_some_iff_append.mpr ⟨found, _, _, rfl, ?_⟩
      intro c hc
      obtain ⟨e, he, rfl⟩ := List.mem_map.mp hc
      simp [earlier e he]
    rw [resolve_of_searched searched, hsome]
    dsimp only
    rw [hf]
  | @nowhere p entries searched hsome parted missing =>
    have hf : search files p name = none := by
      rw [parted.search_eq, List.find?_eq_none]
      intro c hc
      obtain ⟨e, he, rfl⟩ := List.mem_map.mp hc
      simp [missing e he]
    rw [resolve_of_searched searched, hsome]
    dsimp only
    rw [hf]

/-- Some rule applies to every name. -/
theorem exists_resolves (files : Tree) (searchPath : Option String) (name : String) :
    ∃ result, Resolves files searchPath name result := by
  by_cases hb : ∃ b : Builtin, name = b.name
  · obtain ⟨b, named⟩ := hb
    exact ⟨_, .builtin named⟩
  have plain : ∀ b : Builtin, name ≠ b.name := fun b named => hb ⟨b, named⟩
  by_cases hl : '/' ∈ name.toList ∧ files.has name = true
  · exact ⟨_, .literal plain hl.1 hl.2⟩
  have searched : Searched files name := ⟨plain, hl⟩
  cases searchPath with
  | none => exact ⟨_, .unset searched rfl⟩
  | some p =>
    obtain ⟨entries, parted⟩ := exists_entries p
    cases hf : (entries.map (candidate name)).find? files.has with
    | none =>
      refine ⟨_, .nowhere searched rfl parted ?_⟩
      intro e he
      have hm := List.find?_eq_none.mp hf _ (List.mem_map_of_mem he)
      simpa using hm
    | some path =>
      obtain ⟨found, tried, rest, happ, hearlier⟩ := List.find?_eq_some_iff_append.mp hf
      obtain ⟨before, others, rfl, rfl, hrest⟩ := List.map_eq_append_iff.mp happ
      obtain ⟨entry, after, rfl, rfl, -⟩ := List.map_eq_cons_iff.mp hrest
      refine ⟨_, .first searched rfl parted ?_ found⟩
      intro e he
      simpa using hearlier _ (List.mem_map_of_mem he)

theorem resolve_eq_iff :
    resolve files searchPath name = result ↔ Resolves files searchPath name result := by
  constructor
  · rintro rfl
    obtain ⟨result, h⟩ := exists_resolves files searchPath name
    rwa [h.resolve_eq]
  · exact Resolves.resolve_eq

def Resolution.builtin? : Resolution → Option Builtin
  | .builtin b => some b
  | _ => none

def Resolution.external? : Resolution → Option String
  | .external path => some path
  | _ => none

theorem candidate_of_absolute (h : name.toList.head? = some '/') (entry : String) :
    candidate name entry = name := by
  rw [candidate, join, if_pos h]

theorem Resolves.eq_of_absolute (ha : name.toList.head? = some '/')
    (h : Resolves files searchPath name (.ok (.external path))) :
    path = name ∧ files.has name = true := by
  generalize hr : Except.ok (Resolution.external path) = result at h
  cases h with
  | literal plain slash found =>
    cases hr
    exact ⟨rfl, found⟩
  | first searched some entries earlier found =>
    cases hr
    rw [candidate_of_absolute ha] at found ⊢
    exact ⟨rfl, found⟩
  | builtin | unset | nowhere => cases hr

/-- What is not a builtin is started from a path name that leads to something. -/
theorem Resolves.of_external (h : Resolves files searchPath name (.ok (.external path))) :
    (∀ b : Builtin, name ≠ b.name) ∧ files.has path = true := by
  generalize hr : Except.ok (Resolution.external path) = result at h
  cases h with
  | literal plain slash found =>
    cases hr
    exact ⟨plain, found⟩
  | first searched some entries earlier found =>
    cases hr
    exact ⟨searched.plain, found⟩
  | builtin | unset | nowhere => cases hr

theorem Resolves.builtin?_iff {r : Resolution} (h : Resolves files searchPath name (.ok r))
    (b : Builtin) : r.builtin? = some b ↔ name = b.name := by
  constructor
  · intro hb
    cases r with
    | builtin b' =>
      cases hb
      exact resolve_eq_builtin_iff.mp h.resolve_eq
    | external | notFound => cases hb
  · intro named
    have hr := h.resolve_eq.symm.trans (resolve_eq_builtin_iff.mpr named)
    rw [Except.ok.inj hr]
    rfl

/-- A resolution that comes from a search path is that of its first part, unless the name is in none
of the directories of that part. -/
theorem resolve_append (files : Tree) (p q name : String) :
    resolve files (some (p ++ ":" ++ q)) name =
      match resolve files (some p) name with
      | .ok .notFound => resolve files (some q) name
      | found => found := by
  by_cases hb : ∃ b : Builtin, name = b.name
  · obtain ⟨b, named⟩ := hb
    have h : ∀ p, resolve files (some p) name = .ok (.builtin b) :=
      fun p => resolve_eq_builtin_iff.mpr named
    simp [h]
  have plain : ∀ b : Builtin, name ≠ b.name := fun b named => hb ⟨b, named⟩
  by_cases hl : '/' ∈ name.toList ∧ files.has name = true
  · have h : ∀ p, resolve files (some p) name = .ok (.external name) :=
      fun p => resolve_of_literal plain hl.1 hl.2
    simp [h]
  · have searched : Searched files name := ⟨plain, hl⟩
    simp only [resolve_of_searched searched, search_append]
    cases search files p name <;> simp

/-- What a name stands for is settled by the first rule that applies, and by nothing else. So two
search paths with a colon between them are tried one after the other, and a name that starts at the
root stands for itself or for nothing. -/
theorem resolve_first_match (files : Tree) (searchPath : Option String) (name : String) :
    (∀ result, resolve files searchPath name = result ↔
      Resolves files searchPath name result) ∧
    (∀ r : Resolution, (r.builtin?.isSome ↔ r.kind = "builtin") ∧
      (r.external?.isSome ↔ r.kind = "external") ∧
      (resolve files searchPath name = .ok r →
        (∀ b : Builtin, r.builtin? = some b ↔ name = b.name) ∧
        ∀ path, r.external? = some path →
          (∀ b : Builtin, name ≠ b.name) ∧ files.has path = true)) ∧
    (∀ p q, resolve files (some (p ++ ":" ++ q)) name =
      match resolve files (some p) name with
      | .ok .notFound => resolve files (some q) name
      | found => found) ∧
    (name.toList.head? = some '/' → ∀ path,
      resolve files searchPath name = .ok (.external path) ↔
        path = name ∧ files.has name = true) := by
  refine ⟨fun result => resolve_eq_iff, ?_, fun p q => resolve_append files p q name, ?_⟩
  · intro r
    refine ⟨?_, ?_, ?_⟩
    · cases r <;> simp [Resolution.builtin?, Resolution.kind]
    · cases r <;> simp [Resolution.external?, Resolution.kind]
    · intro hr
      have rule := resolve_eq_iff.mp hr
      refine ⟨rule.builtin?_iff, ?_⟩
      intro path hp
      cases r with
      | external path' =>
        cases hp
        exact rule.of_external
      | builtin | notFound => cases hp
  · intro ha path
    constructor
    · intro h
      exact (resolve_eq_iff.mp h).eq_of_absolute ha
    · rintro ⟨rfl, found⟩
      have slash : '/' ∈ path.toList := List.mem_of_head? ha
      refine resolve_of_literal ?_ slash found
      rintro (_ | _) rfl
      · simp [Builtin.name] at ha
      · simp [Builtin.name] at ha

/-- The first directory has no such entry; the second is the working directory, by an empty entry of
the search path. -/
theorem resolve_first_match_here :
    let files := Tree.standard.set ["tool", "box", "tmp"] (.file 0o755 [])
    Resolves files (some "bin:") "tool" (.ok (.external "./tool")) ∧
      resolve files (some "bin:") "tool" = .ok (.external "./tool") ∧
      resolve files (some "bin::/usr") "tool" = .ok (.external "./tool") := by
  intro files
  have searched : Searched files "tool" := by
    refine ⟨?_, ?_⟩
    · rintro (_ | _) <;> decide
    · simp
  have parted : Entries "bin:" (["bin"] ++ "" :: []) := ⟨by decide, by decide, by decide⟩
  have rule : Resolves files (some "bin:") "tool" (.ok (.external (candidate "tool" ""))) :=
    .first searched rfl parted (by decide) (by decide)
  have hc : candidate "tool" "" = "./tool" := by decide
  rw [hc] at rule
  have found := ((resolve_first_match files (some "bin:") "tool").1 _).mpr rule
  refine ⟨rule, found, ?_⟩
  have happ := (resolve_first_match files none "tool").2.2.1 "bin:" "/usr"
  rw [found] at happ
  exact happ

end LineShell.Command
