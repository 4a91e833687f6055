import LineShell.Line.Redirection
import LineShell.Line.Token

namespace LineShell.Line

variable {strict : Bool} {tokens args after : List String} {path : String} {r : Redirection}
  {e : RedirectionError}

def WellFormed (strict : Bool) (tokens : List String) : Prop :=
  marker ∉ tokens ∨
    ∃ args path extra, tokens = args ++ marker :: path :: extra ∧
      marker ∉ args ∧ path ≠ marker ∧ marker ∉ extra ∧ (strict = true → extra = [])

/-- What a redirection comes to after its marker, where the path stands first. -/
def afterMarker (strict : Bool) (args : List String) :
    List String → Except RedirectionError Redirection
  | [] => .error .missingPath
  | [path] => .ok ⟨some (Files.Path.normal path), args, []⟩
  | path :: first :: others =>
    if strict then .error (.trailing first)
    else .ok ⟨some (Files.Path.normal path), args, first :: others⟩

theorem ne_marker_of_not_mem (h : marker ∉ args) : ∀ a ∈ args, decide (a ≠ marker) = true := by
  intro a ha
  simp only [decide_eq_true_eq]
  rintro rfl
  exact h ha

theorem redirection_plain (h : marker ∉ tokens) :
    redirection strict tokens = .ok ⟨none, tokens, []⟩ := by
  have hm := ne_marker_of_not_mem h
  have ht : tokens.takeWhile (· ≠ marker) = tokens := by
    have ha : (tokens ++ []).takeWhile (· ≠ marker) = tokens ++ [].takeWhile (· ≠ marker) :=
      List.takeWhile_append_of_pos hm
    rwa [List.append_nil, List.takeWhile_nil, List.append_nil] at ha
  have hd : tokens.dropWhile (· ≠ marker) = [] := by
    have ha : (tokens ++ []).dropWhile (· ≠ marker) = [].dropWhile (· ≠ marker) :=
      List.dropWhile_append_of_pos hm
    rwa [List.append_nil, List.dropWhile_nil] at ha
  simp only [redirection, ht, hd]

theorem redirection_marked (h : marker ∉ args) :
    redirection strict (args ++ marker :: after) =
      if marker ∈ after then .error .repeated else afterMarker strict args after := by
  have hm := ne_marker_of_not_mem h
  have ht : (args ++ marker :: after).takeWhile (· ≠ marker) = args := by
    rw [List.takeWhile_append_of_pos hm]
    simp
  have hd : (args ++ marker :: after).dropWhile (· ≠ marker) = marker :: after := by
    rw [List.dropWhile_append_of_pos hm]
    simp
  simp only [redirection, ht, hd]
  split
  · rfl
  · rcases after with _ | ⟨path, _ | ⟨first, others⟩⟩ <;> rfl

/-- Every list of tokens is free of markers or falls apart at its first. -/
theorem plain_or_marked (tokens : List String) :
    marker ∉ tokens ∨ ∃ args after, tokens = args ++ marker :: after ∧ marker ∉ args := by
  by_cases h : marker ∈ tokens
  · obtain ⟨args, after, he, hn⟩ := List.eq_append_cons_of_mem h
    exact .inr ⟨args, after, he, hn⟩
  · exact .inl h

/-- The tokens after a command name that are accepted, and what they are parsed into. -/
inductive Parses (strict : Bool) : List String → Redirection → Prop where
  | plain {args : List String} (ha : marker ∉ args) : Parses strict args ⟨none, args, []⟩
  | sent {args : List String} {path : String} (ha : marker ∉ args) (hp : path ≠ marker) :
      Parses strict (args ++ [marker, path]) ⟨some (Files.Path.normal path), args, []⟩
  /-- Where redirections are not strict, tokens after the path are dropped. -/
  | dropping {args extra : List String} {path : String} (hs : strict = false)
      (ha : marker ∉ args) (hp : path ≠ marker) (he : marker ∉ extra) :
      Parses strict (args ++ [marker, path] ++ extra)
        ⟨some (Files.Path.normal path), args, extra⟩

/-- The tokens after a command name that are not accepted, and the reason. -/
inductive Refuses (strict : Bool) : List String → RedirectionError → Prop where
  | repeated {tokens : List String} (hc : 2 ≤ tokens.count marker) :
      Refuses strict tokens .repeated
  | missingPath {args : List String} (ha : marker ∉ args) :
      Refuses strict (args ++ [marker]) .missingPath
  | trailing {args others : List String} {path first : String} (hs : strict = true)
      (ha : marker ∉ args) (hp : path ≠ marker) (he : marker ∉ first :: others) :
      Refuses strict (args ++ [marker, path] ++ first :: others) (.trailing first)

theorem count_marked (ha : marker ∉ args) :
    (args ++ marker :: after).count marker = after.count marker + 1 := by
  rw [List.count_append, List.count_cons_self, List.count_eq_zero_of_not_mem ha]
  omega

theorem two_le_count_marked_iff (ha : marker ∉ args) :
    2 ≤ (args ++ marker :: after).count marker ↔ marker ∈ after := by
  rw [count_marked ha, ← List.count_pos_iff]
  omega

theorem redirection_path (ha : marker ∉ args) (hp : path ≠ marker) (he : marker ∉ after) :
    redirection strict (args ++ [marker, path] ++ after) =
      afterMarker strict args (path :: after) := by
  have hm : marker ∉ path :: after := by simp [Ne.symm hp, he]
  rw [List.append_assoc, List.cons_append, List.singleton_append, redirection_marked ha, if_neg hm]

theorem Parses.redirection_eq (h : Parses strict tokens r) :
    redirection strict tokens = .ok r := by
  cases h with
  | plain ha => exact redirection_plain ha
  | @sent args path ha hp =>
    have h : redirection strict (args ++ [marker, path] ++ []) = _ :=
      redirection_path ha hp List.not_mem_nil
    rwa [List.append_nil] at h
  | @dropping args extra path hs ha hp he =>
    rw [redirection_path ha hp he, hs]
    cases extra <;> rfl

theorem Refuses.redirection_eq (h : Refuses strict tokens e) :
    redirection strict tokens = .error e := by
  cases h with
  | repeated hc =>
    rcases plain_or_marked tokens with hp | ⟨args, after, rfl, ha⟩
    · rw [List.count_eq_zero_of_not_mem hp] at hc
      omega
    · rw [redirection_marked ha, if_pos ((two_le_count_marked_iff ha).mp hc)]
  | missingPath ha =>
    rw [redirection_marked ha, if_neg List.not_mem_nil]
    rfl
  | trailing hs ha hp he =>
    rw [redirection_path ha hp he, hs]
    rfl

/-- Tokens are parsed or refused. -/
theorem parses_or_refuses (strict : Bool) (tokens : List String) :
    (∃ r, Parses strict tokens r) ∨ ∃ e, Refuses strict tokens e := by
  rcases plain_or_marked tokens with hp | ⟨args, after, rfl, ha⟩
  · exact .inl ⟨_, .plain hp⟩
  by_cases hm : marker ∈ after
  · exact .inr ⟨_, .repeated ((two_le_count_marked_iff ha).mpr hm)⟩
  rcases after with _ | ⟨path, _ | ⟨first, others⟩⟩
  · exact .inr ⟨_, .missingPath ha⟩
  · have hp : path ≠ marker := by
      rintro rfl
      exact hm List.mem_cons_self
    exact .inl ⟨_, .sent ha hp⟩
  · rw [List.mem_cons, not_or] at hm
    have hsplit : args ++ marker :: path :: first :: others =
        args ++ [marker, path] ++ first :: others := by simp
    rw [hsplit]
    cases hs : strict with
    | false => exact .inl ⟨_, .dropping rfl ha (Ne.symm hm.1) hm.2⟩
    | true => exact .inr ⟨_, .trailing rfl ha (Ne.symm hm.1) hm.2⟩

theorem redirection_eq_ok_iff : redirection strict tokens = .ok r ↔ Parses strict tokens r := by
  constructor
  · intro h
    rcases parses_or_refuses strict tokens with ⟨r', hp⟩ | ⟨e, he⟩
    · cases h.symm.trans hp.redirection_eq
      exact hp
    · cases h.symm.trans he.redirection_eq
  · exact Parses.redirection_eq

theorem redirection_eq_error_iff :
    redirection strict tokens = .error e ↔ Refuses strict tokens e := by
  constructor
  · intro h
    rcases parses_or_refuses strict tokens with ⟨r, hp⟩ | ⟨e', he⟩
    · cases h.symm.trans hp.redirection_eq
    · cases h.symm.trans he.redirection_eq
      exact he
  · exact Refuses.redirection_eq

theorem redirection_ok_iff :
    (∃ r, redirection strict tokens = .ok r) ↔ WellFormed strict tokens := by
  simp only [redirection_eq_ok_iff]
  constructor
  · rintro ⟨r, h⟩
    cases h with
    | plain ha => exact .inl ha
    | sent ha hp => exact .inr ⟨_, _, [], rfl, ha, hp, List.not_mem_nil, fun _ => rfl⟩
    | dropping hs ha hp he =>
      refine .inr ⟨_, _, _, List.append_assoc .., ha, hp, he, fun hst => ?_⟩
      rw [hs] at hst
      cases hst
  · rintro (h | ⟨args, path, extra, rfl, ha, hp, he, hs⟩)
    · exact ⟨_, .plain h⟩
    · cases hst : strict with
      | true =>
        rw [hs hst]
        exact ⟨_, .sent ha hp⟩
      | false =>
        have h : Parses false (args ++ [marker, path] ++ extra) _ := .dropping rfl ha hp he
        rw [List.append_assoc] at h
        exact ⟨_, h⟩

end LineShell.Line
