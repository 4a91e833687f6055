import LineShell.Proofs.Yaml.Cursor
import LineShell.Yaml.Building

namespace LineShell.Yaml

variable {F : Failure → Prop}

/-- Failures of what a document says are of this kind. -/
structure Own (F : Failure → Prop) : Prop where
  malformed : F .malformed
  fault : ∀ fault, F (.fault fault)

variable (ho : Own F)

include ho

theorem Number.ends_integer (base : Nat) (s : List Char) :
    Ends F (fun _ => True) (integer base s) := by
  unfold integer
  split
  · trivial
  · exact ho.fault _
  · exact ho.fault _

theorem Number.ends_ofInteger (s : List Char) : Ends F (fun _ => True) (ofInteger s) := by
  have signed : ∀ {n : Reads Int} (negative : Bool), Ends F (fun _ => True) n →
      Ends F (fun _ => True) (do
        let n ← n
        return if negative then -n else n) :=
    fun negative hn => hn.bind fun _ _ => trivial
  unfold ofInteger
  dsimp only
  split
  · exact ho.fault _
  · trivial
  · exact signed _ (ends_integer ho 2 _)
  · exact signed _ (ends_integer ho 16 _)
  · exact signed _ (ends_integer ho 8 _)
  · split
    · exact (Ends.mapM (ends_integer ho 10) _).bind fun _ _ => trivial
    · exact signed _ (ends_integer ho 10 _)

theorem Number.ends_float (s : List Char) : Ends F (fun _ => True) (float s) := by
  unfold float
  split
  · trivial
  · exact ho.fault _

theorem Number.ends_floatSixties (unit : Nat) (sum : Decimal.Double) (ds : List Decimal.Double) :
    Ends F (fun _ => True) (floatSixties unit sum ds) := by
  fun_induction floatSixties unit sum ds with
  | case1 => trivial
  | case2 => assumption
  | case3 => exact ho.fault _

theorem Number.ends_ofFloat (s : List Char) : Ends F (fun _ => True) (ofFloat s) := by
  unfold ofFloat
  dsimp only
  refine .ite (ho.fault _) (.ite trivial (.ite trivial (.ite ?_ ?_)))
  · refine (Ends.mapM (ends_float ho) _).bind fun parts _ => ?_
    exact (ends_floatSixties ho _ _ _).bind fun _ _ => trivial
  · exact (ends_float ho _).bind fun _ _ => trivial

theorem Base64.ends_decode (s : List Char) : Ends F (fun _ => True) (decode s) := by
  unfold decode
  split
  · trivial
  · exact ho.malformed

theorem Stamp.ends_value (s : Stamp) : Ends F (fun _ => True) s.value := by
  unfold Stamp.value
  split
  · exact ho.fault _
  · split <;> trivial

theorem ends_truth (s : List Char) : Ends F (fun _ => True) (truth s) := by
  unfold truth
  dsimp only
  split
  · trivial
  · exact ho.fault _

theorem ends_timestamp (s : List Char) : Ends F (fun _ => True) (timestamp s) := by
  unfold timestamp
  split
  · exact Stamp.ends_value ho _
  · exact ho.fault _

theorem Graph.ends_text (g : Graph) (n i : Nat) : Ends F (fun _ => True) (g.text n i) := by
  induction n generalizing i with
  | zero => exact ho.malformed
  | succ n ih =>
    unfold Graph.text
    split
    · trivial
    · exact ho.malformed
    · split
      · exact ih _
      · exact ho.malformed

theorem Graph.ends_scalar (g : Graph) (i : Nat) : Ends F (fun _ => True) (g.scalar i) := by
  refine (g.ends_text ho _ i).bind fun s _ => ?_
  split
  · trivial
  · exact ends_truth ho s
  · exact (Number.ends_ofInteger ho s).bind fun _ _ => trivial
  · exact (Number.ends_ofFloat ho s).bind fun _ _ => trivial
  · exact (Base64.ends_decode ho s).bind fun _ _ => trivial
  · split
    · exact ends_timestamp ho _
    · exact ho.fault _
  · trivial
  · exact ho.malformed

theorem Graph.ends_mergeFrom (n : Nat) (i start : Nat) (merged : List (Nat × Nat)) (g : Graph) :
    Ends F (fun _ => True) (mergeFrom i n start merged g) := by
  induction n generalizing i start merged g with
  | zero => trivial
  | succ n ih =>
    unfold mergeFrom
    dsimp only
    split
    · trivial
    · split
      · exact (ih _ _ _ _).bind fun _ _ => ih _ _ _ _
      · refine (Ends.foldlM (fun r item => ?_) _ _).bind fun _ _ => ih _ _ _ _
        split
        · exact (ih _ _ _ _).bind fun _ _ => trivial
        · exact ho.malformed
      · exact ho.malformed

namespace Building

theorem ends_begin (b : Building) (i : Nat) : Ends F (fun _ => True) (b.begin i) := by
  have value : Ends F (fun _ => True) (do
      return b.put i (.value (← b.nodes.scalar i))) :=
    (Graph.ends_scalar ho _ i).bind fun _ _ => trivial
  unfold begin
  split
  · trivial
  · split
    iterate 5 trivial
    iterate 3 exact ho.malformed
    all_goals exact value

theorem ends_key (b : Building) (i : Nat) : Ends F (fun _ => True) (b.key i) := by
  unfold key
  split
  · trivial
  · exact ho.malformed

theorem ends_beginPairs (b : Building) (pairs : List (Nat × Nat)) :
    Ends F (fun _ => True) (b.beginPairs pairs) := by
  refine Ends.foldlM (fun r p => ?_) _ _
  refine (ends_begin ho _ _).bind fun b _ => ?_
  refine (ends_key ho _ _).bind fun key _ => ?_
  exact (ends_begin ho _ _).bind fun _ _ => trivial

theorem ends_beginTuples (b : Building) (items : List Nat) :
    Ends F (fun _ => True) (b.beginTuples items) := by
  refine Ends.foldlM (fun r item => ?_) _ _
  dsimp only
  split
  · refine (ends_begin ho _ _).bind fun b _ => ?_
    exact (ends_begin ho _ _).bind fun _ _ => trivial
  · exact ho.malformed

theorem ends_fill (b : Building) (i : Nat) : Ends F (fun _ => True) (b.fill i) := by
  have entries : Ends F (fun _ => True) (do
      let nodes ← b.nodes.merge i
      { b with nodes }.beginPairs (nodes.pairs i)) :=
    (Graph.ends_mergeFrom ho _ _ _ _ _).bind fun _ _ => ends_beginPairs ho _ _
  unfold fill
  dsimp only
  split
  · exact (Ends.foldlM (ends_begin ho) _ _).bind fun _ _ => trivial
  · exact (ends_beginTuples ho _ _).bind fun _ _ => trivial
  · exact (ends_beginTuples ho _ _).bind fun _ _ => trivial
  · refine Ends.bind (Q := fun _ => True) ?_ fun _ _ => trivial
    split
    · exact entries
    · exact ho.malformed
  · refine Ends.bind (Q := fun _ => True) ?_ fun _ _ => trivial
    split
    · exact entries
    · exact ho.malformed
  · exact ho.malformed

theorem ends_run (n : Nat) (b : Building) : Ends F (fun _ => True) (b.run n) := by
  induction n generalizing b with
  | zero => trivial
  | succ n ih =>
    unfold run
    split
    · trivial
    · exact (ends_fill ho _ _).bind fun b _ => ih b

end Building

theorem Graph.ends_value (g : Graph) (root : Nat) : Ends F (fun _ => True) (g.value root) := by
  refine (Building.ends_begin ho _ _).bind fun b _ => ?_
  refine (Building.ends_run ho _ _).bind fun b _ => ?_
  dsimp only
  split <;> trivial

end LineShell.Yaml
