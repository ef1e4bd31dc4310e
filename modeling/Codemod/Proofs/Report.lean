import Codemod.Proofs.Order
import Codemod.Report
import Mathlib.Data.List.Pairwise

/-!
What a report says about the outcomes it was made from. It holds all of them and counts each kind.
If no two are for the same path, the order in which they were recorded does not show.
-/
namespace Codemod

namespace FileOutcome

theorem compareKey :
    FileOutcome.compare =
      compareLex (fun a b => Path.compareText a.relative.text.toList b.relative.text.toList)
        (fun a b => Path.compareComponents a.path.components b.path.components) := rfl

instance : Std.TransCmp FileOutcome.compare := by
  have places : Std.TransCmp fun a b : FileOutcome =>
      Path.compareText a.relative.text.toList b.relative.text.toList :=
    orderedBy fun o : FileOutcome => o.relative.text.toList
  have paths : Std.TransCmp fun a b : FileOutcome =>
      Path.compareComponents a.path.components b.path.components :=
    orderedBy fun o : FileOutcome => o.path.components
  rw [compareKey]
  infer_instance

theorem componentsOfEq {a b : FileOutcome} (same : FileOutcome.compare a b = .eq) :
    a.path.components = b.path.components := by
  rw [compareKey, compareLex, Ordering.then_eq_eq] at same
  exact Std.LawfulEqCmp.eq_of_compare same.2

theorem pairwiseOfPaths {os : List FileOutcome}
    (different : (os.map path).Pairwise fun p q => p.components ≠ q.components) :
    os.Pairwise fun a b => FileOutcome.compare a b ≠ .eq :=
  (List.pairwise_map.mp different).imp fun apart same => apart (componentsOfEq same)

theorem leTrans (a b c : FileOutcome) (ab : a.le b) (bc : b.le c) : a.le c :=
  Std.TransCmp.isLE_trans ab bc

theorem leTotal (a b : FileOutcome) : a.le b || b.le a := by
  have swap : FileOutcome.compare b a = (FileOutcome.compare a b).swap := Std.OrientedCmp.eq_swap
  simp only [le, swap]
  cases FileOutcome.compare a b <;> rfl

theorem leAntisymm {a b : FileOutcome} (ab : a.le b) (ba : b.le a) : FileOutcome.compare a b = .eq := by
  have swap : FileOutcome.compare b a = (FileOutcome.compare a b).swap := Std.OrientedCmp.eq_swap
  simp only [le, swap] at ab ba
  revert ab ba
  cases FileOutcome.compare a b <;> simp [Ordering.isLE]

def isUnchanged (o : FileOutcome) : Bool := o.outcome = .unchanged

def isFailed (o : FileOutcome) : Bool := o.error?.isSome

end FileOutcome

namespace Report

theorem foldRecord (os : List FileOutcome) (r : Report) :
    os.foldl record r =
      ⟨r.outcomes ++ os, r.changed + os.countP (·.isChanged), r.unchanged + os.countP (·.isUnchanged),
        r.errors + os.countP (·.isFailed), r.dryRun⟩ := by
  induction os generalizing r with
  | nil => simp
  | cons o rest ih =>
    rw [List.foldl_cons, ih]
    obtain ⟨path, relative, outcome⟩ := o
    cases outcome <;>
      simp [record, FileOutcome.isChanged, FileOutcome.isUnchanged, FileOutcome.isFailed,
        FileOutcome.error?, Nat.add_comm, Nat.add_assoc]

theorem ofOutcomesEq (dry : Bool) (os : List FileOutcome) :
    ofOutcomes dry os = ⟨os.mergeSort FileOutcome.le, os.countP (·.isChanged),
      os.countP (·.isUnchanged), os.countP (·.isFailed), dry⟩ := by
  simp [ofOutcomes, foldRecord, start, finish]

theorem outcomesPerm (dry : Bool) (os : List FileOutcome) : (ofOutcomes dry os).outcomes.Perm os := by
  rw [ofOutcomesEq]
  exact os.mergeSort_perm _

theorem ofOutcomesCounts (dry : Bool) (os : List FileOutcome) :
    (ofOutcomes dry os).changed = (ofOutcomes dry os).outcomes.countP (·.isChanged) ∧
      (ofOutcomes dry os).unchanged = (ofOutcomes dry os).outcomes.countP (·.isUnchanged) ∧
      (ofOutcomes dry os).errors = (ofOutcomes dry os).outcomes.countP (·.isFailed) := by
  have perm := outcomesPerm dry os
  rw [perm.countP_eq, perm.countP_eq, perm.countP_eq, ofOutcomesEq]
  exact ⟨rfl, rfl, rfl⟩

theorem ofOutcomesPerm {os ps : List FileOutcome} (dry : Bool)
    (distinct : os.Pairwise fun a b => FileOutcome.compare a b ≠ .eq) (perm : os.Perm ps) :
    ofOutcomes dry os = ofOutcomes dry ps := by
  have symmetric : Std.Symm fun a b => FileOutcome.compare a b ≠ .eq :=
    ⟨fun _ _ different same => different (Std.OrientedCmp.eq_symm same)⟩
  have apart : ∀ a ∈ os, ∀ b ∈ os, FileOutcome.compare a b = .eq → a = b := by
    intro a ha b hb same
    by_contra different
    exact distinct.forall ha hb different same
  have sorted : os.mergeSort FileOutcome.le = ps.mergeSort FileOutcome.le := by
    refine List.Perm.eq_of_pairwise ?_ (List.pairwise_mergeSort FileOutcome.leTrans FileOutcome.leTotal os)
      (List.pairwise_mergeSort FileOutcome.leTrans FileOutcome.leTotal ps)
      (((os.mergeSort_perm _).trans perm).trans (ps.mergeSort_perm _).symm)
    intro a b ha hb ab ba
    refine apart a ((os.mergeSort_perm _).subset ha) b ?_ (FileOutcome.leAntisymm ab ba)
    exact perm.symm.subset ((ps.mergeSort_perm _).subset hb)
  simp only [ofOutcomesEq, sorted, perm.countP_eq]

theorem mergeSortCons (o : FileOutcome) (os : List FileOutcome) :
    (o :: os).mergeSort FileOutcome.le =
      (os.mergeSort FileOutcome.le).takeWhile (!o.le ·) ++
        o :: (os.mergeSort FileOutcome.le).dropWhile (!o.le ·) := by
  obtain ⟨front, back, whole, rest, before⟩ :=
    List.mergeSort_cons FileOutcome.leTrans FileOutcome.leTotal o os
  have sorted := List.pairwise_mergeSort FileOutcome.leTrans FileOutcome.leTotal (o :: os)
  rw [whole, List.pairwise_append, List.pairwise_cons] at sorted
  have after : back.takeWhile (!o.le ·) = [] ∧ back.dropWhile (!o.le ·) = back := by
    cases back with
    | nil => exact ⟨rfl, rfl⟩
    | cons b back => simp [sorted.2.1.1 b (by simp)]
  rw [whole, rest, List.takeWhile_append_of_pos before, List.dropWhile_append_of_pos before, after.1,
    after.2, List.append_nil]

theorem ofOutcomesCons {dry : Bool} {os ps : List FileOutcome} (o : FileOutcome)
    (same : ofOutcomes dry os = ofOutcomes dry ps) :
    ofOutcomes dry (o :: os) = ofOutcomes dry (o :: ps) := by
  simp only [ofOutcomesEq, mk.injEq, and_true] at same ⊢
  obtain ⟨sorted, changed, unchanged, errors⟩ := same
  rw [mergeSortCons, mergeSortCons, sorted]
  simp only [List.countP_cons, changed, unchanged, errors, and_self]

theorem ofOutcomesMap {g : FileOutcome → FileOutcome} (dry : Bool) (os : List FileOutcome)
    (path : ∀ o, (g o).path = o.path) (relative : ∀ o, (g o).relative = o.relative) :
    (ofOutcomes dry (os.map g)).outcomes = (ofOutcomes dry os).outcomes.map g := by
  rw [ofOutcomesEq, ofOutcomesEq]
  refine (List.map_mergeSort ?_).symm
  intro a _ b _
  simp only [FileOutcome.le, FileOutcome.compare, path, relative]

end Report

end Codemod
