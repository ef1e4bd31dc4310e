import Codemod.Output.Report
import Codemod.Proofs.Report
import Codemod.Proofs.Utf8
import Mathlib.Data.List.Forall2

/-!
What becomes of recorded outcomes when a report is finished. They are all there, those of one place in
the order in which they were recorded, and the places in an order that is told here by bytes and
components alone. Unless two outcomes have the same place, neither the report nor what is printed of
it shows in which order they were recorded.
-/
namespace Codemod

namespace Path

theorem compareTextLt {a b : List Char} : compareText a b = .lt ↔ bytesOf a < bytesOf b := by
  refine ⟨textBytesLt, fun less => ?_⟩
  cases order : compareText a b with
  | lt => rfl
  | eq =>
    obtain rfl := Std.LawfulEqCmp.eq_of_compare order
    exact absurd less (List.lt_irrefl _)
  | gt =>
    have greater := textBytesLt (Std.OrientedCmp.lt_of_gt order)
    exact absurd (List.lt_trans less greater) (List.lt_irrefl _)

def Component.Before (a b : Component) : Prop :=
  a.rank < b.rank ∨ ∃ s t, a = .name s ∧ b = .name t ∧ bytesOf s < bytesOf t

def Before (p q : Path) : Prop := List.Lex Component.Before p.components q.components

theorem Component.compareLt {a b : Component} : a.compare b = .lt ↔ a.Before b := by
  cases a <;> cases b <;>
    simp [Component.compare, Before, rank, compareTextLt, Ord.compare, compareOfLessAndEq]

theorem compareComponentsLt {as bs : List Component} :
    compareComponents as bs = .lt ↔ List.Lex Component.Before as bs := by
  induction as generalizing bs with
  | nil => cases bs <;> simp [compareComponents]
  | cons a as ih =>
    cases bs with
    | nil => simp [compareComponents]
    | cons b bs =>
      rw [compareComponents, Ordering.then_eq_lt, ih, Component.compareLt]
      constructor
      · intro order
        rcases order with first | ⟨same, later⟩
        · exact .rel first
        · obtain rfl := Std.LawfulEqCmp.eq_of_compare same
          exact .cons later
      · intro order
        cases order with
        | rel first => exact .inl first
        | cons later => exact .inr ⟨Std.ReflCmp.compare_self, later⟩

end Path

namespace FileOutcome

variable {a b : FileOutcome}

def SamePlace (a b : FileOutcome) : Prop :=
  a.relative = b.relative ∧ a.path.components = b.path.components

instance : DecidableRel SamePlace := fun a b =>
  inferInstanceAs (Decidable (a.relative = b.relative ∧ a.path.components = b.path.components))

def Precedes (a b : FileOutcome) : Prop :=
  bytesOf a.relative.text.toList < bytesOf b.relative.text.toList ∨
    a.relative = b.relative ∧ a.path.Before b.path

theorem compareRelative {p q : RelPath} : p.compare q = .eq ↔ p = q := by
  obtain ⟨one⟩ := p
  obtain ⟨other⟩ := q
  rw [RelPath.compare, Std.LawfulEqCmp.compare_eq_iff_eq, String.toList_inj, RelPath.mk.injEq]

theorem compareSame : FileOutcome.compare a b = .eq ↔ a.SamePlace b := by
  rw [FileOutcome.compare, Ordering.then_eq_eq, compareRelative, SamePlace, Path.compare,
    Std.LawfulEqCmp.compare_eq_iff_eq]

theorem comparePrecedes : FileOutcome.compare a b = .lt ↔ a.Precedes b := by
  rw [FileOutcome.compare, Ordering.then_eq_lt, compareRelative, Precedes, Path.compare, Path.Before,
    Path.compareComponentsLt, RelPath.compare, Path.compareTextLt]

theorem lePrecedes : a.le b = true ↔ a.Precedes b ∨ a.SamePlace b := by
  rw [← comparePrecedes, ← compareSame, le]
  cases FileOutcome.compare a b <;> simp [Ordering.isLE]

end FileOutcome

namespace Report

theorem outcomesStable (dry : Bool) (os : List FileOutcome) (o : FileOutcome) :
    (ofOutcomes dry os).outcomes.filter (o.SamePlace ·) = os.filter (o.SamePlace ·) := by
  have alike : (os.filter (o.SamePlace ·)).Pairwise (·.le ·) := by
    refine List.pairwise_of_forall_mem_list ?_
    intro a ha b hb
    have one := of_decide_eq_true (List.mem_filter.mp ha).2
    have two := of_decide_eq_true (List.mem_filter.mp hb).2
    exact FileOutcome.lePrecedes.mpr (.inr ⟨one.1.symm.trans two.1, one.2.symm.trans two.2⟩)
  have kept := List.sublist_mergeSort FileOutcome.leTrans FileOutcome.leTotal alike
    List.filter_sublist
  have within := kept.filter (o.SamePlace ·)
  have sizes := ((os.mergeSort_perm FileOutcome.le).filter (o.SamePlace ·)).length_eq
  simp only [List.filter_filter, Bool.and_self] at within
  rw [ofOutcomesEq]
  exact (within.eq_of_length sizes.symm).symm

theorem outcomesOrdered (dry : Bool) (os : List FileOutcome) :
    (ofOutcomes dry os).outcomes.Pairwise fun a b => a.Precedes b ∨ a.SamePlace b := by
  have sorted := List.pairwise_mergeSort FileOutcome.leTrans FileOutcome.leTotal os
  rw [ofOutcomesEq]
  exact sorted.imp FileOutcome.lePrecedes.mp

theorem countsSum (os : List FileOutcome) :
    os.length = os.countP (·.isChanged) + os.countP (·.isUnchanged) + os.countP (·.isFailed) := by
  induction os with
  | nil => rfl
  | cons o rest ih =>
    obtain ⟨path, relative, outcome⟩ := o
    cases outcome <;>
      simp [FileOutcome.isChanged, FileOutcome.isUnchanged, FileOutcome.isFailed,
        FileOutcome.error?, ih] <;> omega

theorem scannedSum (dry : Bool) (os : List FileOutcome) :
    (ofOutcomes dry os).scanned =
      (ofOutcomes dry os).changed + (ofOutcomes dry os).unchanged + (ofOutcomes dry os).errors := by
  simp only [scanned, ofOutcomesEq, List.length_mergeSort]
  exact countsSum os

theorem failuresFailed (r : Report) :
    List.Forall₂ (fun f o => o.path = f.1 ∧ o.outcome = .failed f.2) r.failures
      (r.outcomes.filter (·.isFailed)) := by
  unfold failures
  induction r.outcomes with
  | nil => exact .nil
  | cons o rest ih =>
    obtain ⟨path, relative, outcome⟩ := o
    cases outcome <;> simpa [FileOutcome.isFailed, FileOutcome.error?] using ih

theorem changedMeans {o : FileOutcome} (changed : o.isChanged = true) :
    ∃ n written, o.outcome = .changed n written := by
  unfold FileOutcome.isChanged at changed
  split at changed <;> try contradiction
  next outcome => exact ⟨_, _, outcome⟩

/-- A finished report holds what was recorded: every outcome once, in the order of the report, with
those of one place as they were recorded. Each counter counts its kind, the changed and the failed
files are listed as they stand in the report, and if no two outcomes have the same place, any other
order of recording leads to the same report in the same print. -/
theorem sealedOutcomes (dry : Bool) (os : List FileOutcome) :
    let r := ofOutcomes dry os
    (r.outcomes.Perm os ∧ r.outcomes.Pairwise (fun a b => a.Precedes b ∨ a.SamePlace b) ∧
        ∀ o : FileOutcome, r.outcomes.filter (o.SamePlace ·) = os.filter (o.SamePlace ·)) ∧
      (r.scanned = r.changed + r.unchanged + r.errors ∧ r.changed = os.countP (·.isChanged) ∧
        r.unchanged = os.countP (·.isUnchanged) ∧ r.errors = os.countP (·.isFailed)) ∧
      (r.changedFiles.Sublist r.outcomes ∧ r.changedFiles.length = r.changed ∧
        ∀ o ∈ r.changedFiles, ∃ n written, o.outcome = .changed n written) ∧
      (∃ failed, failed.Sublist r.outcomes ∧ failed.length = r.errors ∧
        List.Forall₂ (fun f o => o.path = f.1 ∧ o.outcome = .failed f.2) r.failures failed) ∧
      ∀ ps, os.Perm ps → os.Pairwise (fun a b => ¬a.SamePlace b) →
        ofOutcomes dry ps = r ∧
          (∀ coloured verbose,
            Output.human coloured verbose (ofOutcomes dry ps) = Output.human coloured verbose r) ∧
          Output.jsonl (ofOutcomes dry ps) = Output.jsonl r := by
  intro r
  obtain ⟨changed, -, errors⟩ := ofOutcomesCounts dry os
  refine ⟨⟨outcomesPerm dry os, outcomesOrdered dry os, outcomesStable dry os⟩,
    ⟨scannedSum dry os, ?_⟩, ⟨List.filter_sublist, ?_, ?_⟩,
    ⟨_, List.filter_sublist, ?_, failuresFailed r⟩, ?_⟩
  · simp only [r, ofOutcomesEq, and_self]
  · rw [changedFiles, ← List.countP_eq_length_filter]
    exact changed.symm
  · intro o listed
    exact changedMeans (List.mem_filter.mp listed).2
  · rw [← List.countP_eq_length_filter]
    exact errors.symm
  · intro ps same apart
    have distinct : os.Pairwise fun a b => FileOutcome.compare a b ≠ .eq :=
      apart.imp fun other => mt FileOutcome.compareSame.mp other
    have reports : ofOutcomes dry ps = r := (ofOutcomesPerm dry distinct same).symm
    rw [reports]
    exact ⟨rfl, fun _ _ => rfl, rfl⟩

def crowded : List FileOutcome :=
  [⟨⟨"r/a/b"⟩, ⟨"a/b"⟩, .changed 2 true⟩, ⟨⟨"r//a.b"⟩, ⟨"a.b"⟩, .unchanged⟩,
    ⟨⟨"a.b"⟩, ⟨"c"⟩, .failed (.decode 3)⟩, ⟨⟨"a/b"⟩, ⟨"c"⟩, .unchanged⟩]

theorem sealedOutcomesCrowded :
    crowded.Perm crowded.reverse ∧ crowded.Pairwise (fun a b => ¬a.SamePlace b) ∧
      ofOutcomes false crowded.reverse = ofOutcomes false crowded ∧
      Output.jsonl (ofOutcomes false crowded.reverse) = Output.jsonl (ofOutcomes false crowded) ∧
      (ofOutcomes false crowded).scanned = 4 := by
  have turned : crowded.Perm crowded.reverse := crowded.reverse_perm.symm
  have apart : crowded.Pairwise (fun a b => ¬a.SamePlace b) := by decide
  obtain ⟨⟨perm, -, -⟩, -, -, -, alike⟩ := sealedOutcomes false crowded
  obtain ⟨reports, -, lines⟩ := alike crowded.reverse turned apart
  exact ⟨turned, apart, reports, lines, perm.length_eq⟩

end Report

end Codemod
