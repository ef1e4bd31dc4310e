import Codemod.Ordered
import Codemod.RelPath
import Mathlib.Data.List.Sort
import Std.Data.TreeSet

/-!
The orders of texts and of paths. They are total and transitive, and what they do not tell apart is
the same: the same text, or the same components. A list is put in order by insertion.
-/
namespace Codemod

namespace Ordered

variable {α : Type} {le : α → α → Bool}

theorem placeInsert (x : α) (xs : List α) : place le x xs = xs.orderedInsert (le · ·) x := by
  induction xs with
  | nil => rfl
  | cons y rest ih => rw [place, List.orderedInsert_cons, ih]

theorem sortInsertion (xs : List α) : sort le xs = xs.insertionSort (le · ·) := by
  induction xs with
  | nil => rfl
  | cons x rest ih => rw [List.insertionSort_cons, ← ih, ← placeInsert, sort, sort, List.foldr_cons]

end Ordered

theorem orderedBy {α β : Type} (key : α → β) {order : β → β → Ordering} [Std.TransCmp order] :
    Std.TransCmp fun a b => order (key a) (key b) where
  eq_swap := Std.OrientedCmp.eq_swap
  isLE_trans := Std.TransCmp.isLE_trans

namespace Path

theorem compareTextKey : compareText = compareOn (List.map Char.toNat) := by
  funext a b
  induction a generalizing b with
  | nil => cases b <;> rfl
  | cons c rest ih =>
    cases b with
    | nil => rfl
    | cons d more =>
      rw [compareText, ih more]
      exact List.compare_cons_cons.symm

instance : Std.TransCmp compareText := compareTextKey ▸ inferInstance

instance : Std.LawfulEqCmp compareText where
  eq_of_compare {a b} same := by
    rw [compareTextKey] at same
    have keys : a.map Char.toNat = b.map Char.toNat := Std.compare_eq_iff_eq.mp same
    exact (List.map_inj_right fun c d eq => Char.ext (UInt32.toNat_inj.mp eq)).mp keys

def Component.text : Component → List Char
  | .name cs => cs
  | _ => []

theorem compareComponentKey :
    Component.compare = compareLex (compareOn Component.rank) (fun a b => compareText a.text b.text) := by
  funext a b
  cases a <;> cases b <;> rfl

instance : Std.TransCmp Component.compare := by
  have texts : Std.TransCmp fun a b : Component => compareText a.text b.text := orderedBy _
  rw [compareComponentKey]
  infer_instance

instance : Std.LawfulEqCmp Component.compare where
  eq_of_compare {a b} same := by
    rw [compareComponentKey, compareLex, Ordering.then_eq_eq] at same
    obtain ⟨ranks, texts⟩ := same
    have letters : a.text = b.text := Std.LawfulEqCmp.eq_of_compare texts
    have kinds : a.rank = b.rank := Std.compare_eq_iff_eq.mp ranks
    cases a <;> cases b <;> simp_all [Component.rank, Component.text]

theorem compareComponentsKey : compareComponents = List.compareLex Component.compare := by
  funext a b
  induction a generalizing b with
  | nil => cases b <;> rfl
  | cons c rest ih =>
    cases b with
    | nil => rfl
    | cons d more => rw [compareComponents, ih more, List.compareLex_cons_cons]

instance : Std.TransCmp compareComponents := compareComponentsKey ▸ inferInstance

instance : Std.LawfulEqCmp compareComponents := compareComponentsKey ▸ inferInstance

end Path

end Codemod
