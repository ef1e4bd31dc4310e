import Codemod.Proofs.Literal
import Mathlib.Data.List.Infix

/-!
A literal rule has nothing left to do on what it has made of a text, if its pattern and its
replacement neither hold nor overlap one another. A new occurrence of the pattern would have to
begin in a replacement or to reach into one from a gap in front of it, and there is no room for
either.
-/
namespace Codemod

/-- Two texts of which neither is part of the other, nor begins as the other ends. -/
structure Apart (p q : List Char) : Prop where
  within : ¬p <:+: q
  around : ¬q <:+: p
  behind : ∀ u, u ≠ [] → u <+: p → ¬u <:+ q
  before : ∀ u, u ≠ [] → u <+: q → ¬u <:+ p

instance (p q : List Char) : Decidable (Apart p q) :=
  decidable_of_iff (¬p <:+: q ∧ ¬q <:+: p ∧ (∀ u ∈ p.inits, u ≠ [] → ¬u <:+ q) ∧
      ∀ u ∈ q.inits, u ≠ [] → ¬u <:+ p)
    ⟨fun ⟨within, around, behind, before⟩ =>
      ⟨within, around, fun u some starts => behind u ((List.mem_inits u p).mpr starts) some,
        fun u some starts => before u ((List.mem_inits u q).mpr starts) some⟩,
    fun apart => ⟨apart.within, apart.around,
      fun u starts some => apart.behind u some ((List.mem_inits u p).mp starts),
      fun u starts some => apart.before u some ((List.mem_inits u q).mp starts)⟩⟩

theorem prefixAppend {p gap rest : List Char} (starts : p <+: gap ++ rest) :
    p <+: gap ∨ ∃ v, v ≠ [] ∧ p = gap ++ v ∧ v <+: rest := by
  obtain ⟨more, whole⟩ := starts
  rcases List.append_eq_append_iff.mp whole with ⟨v, rfl, _⟩ | ⟨v, rfl, rfl⟩
  · exact .inl (List.prefix_append p v)
  · by_cases empty : v = []
    · subst empty
      exact .inl (by simp)
    · exact .inr ⟨v, empty, rfl, List.prefix_append v more⟩

namespace Apart

variable {p q gap rest : List Char}

theorem reach (apart : Apart p q) (starts : p <+: gap ++ (q ++ rest)) : p <+: gap := by
  rcases prefixAppend starts with inside | ⟨v, some, rfl, onward⟩
  · exact inside
  rcases prefixAppend onward with part | ⟨w, -, rfl, -⟩
  · exact absurd (List.suffix_append gap v) (apart.before v some part)
  · refine absurd ⟨gap, w, ?_⟩ apart.around
    rw [List.append_assoc]

theorem leave (apart : Apart p q) (occurs : p <:+: q ++ rest) : p <:+: rest := by
  obtain ⟨a, b, whole⟩ := occurs
  rw [List.append_assoc] at whole
  rcases List.append_eq_append_iff.mp whole with ⟨v, rfl, onward⟩ | ⟨v, rfl, rfl⟩
  · rcases prefixAppend ⟨b, onward⟩ with inside | ⟨w, -, rfl, starts⟩
    · have part : p <:+: a ++ v := inside.isInfix.trans (List.suffix_append a v).isInfix
      exact absurd part apart.within
    · by_cases empty : v = []
      · subst empty
        exact starts.isInfix
      · exact absurd (List.suffix_append a v) (apart.behind v empty (List.prefix_append v w))
  · exact ⟨v, b, by rw [List.append_assoc]⟩

end Apart

namespace Substituted

variable {p q text out : List Char} {n : Nat}

theorem front (scan : Substituted p q text out n) :
    out = text ∨ ∃ gap rest after, text = gap ++ (p ++ rest) ∧ out = gap ++ (q ++ after) := by
  induction scan with
  | nil => exact .inl rfl
  | @copied c rest out n other onward ih =>
    rcases ih with rfl | ⟨gap, rest, after, rfl, rfl⟩
    · exact .inl rfl
    · exact .inr ⟨c :: gap, rest, after, rfl, rfl⟩
  | @replaced rest out n onward ih => exact .inr ⟨[], rest, out, rfl, rfl⟩

theorem free (apart : Apart p q) (scan : Substituted p q text out n) : ¬p <:+: out := by
  induction scan with
  | nil =>
    intro occurs
    rw [List.infix_nil] at occurs
    exact apart.within (occurs ▸ List.nil_infix)
  | @copied c rest out n other onward ih =>
    intro occurs
    rcases List.infix_cons_iff.mp occurs with starts | later
    · -- up to where the first replacement stands it would be an occurrence in the text itself
      rcases onward.front with rfl | ⟨gap, more, after, rfl, rfl⟩
      · exact other starts
      · have inside : p <+: c :: gap := apart.reach starts
        exact other (inside.trans (List.prefix_append (c :: gap) (p ++ more)))
    · exact ih later
  | replaced onward ih => exact fun occurs => ih (apart.leave occurs)

theorem unchanged (absent : ¬p <:+: text) : Substituted p q text text 0 := by
  induction text with
  | nil => exact .nil
  | cons c rest ih =>
    rw [List.infix_cons_iff, not_or] at absent
    exact .copied absent.1 (ih absent.2)

end Substituted

namespace Rule

open Pattern

variable {d : RuleDef} {r : Rule}

theorem literalAccepted [Engine] (literal : d.literal = true) (compiled : compile d = .ok r) :
    d.pattern.toList ≠ [] ∧
      r = ⟨d, .text d.pattern.toList, (Expr.text d.pattern.toList).program⟩ := by
  have filled : d.pattern.toList ≠ [] := fun empty => compileNothing literal empty r compiled
  rw [compileLiteral literal filled] at compiled
  split at compiled <;> try contradiction
  exact ⟨filled, (Except.ok.inj compiled).symm⟩

/-- A literal rule whose pattern and replacement keep apart leaves no occurrence of its pattern, so
that it does nothing to what it has made. -/
theorem literalSettles [Engine] (literal : d.literal = true) (compiled : compile d = .ok r)
    (apart : Apart d.pattern.toList d.replacement.toList) (content : String) :
    ¬d.pattern.toList <:+: (r.apply content).1.toList ∧
      r.apply (r.apply content).1 = ((r.apply content).1, 0) := by
  obtain ⟨filled, rfl⟩ := literalAccepted literal compiled
  have absent := (applySubstituted literal filled content).free apart
  obtain ⟨text, count⟩ :=
    (applySubstituted literal filled _).unique filled (Substituted.unchanged absent)
  exact ⟨absent, Prod.ext (String.toList_inj.mp text) count⟩

def woven : RuleDef := ⟨"aba", "bc", true⟩

open Engine in
set_option maxRecDepth 100000 in
theorem literalSettlesWoven :
    woven.literal = true ∧ Apart woven.pattern.toList woven.replacement.toList ∧
      ∃ r, compile woven = .ok r ∧ r.apply "aababaaba" = ("abcbabc", 2) ∧
        ¬"aba".toList <:+: "abcbabc".toList ∧ r.apply "abcbabc" = ("abcbabc", 0) := by
  have apart : Apart woven.pattern.toList woven.replacement.toList := by decide
  have applied : (compile woven).toOption.map (·.apply "aababaaba") = some ("abcbabc", 2) := by
    decide +kernel
  obtain ⟨r, compiled, result⟩ := okOfMap applied
  obtain ⟨absent, again⟩ := literalSettles rfl compiled apart "aababaaba"
  rw [result] at absent again
  exact ⟨rfl, apart, r, compiled, result, absent, again⟩

end Rule

end Codemod
