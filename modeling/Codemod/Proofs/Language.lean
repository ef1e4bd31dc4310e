import Codemod.Pattern.Search

/-!
What expressions match, said without programs. An expression takes a stretch of a text and leaves
marks for the groups it went through; a condition looks at the whole text around its place. The
fewest characters that `minLength` promises are a lower bound on what is taken, and where they are
none and no condition stands in the way, nothing needs to be taken.
-/
namespace Codemod.Pattern

theorem prefixDrop {α : Type} {xs : Array α} {x : α} {rest : List α} {i : Nat} :
    x :: rest <+: xs.toList.drop i ↔ xs[i]? = some x ∧ rest <+: xs.toList.drop (i + 1) := by
  rw [← Array.getElem?_toList, ← List.drop_drop, ← List.head?_drop]
  cases xs.toList.drop i with
  | nil => simp
  | cons d more => simp [List.cons_prefix_cons, eq_comm]

structure Progress where
  pos : Nat
  marks : List (Nat × Nat)
  deriving DecidableEq, Repr

def Times {α : Type} (R : α → α → Prop) : Nat → α → α → Prop
  | 0, s, t => s = t
  | n + 1, s, t => ∃ u, R s u ∧ Times R n u t

theorem timesAdd {α : Type} {R : α → α → Prop} {m n : Nat} {s t : α} :
    Times R (m + n) s t ↔ ∃ u, Times R m s u ∧ Times R n u t := by
  induction m generalizing s with
  | zero => simp [Times]
  | succ m ih =>
    rw [Nat.succ_add]
    constructor
    · intro ⟨u, first, rest⟩
      obtain ⟨v, more, last⟩ := ih.mp rest
      exact ⟨v, ⟨u, first, more⟩, last⟩
    · intro ⟨v, ⟨u, first, more⟩, last⟩
      exact ⟨u, first, ih.mpr ⟨v, more, last⟩⟩

theorem timesSnoc {α : Type} {R : α → α → Prop} {n : Nat} {s t : α} :
    Times R (n + 1) s t ↔ ∃ u, Times R n s u ∧ R u t := by
  rw [timesAdd]
  simp [Times]

theorem timesAny {α : Type} {R : α → α → Prop} {s t : α} :
    (∃ n, Times R n s t) ↔ (∃ u, R s u ∧ ∃ n, Times R n u t) ∨ s = t := by
  constructor
  · intro ⟨n, times⟩
    cases n with
    | zero => exact .inr times
    | succ n =>
      obtain ⟨u, first, rest⟩ := times
      exact .inl ⟨u, first, n, rest⟩
  · intro either
    cases either with
    | inl more =>
      obtain ⟨u, first, n, rest⟩ := more
      exact ⟨n + 1, u, first, rest⟩
    | inr same => exact ⟨0, same⟩

theorem timesUpTo {α : Type} {R : α → α → Prop} {most : Nat} {s t : α} :
    (∃ n ≤ most + 1, Times R n s t) ↔ (∃ u, R s u ∧ ∃ n ≤ most, Times R n u t) ∨ s = t := by
  constructor
  · intro ⟨n, few, times⟩
    cases n with
    | zero => exact .inr times
    | succ n =>
      obtain ⟨u, first, rest⟩ := times
      exact .inl ⟨u, first, n, Nat.le_of_succ_le_succ few, rest⟩
  · intro either
    cases either with
    | inl more =>
      obtain ⟨u, first, n, few, rest⟩ := more
      exact ⟨n + 1, Nat.succ_le_succ few, u, first, rest⟩
    | inr same => exact ⟨0, Nat.zero_le _, same⟩

theorem timesNone {α : Type} {R : α → α → Prop} {s t : α} :
    (∃ n ≤ 0, Times R n s t) ↔ s = t := by
  simp [Times]

namespace Expr

/-- What an expression takes from a text. A repetition takes its part at least `lo` times, and at most
`hi` times if that is more. -/
def Takes (text : Haystack) : Expr → Progress → Progress → Prop
  | .empty => fun s t => t = s
  | .text cs => fun s t => cs <+: text.toList.drop s.pos ∧ t = ⟨s.pos + cs.length, s.marks⟩
  | .set members => fun s t =>
    text[s.pos]?.any members.contains = true ∧ t = ⟨s.pos + 1, s.marks⟩
  | .look l => fun s t => l.holds (text.before? s.pos) text[s.pos]? = true ∧ t = s
  | .group index _ e => fun s t =>
    ∃ u, e.Takes text ⟨s.pos, (2 * index, s.pos) :: s.marks⟩ u ∧
      t = ⟨u.pos, (2 * index + 1, u.pos) :: u.marks⟩
  | .seq a b => fun s t => ∃ u, a.Takes text s u ∧ b.Takes text u t
  | .alt a b => fun s t => a.Takes text s t ∨ b.Takes text s t
  | .rep e lo hi _ => fun s t =>
    ∃ n, lo ≤ n ∧ (∀ most ∈ hi, n ≤ max lo most) ∧ Times (e.Takes text) n s t

structure Matches (e : Expr) (text : Haystack) (m : Match) : Prop where
  within : m.start ≤ text.size
  takes : e.Takes text ⟨m.start, []⟩ ⟨m.stop, m.marks⟩

def possible : Expr → Bool
  | .set members => !members.isEmpty
  | .group _ _ e => e.possible
  | .seq a b => a.possible && b.possible
  | .alt a b => a.possible && b.possible
  | .rep e _ _ _ => e.possible
  | _ => true

def lookFree : Expr → Bool
  | .look _ => false
  | .group _ _ e => e.lookFree
  | .seq a b => a.lookFree && b.lookFree
  | .alt a b => a.lookFree && b.lookFree
  | .rep e _ _ _ => e.lookFree
  | _ => true

section Takes

variable {text : Haystack} {s t : Progress}

theorem takesCons {c : Char} {rest : List Char} :
    (Expr.text (c :: rest)).Takes text s t ↔
      text[s.pos]? = some c ∧ (Expr.text rest).Takes text ⟨s.pos + 1, s.marks⟩ t := by
  have after : s.pos + (c :: rest).length = s.pos + 1 + rest.length := by
    rw [List.length_cons]
    omega
  simp only [Takes, prefixDrop, after, and_assoc]

theorem takesUnbounded {e : Expr} {lo : Nat} {greedy : Bool} :
    (Expr.rep e lo none greedy).Takes text s t ↔
      ∃ u, Times (e.Takes text) lo s u ∧ ∃ n, Times (e.Takes text) n u t := by
  constructor
  · intro ⟨n, enough, _, times⟩
    obtain ⟨k, rfl⟩ := Nat.exists_eq_add_of_le enough
    obtain ⟨u, first, rest⟩ := timesAdd.mp times
    exact ⟨u, first, k, rest⟩
  · intro ⟨u, first, k, rest⟩
    exact ⟨lo + k, Nat.le_add_right lo k, by simp, timesAdd.mpr ⟨u, first, rest⟩⟩

theorem takesBounded {e : Expr} {lo hi : Nat} {greedy : Bool} :
    (Expr.rep e lo (some hi) greedy).Takes text s t ↔
      ∃ u, Times (e.Takes text) lo s u ∧ ∃ n ≤ hi - lo, Times (e.Takes text) n u t := by
  constructor
  · intro ⟨n, enough, few, times⟩
    have few := few hi rfl
    obtain ⟨k, rfl⟩ := Nat.exists_eq_add_of_le enough
    obtain ⟨u, first, rest⟩ := timesAdd.mp times
    exact ⟨u, first, k, by omega, rest⟩
  · intro ⟨u, first, k, few, rest⟩
    refine ⟨lo + k, Nat.le_add_right lo k, ?_, timesAdd.mpr ⟨u, first, rest⟩⟩
    intro most same
    cases same
    omega

end Takes

theorem bothSome {f : Nat → Nat → Nat} {x y : Option Nat} {n : Nat} :
    (x.bind fun m => y.bind fun k => some (f m k)) = some n ↔
      ∃ m k, x = some m ∧ y = some k ∧ f m k = n := by
  cases x <;> cases y <;> simp

theorem minLengthSeq {a b : Expr} {n : Nat} :
    (Expr.seq a b).minLength = some n ↔
      ∃ m k, a.minLength = some m ∧ b.minLength = some k ∧ m + k = n :=
  bothSome (f := fun m k => m + k)

theorem minLengthAlt {a b : Expr} {n : Nat} :
    (Expr.alt a b).minLength = some n ↔
      ∃ m k, a.minLength = some m ∧ b.minLength = some k ∧ min m k = n :=
  bothSome (f := fun m k => min m k)

theorem timesLength {R : Progress → Progress → Prop} {least : Nat}
    (step : ∀ {s t}, R s t → s.pos + least ≤ t.pos) {n : Nat} {s t : Progress}
    (times : Times R n s t) : s.pos + n * least ≤ t.pos := by
  induction n generalizing s with
  | zero =>
    cases times
    omega
  | succ n ih =>
    obtain ⟨u, first, rest⟩ := times
    have here := step first
    have there := ih rest
    rw [Nat.succ_mul]
    omega

theorem takesLength {text : Haystack} {e : Expr} {n : Nat} {s t : Progress}
    (least : e.minLength = some n) (takes : e.Takes text s t) : s.pos + n ≤ t.pos := by
  induction e generalizing n s t with
  | empty =>
    cases takes
    cases least
    exact Nat.le_refl _
  | text cs =>
    cases least
    exact Nat.le_of_eq (congrArg Progress.pos takes.2).symm
  | set members =>
    unfold minLength at least
    split at least <;> try contradiction
    cases least
    exact Nat.le_of_eq (congrArg Progress.pos takes.2).symm
  | look l =>
    cases least
    exact Nat.le_of_eq (congrArg Progress.pos takes.2).symm
  | group index name e ih =>
    obtain ⟨u, inner, rfl⟩ := takes
    have taken := ih least inner
    exact taken
  | seq a b one two =>
    obtain ⟨m, k, first, second, rfl⟩ := minLengthSeq.mp least
    obtain ⟨u, here, there⟩ := takes
    have := one first here
    have := two second there
    omega
  | alt a b one two =>
    obtain ⟨m, k, first, second, rfl⟩ := minLengthAlt.mp least
    cases takes with
    | inl here =>
      have := one first here
      omega
    | inr there =>
      have := two second there
      omega
  | rep e lo hi greedy ih =>
    obtain ⟨k, enough, -, times⟩ := takes
    obtain ⟨m, inner, rfl⟩ := Option.map_eq_some_iff.mp least
    have total := timesLength (ih inner) times
    have : lo * m ≤ k * m := Nat.mul_le_mul_right m enough
    omega

theorem minLengthPossible {e : Expr} (possible : e.possible = true) : ∃ n, e.minLength = some n := by
  induction e with
  | empty => exact ⟨0, rfl⟩
  | text cs => exact ⟨cs.length, rfl⟩
  | set members =>
    have filled : members.isEmpty = false := by simpa [Expr.possible] using possible
    exact ⟨1, by simp [minLength, filled]⟩
  | look l => exact ⟨0, rfl⟩
  | group index name e ih => exact ih possible
  | seq a b one two =>
    obtain ⟨here, there⟩ := Bool.and_eq_true_iff.mp possible
    obtain ⟨m, first⟩ := one here
    obtain ⟨k, second⟩ := two there
    exact ⟨m + k, minLengthSeq.mpr ⟨m, k, first, second, rfl⟩⟩
  | alt a b one two =>
    obtain ⟨here, there⟩ := Bool.and_eq_true_iff.mp possible
    obtain ⟨m, first⟩ := one here
    obtain ⟨k, second⟩ := two there
    exact ⟨min m k, minLengthAlt.mpr ⟨m, k, first, second, rfl⟩⟩
  | rep e lo hi greedy ih =>
    obtain ⟨m, inner⟩ := ih possible
    exact ⟨lo * m, by simp [minLength, inner]⟩

theorem timesNothing {R : Progress → Progress → Prop}
    (step : ∀ s, ∃ t, R s t ∧ t.pos = s.pos) (n : Nat) (s : Progress) :
    ∃ t, Times R n s t ∧ t.pos = s.pos := by
  induction n generalizing s with
  | zero => exact ⟨s, rfl, rfl⟩
  | succ n ih =>
    obtain ⟨u, first, here⟩ := step s
    obtain ⟨t, rest, there⟩ := ih u
    exact ⟨t, ⟨u, first, rest⟩, there.trans here⟩

theorem takesNothing {e : Expr} (free : e.lookFree = true) (least : e.minLength = some 0)
    (text : Haystack) (s : Progress) : ∃ t, e.Takes text s t ∧ t.pos = s.pos := by
  induction e generalizing s with
  | empty => exact ⟨s, rfl, rfl⟩
  | text cs =>
    obtain rfl : cs = [] := List.length_eq_zero_iff.mp (Option.some.inj least)
    exact ⟨s, ⟨List.nil_prefix, rfl⟩, rfl⟩
  | set members =>
    unfold minLength at least
    split at least <;> contradiction
  | look l => contradiction
  | group index name e ih =>
    obtain ⟨u, inner, here⟩ := ih free least ⟨s.pos, (2 * index, s.pos) :: s.marks⟩
    exact ⟨_, ⟨u, inner, rfl⟩, here⟩
  | seq a b one two =>
    obtain ⟨freeA, freeB⟩ := Bool.and_eq_true_iff.mp free
    obtain ⟨m, k, first, second, total⟩ := minLengthSeq.mp least
    obtain ⟨rfl, rfl⟩ := Nat.add_eq_zero_iff.mp total
    obtain ⟨u, here, same⟩ := one freeA first s
    obtain ⟨t, there, further⟩ := two freeB second u
    exact ⟨t, ⟨u, here, there⟩, further.trans same⟩
  | alt a b one two =>
    obtain ⟨freeA, freeB⟩ := Bool.and_eq_true_iff.mp free
    obtain ⟨m, k, first, second, fewer⟩ := minLengthAlt.mp least
    have either : m = 0 ∨ k = 0 := by omega
    rcases either with rfl | rfl
    · obtain ⟨t, here, same⟩ := one freeA first s
      exact ⟨t, .inl here, same⟩
    · obtain ⟨t, there, same⟩ := two freeB second s
      exact ⟨t, .inr there, same⟩
  | rep e lo hi greedy ih =>
    obtain ⟨m, inner, product⟩ := Option.map_eq_some_iff.mp least
    have few : ∀ most ∈ hi, lo ≤ max lo most := fun most _ => Nat.le_max_left lo most
    rcases Nat.mul_eq_zero.mp product with rfl | rfl
    · exact ⟨s, ⟨0, Nat.le_refl 0, few, rfl⟩, rfl⟩
    · obtain ⟨t, times, same⟩ := timesNothing (ih free inner) lo s
      exact ⟨t, ⟨lo, Nat.le_refl lo, few, times⟩, same⟩

end Expr

end Codemod.Pattern
