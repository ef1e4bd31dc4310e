import Codemod.Proofs.Language
import Codemod.Proofs.Search

/-!
The program of an expression finds what the expression matches. Code that is placed somewhere in a
program performs a relation: whatever is reached from its first instruction is reached from where it
leaves off, after a step of the relation. One lemma for every way in which code is put together gives
the code of each kind of expression.
-/
namespace Codemod.Pattern

variable {p : Program} {text : Haystack}

def Placed (p : Program) (base : Nat) (code : List Instr) : Prop := code <+: p.code.toList.drop base

theorem placedCons {base : Nat} {i : Instr} {rest : List Instr} :
    Placed p base (i :: rest) ↔ p.code[base]? = some i ∧ Placed p (base + 1) rest := prefixDrop

theorem placedAppend {base : Nat} {front back : List Instr} :
    Placed p base (front ++ back) ↔ Placed p base front ∧ Placed p (base + front.length) back := by
  induction front generalizing base with
  | nil => simp [Placed]
  | cons i rest ih =>
    rw [List.cons_append, placedCons, placedCons, ih, List.length_cons, and_assoc,
      Nat.add_comm rest.length, Nat.add_assoc]

theorem addressSucc (base size k : Nat) : base + (k + 1) * size = base + size + k * size := by
  rw [Nat.succ_mul]
  omega

theorem copiesSucc (part : Nat → Nat → List Instr) (size n base next : Nat) :
    copies part size (n + 1) base next =
      part base (if n = 0 then next else base + size) ++ copies part size n (base + size) next := by
  unfold copies
  rw [List.range_succ_eq_map, List.flatMap_cons, List.flatMap_map]
  simp only [Nat.succ_eq_add_one, addressSucc, Nat.zero_mul, Nat.add_zero, Nat.add_right_cancel_iff,
    eq_comm (a := 0)]

theorem copiesLength {part : Nat → Nat → List Instr} {size : Nat}
    (length : ∀ base next, (part base next).length = size) (n base next : Nat) :
    (copies part size n base next).length = n * size := by
  induction n generalizing base with
  | zero => simp [copies]
  | succ n ih =>
    rw [copiesSucc, List.length_append, length, ih, Nat.succ_mul]
    omega

theorem optionalsSucc (part : Nat → Nat → List Instr) (size n base next : Nat) (greedy : Bool) :
    optionals part size (n + 1) base next greedy =
      .choice greedy (base + 1) next ::
        (part (base + 1) (if n = 0 then next else base + (size + 1)) ++
          optionals part size n (base + (size + 1)) next greedy) := by
  unfold optionals
  rw [List.range_succ_eq_map, List.flatMap_cons, List.flatMap_map]
  simp only [Nat.succ_eq_add_one, addressSucc, Nat.zero_mul, Nat.add_zero, Nat.add_right_cancel_iff,
    eq_comm (a := 0), List.cons_append]

theorem optionalsLength {part : Nat → Nat → List Instr} {size : Nat}
    (length : ∀ base next, (part base next).length = size) (n base next : Nat) (greedy : Bool) :
    (optionals part size n base next greedy).length = n * (size + 1) := by
  induction n generalizing base with
  | zero => simp [optionals]
  | succ n ih =>
    rw [optionalsSucc, List.length_cons, List.length_append, length, ih, Nat.succ_mul]
    omega

def Progress.branch (s : Progress) (pc : Nat) : Branch := ⟨pc, s.pos, s.marks⟩

def Reaches (p : Program) (text : Haystack) : Nat → Branch → Branch → Prop
  | 0, b, last => p.code[b.pc]? = some .accept ∧ b = last
  | n + 1, b, last => ∃ i, p.code[b.pc]? = some i ∧ ∃ c ∈ b.next text i, Reaches p text n c last

theorem leadsReaches {b last : Branch} : Leads p text b last ↔ ∃ n, Reaches p text n b last := by
  constructor
  · intro leads
    induction leads with
    | accept done => exact ⟨0, done, rfl⟩
    | step code follows onward ih =>
      obtain ⟨n, reaches⟩ := ih
      exact ⟨n + 1, _, code, _, follows, reaches⟩
  · intro ⟨n, reaches⟩
    induction n generalizing b with
    | zero =>
      obtain ⟨done, rfl⟩ := reaches
      exact .accept done
    | succ n ih =>
      obtain ⟨i, code, c, follows, onward⟩ := reaches
      exact .step code follows (ih onward)

theorem reachesStep {n : Nat} {b last : Branch} {i : Instr} (code : p.code[b.pc]? = some i)
    (other : i ≠ .accept) (reaches : Reaches p text n b last) :
    ∃ m < n, ∃ c ∈ b.next text i, Reaches p text m c last := by
  cases n with
  | zero =>
    obtain ⟨done, -⟩ := reaches
    exact absurd (Option.some.inj (code.symm.trans done)) other
  | succ n =>
    obtain ⟨j, here, c, follows, onward⟩ := reaches
    cases code.symm.trans here
    exact ⟨n, Nat.lt_succ_self n, c, follows, onward⟩

theorem choiceContinues (greedy : Bool) (enter leave : Nat) :
    Instr.choice greedy enter leave ≠ .accept := by
  cases greedy <;> simp [Instr.choice]

theorem nextChoice {greedy : Bool} {enter leave pc : Nat} {s : Progress} {c : Branch} :
    c ∈ (s.branch pc).next text (.choice greedy enter leave) ↔
      c = s.branch enter ∨ c = s.branch leave := by
  cases greedy <;> simp [Instr.choice, Branch.next, Progress.branch, or_comm]

/-- The instructions from `base` on do what a relation says and go on at `next`. -/
structure Performs (p : Program) (text : Haystack) (base next : Nat)
    (R : Progress → Progress → Prop) : Prop where
  leaves {n : Nat} {s : Progress} {last : Branch} : Reaches p text n (s.branch base) last →
    ∃ m ≤ n, ∃ t, R s t ∧ Reaches p text m (t.branch next) last
  enters {s t : Progress} {last : Branch} : R s t → Leads p text (t.branch next) last →
    Leads p text (s.branch base) last

namespace Performs

variable {base mid next : Nat} {R S : Progress → Progress → Prop}

theorem congr (same : ∀ s t, R s t ↔ S s t) (performs : Performs p text base next R) :
    Performs p text base next S := by
  have : R = S := funext fun s => funext fun t => propext (same s t)
  rwa [← this]

theorem stay (p : Program) (text : Haystack) (base : Nat) :
    Performs p text base base fun s t => s = t where
  leaves {n s _} reaches := ⟨n, Nat.le_refl n, s, rfl, reaches⟩
  enters same leads := same ▸ leads

theorem instr {i : Instr} (code : p.code[base]? = some i) (other : i ≠ .accept)
    (follows : ∀ s c, c ∈ (s.branch base).next text i ↔ ∃ t, R s t ∧ c = t.branch next) :
    Performs p text base next R where
  leaves {n s last} reaches := by
    obtain ⟨m, fewer, c, member, onward⟩ := reachesStep code other reaches
    obtain ⟨t, taken, rfl⟩ := (follows s c).mp member
    exact ⟨m, Nat.le_of_lt fewer, t, taken, onward⟩
  enters {s t last} taken leads := .step code ((follows s _).mpr ⟨t, taken, rfl⟩) leads

theorem seq (one : Performs p text base mid R) (two : Performs p text mid next S) :
    Performs p text base next fun s t => ∃ u, R s u ∧ S u t where
  leaves reaches := by
    obtain ⟨m, fewer, u, first, onward⟩ := one.leaves reaches
    obtain ⟨k, least, t, second, further⟩ := two.leaves onward
    exact ⟨k, Nat.le_trans least fewer, t, ⟨u, first, second⟩, further⟩
  enters := by
    intro s t last ⟨u, first, second⟩ leads
    exact one.enters first (two.enters second leads)

theorem choice {greedy : Bool} {enter leave : Nat}
    (code : p.code[base]? = some (.choice greedy enter leave)) (one : Performs p text enter next R)
    (two : Performs p text leave next S) : Performs p text base next fun s t => R s t ∨ S s t where
  leaves {n s last} reaches := by
    obtain ⟨m, fewer, c, member, onward⟩ := reachesStep code (choiceContinues _ _ _) reaches
    rcases nextChoice.mp member with rfl | rfl
    · obtain ⟨k, least, t, taken, further⟩ := one.leaves onward
      exact ⟨k, by omega, t, .inl taken, further⟩
    · obtain ⟨k, least, t, taken, further⟩ := two.leaves onward
      exact ⟨k, by omega, t, .inr taken, further⟩
  enters {s t last} taken leads := by
    cases taken with
    | inl here => exact .step code (nextChoice.mpr (.inl rfl)) (one.enters here leads)
    | inr there => exact .step code (nextChoice.mpr (.inr rfl)) (two.enters there leads)

/- A way round the loop takes steps of the program even where it takes nothing of the text. -/
theorem loop {greedy : Bool} {again first : Nat}
    (code : p.code[again]? = some (.choice greedy first next))
    (inner : Performs p text first again R) :
    Performs p text again next fun s t => ∃ n, Times R n s t where
  leaves {n s last} reaches := by
    induction n using Nat.strongRecOn generalizing s with
    | ind n ih =>
      obtain ⟨m, fewer, c, member, onward⟩ := reachesStep code (choiceContinues _ _ _) reaches
      rcases nextChoice.mp member with rfl | rfl
      · obtain ⟨k, least, u, taken, further⟩ := inner.leaves onward
        obtain ⟨j, fewest, t, ⟨rounds, times⟩, left⟩ := ih k (by omega) further
        exact ⟨j, by omega, t, ⟨rounds + 1, u, taken, times⟩, left⟩
      · exact ⟨m, Nat.le_of_lt fewer, s, ⟨0, rfl⟩, onward⟩
  enters {s t last} taken leads := by
    obtain ⟨rounds, times⟩ := taken
    induction rounds generalizing s with
    | zero =>
      cases times
      exact .step code (nextChoice.mpr (.inr rfl)) leads
    | succ rounds ih =>
      obtain ⟨u, first, rest⟩ := times
      exact .step code (nextChoice.mpr (.inl rfl)) (inner.enters first (ih rest))

section Repeated

variable {part : Nat → Nat → List Instr} {size n : Nat}

theorem copies (length : ∀ base next, (part base next).length = size)
    (inner : ∀ {base next}, Placed p base (part base next) → Performs p text base next R)
    (placed : Placed p base (Pattern.copies part size n base next)) :
    Performs p text (if n = 0 then next else base) next (Times R n) := by
  induction n generalizing base with
  | zero => exact stay p text next
  | succ n ih =>
    rw [copiesSucc, placedAppend, length] at placed
    rw [if_neg (Nat.succ_ne_zero n)]
    exact (inner placed.1).seq (ih placed.2)

theorem optionals {greedy : Bool} (length : ∀ base next, (part base next).length = size)
    (inner : ∀ {base next}, Placed p base (part base next) → Performs p text base next R)
    (placed : Placed p base (Pattern.optionals part size n base next greedy)) :
    Performs p text (if n = 0 then next else base) next fun s t => ∃ k ≤ n, Times R k s t := by
  induction n generalizing base with
  | zero =>
    exact (stay p text next).congr fun s t => timesNone.symm
  | succ n ih =>
    rw [optionalsSucc, placedCons, placedAppend, length, Nat.add_right_comm, Nat.add_assoc] at placed
    obtain ⟨code, first, rest⟩ := placed
    rw [if_neg (Nat.succ_ne_zero n)]
    exact (choice code ((inner first).seq (ih rest)) (stay p text next)).congr fun s t =>
      timesUpTo.symm

end Repeated

end Performs

theorem textCodeLength (cs : List Char) (base next : Nat) :
    (textCode cs base next).length = max cs.length 1 := by
  induction cs generalizing base with
  | nil => rfl
  | cons c rest ih =>
    cases rest with
    | nil => rfl
    | cons d more =>
      have tail := ih (base + 1)
      change (textCode (d :: more) (base + 1) next).length + 1 = _
      simp only [List.length_cons] at tail ⊢
      omega

namespace Expr

theorem codeSizePos (e : Expr) : 0 < e.codeSize := by
  induction e with
  | rep e lo hi greedy ih =>
    cases hi with
    | none =>
      cases lo with
      | zero =>
        simp only [codeSize]
        split <;> omega
      | succ n => exact Nat.succ_pos _
    | some hi =>
      simp only [codeSize]
      split
      · omega
      · next more =>
        have : 0 < (hi - lo) * (e.codeSize + 1) := Nat.mul_pos (by omega) (Nat.succ_pos _)
        omega
  | seq a b one two =>
    simp only [codeSize]
    omega
  | text cs =>
    simp only [codeSize]
    omega
  | _ => simp [codeSize]

theorem codeLength (e : Expr) (base next : Nat) : (e.code base next).length = e.codeSize := by
  induction e generalizing base next with
  | rep e lo hi greedy ih =>
    cases hi with
    | none =>
      cases lo with
      | zero =>
        simp only [code, codeSize]
        split <;> simp [ih]
      | succ n => simp [code, codeSize, ih, copiesLength ih, Nat.succ_mul, Nat.add_assoc]
    | some hi =>
      simp only [code, codeSize]
      split
      · have filled : 0 < e.codeSize := e.codeSizePos
        split
        · next zero => simp [zero]
        · next some =>
          have : 0 < lo * e.codeSize := Nat.mul_pos (Nat.pos_of_ne_zero some) filled
          rw [copiesLength ih]
          omega
      · rw [List.length_append, copiesLength ih, optionalsLength ih]
  | text cs => exact textCodeLength cs base next
  | group index name e ih => simp [code, codeSize, ih]
  | seq a b one two => simp [code, codeSize, one, two]
  | alt a b one two => simp [code, codeSize, one, two]
  | _ => rfl

end Expr

namespace Performs

variable {base next : Nat}

theorem test {i : Instr} {holds : Progress → Prop} [DecidablePred holds]
    {move : Progress → Progress} (code : p.code[base]? = some i) (other : i ≠ .accept)
    (follows : ∀ s : Progress,
      (s.branch base).next text i = if holds s then [(move s).branch next] else []) :
    Performs p text base next fun s t => holds s ∧ t = move s := by
  refine instr code other fun s c => ?_
  rw [follows]
  by_cases given : holds s <;> simp [given]

theorem char {c : Char} (code : p.code[base]? = some (.char c next)) :
    Performs p text base next fun s t => text[s.pos]? = some c ∧ t = ⟨s.pos + 1, s.marks⟩ :=
  test code (by simp) fun _ => rfl

theorem set {members : CharSet} (code : p.code[base]? = some (.set members next)) :
    Performs p text base next ((Expr.set members).Takes text) :=
  test code (by simp) fun _ => rfl

theorem look {l : Look} (code : p.code[base]? = some (.look l next)) :
    Performs p text base next ((Expr.look l).Takes text) :=
  test code (by simp) fun _ => rfl

theorem mark {slot : Nat} (code : p.code[base]? = some (.mark slot next)) :
    Performs p text base next fun s t => t = ⟨s.pos, (slot, s.pos) :: s.marks⟩ := by
  refine instr code (by simp) fun s d => ?_
  simp [Branch.next, Progress.branch]

theorem jump (code : p.code[base]? = some (.jump next)) :
    Performs p text base next (Expr.empty.Takes text) := by
  refine instr code (by simp) fun s d => ?_
  simp [Branch.next, Progress.branch, Expr.Takes]

theorem chars {cs : List Char} (placed : Placed p base (textCode cs base next)) :
    Performs p text base next ((Expr.text cs).Takes text) := by
  induction cs generalizing base with
  | nil => exact (jump (placedCons.mp placed).1).congr fun s t => by simp [Expr.Takes]
  | cons c rest ih =>
    cases rest with
    | nil =>
      refine (char (placedCons.mp placed).1).congr fun s t => ?_
      rw [Expr.takesCons]
      simp [Expr.Takes]
    | cons d more =>
      obtain ⟨code, tail⟩ := placedCons.mp placed
      refine ((char code).seq (ih tail)).congr fun s t => ?_
      rw [Expr.takesCons]
      simp

end Performs

theorem noneBefore (n size base : Nat) : (if n = 0 then base + n * size else base) = base := by
  split
  · next zero => simp [zero]
  · rfl

namespace Expr

theorem codePerforms {e : Expr} {base next : Nat} (placed : Placed p base (e.code base next)) :
    Performs p text base next (e.Takes text) := by
  induction e generalizing base next with
  | empty => exact .jump (placedCons.mp placed).1
  | text cs => exact .chars placed
  | set members => exact .set (placedCons.mp placed).1
  | look l => exact .look (placedCons.mp placed).1
  | group index name e ih =>
    simp only [code, placedCons, placedAppend, codeLength] at placed
    obtain ⟨opening, inside, closing, -⟩ := placed
    refine ((Performs.mark opening).seq ((ih inside).seq (.mark closing))).congr fun s t => ?_
    simp [Takes]
  | seq a b one two =>
    simp only [code, placedAppend, codeLength] at placed
    exact (one placed.1).seq (two placed.2)
  | alt a b one two =>
    simp only [code, placedCons, placedAppend, codeLength] at placed
    obtain ⟨fork, left, right⟩ := placed
    have fork : p.code[base]? = some (.choice true (base + 1) (base + 1 + a.codeSize)) := fork
    exact .choice fork (one left) (two right)
  | rep e lo hi greedy ih =>
    cases hi with
    | none =>
      cases lo with
      | zero =>
        simp only [code] at placed
        split at placed
        · obtain ⟨choice, inside⟩ := placedCons.mp placed
          exact (Performs.loop choice (ih inside)).congr fun s t => by simp [takesUnbounded, Times]
        · simp only [placedCons, placedAppend, codeLength] at placed
          obtain ⟨choice, inside, again, -⟩ := placed
          -- the first choice is met once, the second after every round
          have once := (ih inside).seq (Performs.loop again (ih inside))
          refine (Performs.choice choice once (.stay p text next)).congr fun s t => ?_
          rw [← timesAny]
          simp [takesUnbounded, Times]
      | succ n =>
        simp only [code, placedCons, placedAppend, codeLength, copiesLength e.codeLength] at placed
        obtain ⟨front, last, again, -⟩ := placed
        have before := Performs.copies e.codeLength ih front
        rw [noneBefore] at before
        have enough := (before.seq (ih last)).congr fun s t => timesSnoc.symm
        exact (enough.seq (.loop again (ih last))).congr fun s t => takesUnbounded.symm
    | some hi =>
      simp only [code] at placed
      split at placed
      · next fewer =>
        have exactly : ∀ s t, Times (e.Takes text) lo s t ↔
            (Expr.rep e lo (some hi) greedy).Takes text s t := by
          intro s t
          simp only [takesBounded, Nat.sub_eq_zero_of_le fewer, timesNone]
          simp
        split at placed
        · next zero =>
          subst zero
          refine (Performs.jump (placedCons.mp placed).1).congr fun s t => ?_
          rw [← exactly]
          exact eq_comm
        · next some =>
          have all := Performs.copies e.codeLength ih placed
          rw [if_neg some] at all
          exact all.congr exactly
      · next more =>
        simp only [placedAppend, copiesLength e.codeLength] at placed
        have before := Performs.copies e.codeLength ih placed.1
        have behind := Performs.optionals e.codeLength ih placed.2
        rw [noneBefore] at before
        rw [if_neg (by omega)] at behind
        exact (before.seq behind).congr fun s t => takesBounded.symm

theorem programPlaced (e : Expr) : Placed e.program 0 (e.code 0 e.codeSize) ∧
    e.program.code[e.codeSize]? = some .accept := by
  have whole : Placed e.program 0 (e.code 0 e.codeSize ++ [.accept]) := List.prefix_rfl
  rw [placedAppend, placedCons, codeLength, Nat.zero_add] at whole
  exact ⟨whole.1, whole.2.1⟩

theorem programLeads {e : Expr} {s : Progress} {last : Branch} :
    Leads e.program text (s.branch 0) last ↔
      ∃ t, e.Takes text s t ∧ last = t.branch e.codeSize := by
  obtain ⟨placed, accept⟩ := programPlaced e
  have performs : Performs e.program text 0 e.codeSize (e.Takes text) := codePerforms placed
  constructor
  · intro leads
    obtain ⟨n, reaches⟩ := leadsReaches.mp leads
    obtain ⟨m, -, t, takes, onward⟩ := performs.leaves reaches
    refine ⟨t, takes, ?_⟩
    cases leadsReaches.mpr ⟨m, onward⟩ with
    | accept done => rfl
    | step code follows further =>
      cases accept.symm.trans code
      contradiction
  · intro ⟨t, takes, ends⟩
    rw [ends]
    exact performs.enters takes (.accept accept)

theorem programMatches {e : Expr} {m : Match} : e.program.Matches text m ↔ e.Matches text m := by
  constructor
  · intro matched
    obtain ⟨pc, leads⟩ := matched.leads
    obtain ⟨t, takes, ends⟩ := (programLeads (s := ⟨m.start, []⟩)).mp leads
    obtain ⟨-, stop, marks⟩ := Branch.mk.inj ends
    refine ⟨matched.within, ?_⟩
    rw [stop, marks]
    exact takes
  · intro matched
    exact ⟨matched.within, e.codeSize, programLeads.mpr ⟨_, matched.takes, rfl⟩⟩

end Expr

end Codemod.Pattern
