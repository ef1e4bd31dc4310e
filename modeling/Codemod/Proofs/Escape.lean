import Codemod.Pattern
import Mathlib.Data.List.Basic

/-!
An escaped text is a pattern for that text. Every character is read as one that stands for itself,
with a backslash before it or without, and what these parts mean joins to the text as a whole.
-/
namespace Codemod.Pattern

def plainLiteral (c : Char) : Tree := .literal ⟨c, false⟩

theorem readEscapeMeta {c : Char} (sign : isMeta c = true) (verbose : Bool) (rest : List Char) :
    readEscape verbose (c :: rest) = .ok (plainLiteral c, rest) := by
  simp only [isMeta, List.contains_eq_mem, List.mem_cons, List.not_mem_nil, or_false,
    decide_eq_true_eq] at sign
  rcases sign with rfl | rfl | rfl | rfl | rfl | rfl | rfl | rfl | rfl | rfl | rfl | rfl | rfl | rfl |
    rfl | rfl | rfl | rfl <;> rfl

namespace State

theorem stepEscaped {c : Char} (sign : isMeta c = true) (s : State) (rest : List Char) :
    s.step '\\' (c :: rest) = .ok (s.push (plainLiteral c) rest) := by
  simp only [step, readEscapeMeta sign, bind, Except.bind]

theorem stepPlain {c : Char} (plain : isMeta c = false) (s : State) (rest : List Char) :
    s.step c rest = .ok (s.push (plainLiteral c) rest) := by
  unfold step
  split
  case h_13 => rfl
  all_goals contradiction

theorem stepsEscaped {cs : List Char} {n : Nat} (enough : cs.length < n) (s : State)
    (terse : s.verbose = false) (rest : s.rest = escape cs) :
    s.steps n = .ok { s with rest := [], parts := (cs.map plainLiteral).reverse ++ s.parts } := by
  induction cs generalizing n s with
  | nil =>
    obtain ⟨n, rfl⟩ := Nat.exists_eq_succ_of_ne_zero (Nat.ne_of_gt enough)
    obtain ⟨_, parts, frames, _, groups, names⟩ := s
    cases terse
    cases rest
    rfl
  | cons c cs ih =>
    obtain ⟨n, rfl⟩ := Nat.exists_eq_succ_of_ne_zero (Nat.ne_of_gt (Nat.zero_lt_of_lt enough))
    have step : s.steps (n + 1) = (s.push (plainLiteral c) (escape cs)).steps n := by
      cases sign : isMeta c with
      | true =>
        simp only [steps, skip, terse, rest, escape, sign, if_true, Bool.false_eq_true, if_false,
          stepEscaped sign, bind, Except.bind]
      | false =>
        simp only [steps, skip, terse, rest, escape, sign, Bool.false_eq_true, if_false,
          stepPlain sign, bind, Except.bind]
    rw [step, ih (Nat.lt_of_succ_lt_succ enough) (s.push (plainLiteral c) (escape cs)) terse rfl]
    simp [push]

end State

theorem escapeLength (cs : List Char) : cs.length ≤ (escape cs).length := by
  induction cs with
  | nil => exact Nat.le_refl _
  | cons c rest ih =>
    unfold escape
    split <;> simp <;> omega

theorem depthsPlain (cs : List Char) : Tree.depths (cs.map plainLiteral) = 0 := by
  induction cs with
  | nil => simp [Tree.depths]
  | cons c rest ih => simp [Tree.depths, Tree.depth, plainLiteral, ih]

theorem depthPlain (cs : List Char) : (Tree.ofParts (cs.map plainLiteral)).depth ≤ 1 := by
  match cs with
  | [] => simp [Tree.ofParts, Tree.depth]
  | [c] => simp [Tree.ofParts, Tree.depth, plainLiteral]
  | c :: d :: rest =>
    have flat := depthsPlain (c :: d :: rest)
    simp only [List.map_cons] at flat
    simp [Tree.ofParts, Tree.depth, flat]

theorem readEscaped (cs : List Char) :
    Tree.read (escape cs) = .ok (Tree.ofParts (cs.map plainLiteral)) := by
  have enough : cs.length < (escape cs).length + 1 := Nat.lt_succ_of_le (escapeLength cs)
  have shallow : ¬nestLimit < (Tree.ofParts (cs.map plainLiteral)).depth := by
    have := depthPlain cs
    unfold nestLimit
    omega
  simp [Tree.read, State.stepsEscaped enough { rest := escape cs } rfl rfl, bind, Except.bind,
    State.finish, State.sequence, shallow]

theorem meaningPlain (fs : Flags) (c : Char) (sensitive : fs.caseInsensitive = false) :
    (plainLiteral c).meaning fs = .ok (.text [c], fs) := by
  simp [plainLiteral, Tree.meaning, Flags.literal, Flags.checkLiteral, sensitive, bind, Except.bind]

theorem meaningsPlain (fs : Flags) (cs : List Char) (sensitive : fs.caseInsensitive = false) :
    Tree.meanings fs (cs.map plainLiteral) = .ok (cs.map fun c => .text [c], fs) := by
  induction cs with
  | nil => simp [Tree.meanings]
  | cons c rest ih => simp [Tree.meanings, meaningPlain fs c sensitive, ih, bind, Except.bind]

theorem fuseTexts (c : Char) (cs : List Char) :
    Expr.fuse ((c :: cs).map fun c => .text [c]) = [.text (c :: cs)] := by
  induction cs generalizing c with
  | nil => rfl
  | cons d rest ih =>
    have tail := ih d
    rw [List.map_cons, Expr.fuse.eq_def]
    simp only [tail]
    rfl

theorem concatTexts (c : Char) (cs : List Char) :
    Expr.concat ((c :: cs).map fun c => .text [c]) = .text (c :: cs) := by
  have parts : ((c :: cs).map fun c => Expr.text [c]).flatMap Expr.parts =
      (c :: cs).map fun c => .text [c] := by
    rw [List.flatMap_map]
    exact (List.map_eq_flatMap).symm
  rw [Expr.concat, parts, fuseTexts]
  rfl

theorem exprEscaped {cs : List Char} (filled : cs ≠ []) : Expr.read (escape cs) = .ok (.text cs) := by
  have meaning : (Tree.ofParts (cs.map plainLiteral)).meaning {} = .ok (.text cs, {}) := by
    match cs with
    | [] => contradiction
    | [c] => exact meaningPlain {} c rfl
    | c :: d :: rest =>
      have parts := meaningsPlain {} (c :: d :: rest) rfl
      simp only [List.map_cons] at parts
      have joined := concatTexts c (d :: rest)
      simp only [List.map_cons] at joined
      simp [Tree.ofParts, Tree.meaning, parts, joined, bind, Except.bind]
  simp [Expr.read, readEscaped, meaning, bind, Except.bind]

end Codemod.Pattern
