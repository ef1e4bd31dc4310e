import Codemod.Proofs.Descent
import Codemod.Proofs.Glob

/-!
How a location is read that consists of plain parts with slashes between them. A part of two stars
takes in the slash behind it, and it turns the slash before it into a token for any number of
directories; several of them in a row come to the same token. What opens the next part is all that a
reader has to know of the parts before it.
-/
namespace Codemod.Glob

def crossing : List Char := ['*', '*']

structure Ordinary (part : List Char) : Prop where
  filled : part ≠ []
  plain : ∀ c ∈ part, c ∉ ['[', ']', '\x7b', '\x7d', '\\']
  single : ¬crossing <:+: part

def IsPart (part : List Char) : Prop := part = crossing ∨ Ordinary part

theorem Ordinary.other {part : List Char} (ordinary : Ordinary part) : part ≠ crossing := by
  rintro rfl
  exact ordinary.single List.infix_rfl

theorem ordinaryOnce {part : List Char} (filled : part ≠ [])
    (plain : ∀ c ∈ part, c ∉ ['[', ']', '\x7b', '\x7d', '\\']) (once : part.count '*' ≤ 1) :
    Ordinary part := by
  refine ⟨filled, plain, fun inside => ?_⟩
  have twice : crossing.count '*' ≤ part.count '*' := inside.sublist.count_le '*'
  exact absurd (Nat.le_trans twice once) (by decide)

def tokenOf (c : Char) : Token := if c = '?' then .any else if c = '*' then .star else .literal c

theorem stepToken {s : State} {c : Char} {rest : List Char} (outer : s.outer = [])
    (plain : c ∉ ['[', ']', '\x7b', '\x7d', '\\']) (single : c = '*' → rest.head? ≠ some '*') :
    s.step c rest = .ok (s.push (tokenOf c) c rest) := by
  unfold State.step
  split
  · rfl
  · split
    · exact absurd rfl (single rfl)
    · rfl
  · simp at plain
  · simp at plain
  · simp at plain
  · rw [outer]
    rfl
  · simp at plain
  · next wild star _ _ _ _ _ =>
    have token : tokenOf c = .literal c := by rw [tokenOf, if_neg wild, if_neg star]
    rw [token]

def Yields (s : State) (ts : List Token) : Prop :=
  ∃ last, (∀ n, s.rest.length ≤ n → s.steps n = .ok last) ∧ last.outer = [] ∧ last.tokens.reverse = ts

theorem yieldsDone {s : State} (done : s.rest = []) (outer : s.outer = []) :
    Yields s s.tokens.reverse := by
  refine ⟨s, fun n _ => ?_, outer, rfl⟩
  cases n with
  | zero => rfl
  | succ n => simp only [State.steps, done]

theorem yieldsStep {s next : State} {c : Char} {rest : List Char} {ts : List Token}
    (here : s.rest = c :: rest) (stepped : s.step c rest = .ok next)
    (shorter : next.rest.length ≤ rest.length) (yields : Yields next ts) : Yields s ts := by
  obtain ⟨last, reads, outer, tokens⟩ := yields
  refine ⟨last, fun n enough => ?_, outer, tokens⟩
  cases n with
  | zero => simp [here] at enough
  | succ n =>
    rw [here, List.length_cons, Nat.add_le_add_iff_right] at enough
    simp only [State.steps, here, stepped]
    exact reads n (Nat.le_trans shorter enough)

theorem yieldsTokens {options : Options} {cs : List Char} {ts : List Token}
    (yields : Yields { rest := cs, options := options } ts) : readTokens options cs = .ok ts := by
  obtain ⟨last, reads, outer, tokens⟩ := yields
  rw [readTokens, reads cs.length (Nat.le_refl _)]
  simp [bind, Except.bind, outer, tokens]

theorem yieldsPart {part tail : List Char} {ts : List Token} {s : State} (here : s.rest = part ++ tail)
    (outer : s.outer = []) (plain : ∀ c ∈ part, c ∉ ['[', ']', '\x7b', '\x7d', '\\'])
    (single : ¬crossing <:+: part) (apart : tail.head? ≠ some '*')
    (onward : ∀ next : State, next.rest = tail → next.outer = [] →
      next.tokens = (part.map tokenOf).reverse ++ s.tokens → Yields next ts) : Yields s ts := by
  induction part generalizing s with
  | nil => exact onward s here outer rfl
  | cons c more ih =>
    obtain ⟨own, others⟩ := List.forall_mem_cons.mp plain
    have alone : c = '*' → (more ++ tail).head? ≠ some '*' := by
      rintro rfl same
      cases more with
      | nil => exact apart same
      | cons d more =>
        cases Option.some.inj same
        exact single (List.prefix_append crossing more).isInfix
    have further : ¬crossing <:+: more := fun inside =>
      single (inside.trans (List.suffix_cons c more).isInfix)
    refine yieldsStep here (stepToken outer own alone) (Nat.le_refl _) ?_
    refine ih rfl outer others further fun next rest outer tokens => ?_
    refine onward next rest outer ?_
    rw [tokens]
    simp [State.push]

/-- What stands before a part: nothing, directories from the beginning on, a slash, or directories
between slashes. -/
inductive Opening where
  | start
  | leading
  | slash
  | inner

namespace Opening

def tokens : Opening → List Token
  | .start => []
  | .leading => [.leadingDirs]
  | .slash => [.literal '/']
  | .inner => [.innerDirs]

def across : Opening → Opening
  | .start | .leading => .leading
  | .slash | .inner => .inner

def closing : Opening → Token
  | .start | .leading => .leadingDirs
  | .slash | .inner => .trailingDirs

end Opening

def laid : Opening → List (List Char) → List Token
  | _, [] => []
  | o, part :: rest =>
    if part = crossing then if rest = [] then [o.closing] else laid o.across rest
    else o.tokens ++ part.map tokenOf ++ laid .slash rest

/-- The state of a reader that comes to a part; `before` are the tokens before the opening, last
first. -/
structure Opened (o : Opening) (before : List Token) (s : State) : Prop where
  tokens : s.tokens = o.tokens ++ before
  outer : s.outer = []
  behind : o ≠ .start → s.prev = some '/'
  first : o = .start → before = []

theorem twoStarsLast {o : Opening} {before : List Token} {s : State} (opened : Opened o before s) :
    (s.twoStars []).tokens = o.closing :: before ∧ (s.twoStars []).outer = [] ∧
      (s.twoStars []).rest = [] := by
  have tokens := opened.tokens
  have outer := opened.outer
  cases o with
  | start =>
    cases opened.first rfl
    have empty : s.tokens = [] := tokens
    simp [State.twoStars, empty, outer, Opening.closing]
  | leading | slash | inner =>
    have prev := opened.behind (by simp)
    simp [State.twoStars, tokens, outer, prev, Opening.tokens, Opening.closing]

theorem twoStarsSlash {o : Opening} {before : List Token} {s : State} (opened : Opened o before s)
    (rest : List Char) :
    Opened o.across before (s.twoStars ('/' :: rest)) ∧ (s.twoStars ('/' :: rest)).rest = rest := by
  have tokens := opened.tokens
  have outer := opened.outer
  cases o with
  | start =>
    cases opened.first rfl
    have empty : s.tokens = [] := tokens
    refine ⟨⟨?_, ?_, ?_, by simp [Opening.across]⟩, ?_⟩ <;>
      simp [State.twoStars, empty, outer, Opening.across, Opening.tokens]
  | leading | slash | inner =>
    have prev := opened.behind (by simp)
    refine ⟨⟨?_, ?_, ?_, by simp [Opening.across]⟩, ?_⟩ <;>
      simp [State.twoStars, tokens, outer, prev, Opening.across, Opening.tokens]

theorem openingReversed (o : Opening) : o.tokens.reverse = o.tokens := by
  cases o <;> rfl

theorem yieldsLaid {parts : List (List Char)} {o : Opening} {before : List Token} {s : State}
    (given : parts ≠ []) (known : ∀ part ∈ parts, IsPart part) (opened : Opened o before s)
    (here : s.rest = Path.unsegments parts) : Yields s (before.reverse ++ laid o parts) := by
  induction parts generalizing o before s with
  | nil => exact absurd rfl given
  | cons part rest ih =>
    obtain ⟨own, others⟩ := List.forall_mem_cons.mp known
    rcases own with rfl | ordinary
    · by_cases last : rest = []
      · subst last
        have starred : s.rest = ['*', '*'] := here
        obtain ⟨tokens, outer, done⟩ := twoStarsLast opened
        have yields := yieldsDone done outer
        rw [tokens, List.reverse_cons] at yields
        rw [laid, if_pos rfl, if_pos rfl]
        exact yieldsStep starred rfl (by rw [done]; exact Nat.zero_le _) yields
      · rw [Path.unsegmentsCons crossing last] at here
        have starred : s.rest = '*' :: '*' :: '/' :: Path.unsegments rest := here
        obtain ⟨further, behind⟩ := twoStarsSlash opened (Path.unsegments rest)
        rw [laid, if_pos rfl, if_neg last]
        refine yieldsStep starred rfl ?_ (ih last others further behind)
        rw [behind]
        simp only [List.length_cons]
        omega
    · rw [laid, if_neg ordinary.other]
      by_cases last : rest = []
      · subst last
        have whole : s.rest = part ++ [] := by rw [List.append_nil]; exact here
        refine yieldsPart whole opened.outer ordinary.plain ordinary.single (by simp)
          fun next done outer tokens => ?_
        have yields := yieldsDone done outer
        rw [tokens, opened.tokens] at yields
        simpa [openingReversed, laid] using yields
      · rw [Path.unsegmentsCons part last] at here
        refine yieldsPart here opened.outer ordinary.plain ordinary.single (by simp)
          fun next done outer tokens => ?_
        refine yieldsStep done (stepToken outer (by decide) (by simp)) (Nat.le_refl _) ?_
        have further : Opened .slash ((part.map tokenOf).reverse ++ o.tokens ++ before)
            (next.push (tokenOf '/') '/' (Path.unsegments rest)) := by
          refine ⟨?_, outer, fun _ => rfl, by simp⟩
          rw [List.append_assoc, ← opened.tokens, ← tokens]
          rfl
        have yields := ih last others further rfl
        simpa [openingReversed] using yields

theorem readLaid {options : Options} {cs : List Char}
    (known : ∀ part ∈ Path.segments cs, IsPart part) :
    readTokens options cs = .ok (laid .start (Path.segments cs)) := by
  have opened : Opened .start [] { rest := cs, options := options } := ⟨rfl, rfl, by simp, fun _ => rfl⟩
  exact yieldsTokens
    (yieldsLaid (Path.segmentsNonempty cs) known opened (Path.unsegmentsSegments cs).symm)

end Codemod.Glob
