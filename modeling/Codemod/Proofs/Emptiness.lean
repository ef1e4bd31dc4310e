import Codemod.Proofs.Layout
import Codemod.Proofs.Template

/-!
Rules whose pattern may match nothing are refused. What is looked at is the least length of a match,
computed from the parts of the pattern; it is right about every pattern without a class that has no
members. So a rule that was accepted takes a character for everything that it replaces.
-/
namespace Codemod

namespace Pattern

variable {e : Expr} {text : Haystack}

theorem Expr.Matches.solid {m : Match} (matched : e.Matches text m) (possible : e.possible = true)
    (filled : e.minLength ≠ some 0) : m.start < m.stop := by
  obtain ⟨n, least⟩ := Expr.minLengthPossible possible
  have taken : m.start + n ≤ m.stop := Expr.takesLength least matched.takes
  have some : n ≠ 0 := by
    intro zero
    rw [zero] at least
    exact filled least
  omega

theorem emptyMatched (possible : e.possible = true) (free : e.lookFree = true) :
    e.minLength = some 0 ↔ ∃ m, e.Matches #[] m := by
  constructor
  · intro least
    obtain ⟨t, takes, -⟩ := Expr.takesNothing free least #[] ⟨0, []⟩
    exact ⟨⟨0, t.pos, t.marks⟩, Nat.le_refl 0, takes⟩
  · intro ⟨m, matched⟩
    obtain ⟨n, least⟩ := Expr.minLengthPossible possible
    have taken : m.start + n ≤ m.stop := Expr.takesLength least matched.takes
    have inside : m.stop ≤ 0 := (Expr.programMatches.mpr matched).inside
    rw [least, show n = 0 by omega]

def covered : List Match → Nat
  | [] => 0
  | m :: rest => m.stop - m.start + covered rest

theorem Program.Series.matched {p : Program} {start : Nat} {found : List Match}
    (series : p.Series text start found) : ∀ m ∈ found, p.Matches text m := by
  induction series with
  | nil last => simp
  | cons first onward ih => exact List.forall_mem_cons.mpr ⟨first.matched, ih⟩

theorem Program.Series.taken {p : Program} {start : Nat} {found : List Match}
    (series : p.Series text start found) (solid : ∀ m, p.Matches text m → m.start < m.stop)
    (within : start ≤ text.size) :
    start + covered found ≤ text.size := by
  induction series with
  | nil last => exact within
  | @cons start m rest first onward ih =>
    have behind := first.behind
    have filled := solid m first.matched
    have more := ih first.matched.inside
    rw [covered]
    omega

theorem Program.Series.lengthTaken {p : Program} {start : Nat} {found : List Match}
    (series : p.Series text start found) (solid : ∀ m, p.Matches text m → m.start < m.stop) :
    found.length ≤ covered found := by
  induction series with
  | nil last => exact Nat.le_refl 0
  | @cons start m rest first onward ih =>
    have filled := solid m first.matched
    rw [List.length_cons, covered]
    omega

end Pattern

namespace Rule

open Pattern

variable {d : RuleDef} {e : Expr} {r : Rule}

structure Compiled [Engine] (d : RuleDef) (r : Rule) : Prop where
  definition : r.definition = d
  reads : Expr.read (source d) = .ok r.pattern.expr
  fits : Engine.fits (source d) = true
  program : r.pattern.program = r.pattern.expr.program
  filled : r.pattern.expr.minLength ≠ some 0

theorem compileSource [Engine] (compiled : compile d = .ok r) : Compiled d r := by
  cases reads : Expr.read (source d) with
  | error fault => simp [compile, Pattern.compile, reads, bind, Except.bind] at compiled
  | ok e =>
    rw [compileRead reads] at compiled
    split at compiled <;> try contradiction
    next fits =>
    split at compiled <;> try contradiction
    next filled =>
    have same : r = ⟨d, e, e.program⟩ := by
      split at compiled
      · exact (Except.ok.inj compiled).symm
      · split at compiled <;> try contradiction
        exact (Except.ok.inj compiled).symm
    subst same
    exact ⟨rfl, reads, by simpa using fits, rfl, filled⟩

theorem Compiled.read [Engine] (compiled : Compiled d r) (regex : d.literal = false)
    (reads : Expr.read d.pattern.toList = .ok e) : r.pattern.expr = e := by
  have again := compiled.reads
  rw [sourceRegex regex, reads] at again
  exact (Except.ok.inj again).symm

theorem compileEmpty [Engine] (reads : Expr.read (source d) = .ok e) :
    compile d = .error .matchesEmpty ↔ Engine.fits (source d) = true ∧ e.minLength = some 0 := by
  rw [compileRead reads]
  cases Engine.fits (source d) with
  | false => simp
  | true =>
    by_cases empty : e.minLength = some 0
    · simp [empty]
    · simp only [empty, Bool.true_eq_false, if_false, and_false, iff_false]
      split
      · simp
      · split <;> simp

theorem Compiled.solid [Engine] (compiled : Compiled d r) (possible : r.pattern.expr.possible = true)
    (text : Haystack) (m : Match) (matched : r.pattern.program.Matches text m) :
    m.start < m.stop := by
  rw [compiled.program, Expr.programMatches] at matched
  exact matched.solid possible compiled.filled

def found (r : Rule) (content : String) : List Match :=
  r.pattern.program.findAll content.toList.toArray

/-- The check for empty matches is right about every pattern without an empty class. No match of a rule
that it accepts is empty, so what the rule replaces takes a character each time, all of them within
the text. Of patterns without conditions, as far as the engine takes them, it refuses just those that
match the empty text. -/
theorem emptinessJudged [Engine] (regex : d.literal = false) (reads : Expr.read d.pattern.toList = .ok e)
    (possible : e.possible = true) :
    (∀ r, compile d = .ok r →
      (∀ text m, e.Matches text m → m.start < m.stop) ∧
        ∀ content : String,
          (∀ m ∈ r.found content, e.Matches content.toList.toArray m) ∧
            (r.apply content).2 = (r.found content).length ∧
            (r.apply content).2 ≤ covered (r.found content) ∧
            covered (r.found content) ≤ content.length) ∧
      (e.lookFree = true →
        (compile d = .error .matchesEmpty ↔
          Engine.fits d.pattern.toList = true ∧ ∃ m, e.Matches #[] m)) := by
  constructor
  · intro r accepted
    have compiled := compileSource accepted
    rw [← compiled.read regex reads] at possible ⊢
    refine ⟨fun text m matched => matched.solid possible compiled.filled, fun content => ?_⟩
    have solid := compiled.solid possible content.toList.toArray
    have series : r.pattern.program.Series content.toList.toArray 0 (r.found content) :=
      findAllSeries solid
    have count : (r.apply content).2 = (r.found content).length := by
      rw [applyFound]
      rfl
    have inside := series.taken solid (Nat.zero_le _)
    rw [Nat.zero_add, List.size_toArray, String.length_toList] at inside
    refine ⟨fun m member => ?_, count, ?_, inside⟩
    · rw [← Expr.programMatches, ← compiled.program]
      exact series.matched m member
    · rw [count]
      exact series.lengthTaken solid
  · intro free
    rw [← sourceRegex regex] at reads ⊢
    rw [compileEmpty reads, emptyMatched possible free]

def filledEach : RuleDef := ⟨"^(?:b??|a\x7b0\x7d)c|(?:d*e)\x7b1,2\x7d", "", false⟩

def skippable : RuleDef := ⟨"c|(?:d*e)??", "", false⟩

open Engine in
set_option maxRecDepth 100000 in
theorem emptinessJudgedNested :
    (∃ e r, Expr.read filledEach.pattern.toList = .ok e ∧ e.possible = true ∧
      compile filledEach = .ok r ∧ (∀ text m, e.Matches text m → m.start < m.stop) ∧
      (r.apply "bc-deecc").2 = 2 ∧ 2 ≤ covered (r.found "bc-deecc")) ∧
    ∃ e m, Expr.read skippable.pattern.toList = .ok e ∧ e.possible = true ∧ e.lookFree = true ∧
      Engine.fits skippable.pattern.toList = true ∧ e.Matches #[] m ∧ compile skippable = .error .matchesEmpty := by
  constructor
  · have evaluates : (Expr.read filledEach.pattern.toList).toOption.map Expr.possible = some true ∧
        (compile filledEach).toOption.map (fun r => (r.apply "bc-deecc").2) = some 2 := by
      decide +kernel
    obtain ⟨e, reads, possible⟩ := okOfMap evaluates.1
    obtain ⟨r, compiled, count⟩ := okOfMap evaluates.2
    obtain ⟨filled, taken⟩ := (emptinessJudged rfl reads possible).1 r compiled
    obtain ⟨-, -, each, -⟩ := taken "bc-deecc"
    rw [count] at each
    exact ⟨e, r, reads, possible, compiled, filled, count, each⟩
  · let e : Expr :=
      .alt (.text ['c']) (.rep (.seq (.rep (.text ['d']) 0 none true) (.text ['e'])) 0 (some 1) false)
    have reads : Expr.read skippable.pattern.toList = .ok e := by decide +kernel
    have possible : e.possible = true := by decide
    have free : e.lookFree = true := by decide
    have fits : Engine.fits skippable.pattern.toList = true := by decide +kernel
    obtain ⟨m, matched⟩ := (emptyMatched possible free).mp (by decide)
    have refused := ((emptinessJudged rfl reads possible).2 free).mpr ⟨fits, m, matched⟩
    exact ⟨e, m, reads, possible, free, fits, matched, refused⟩

def overgrown : RuleDef := ⟨"(?:a\x7b0,10000\x7d)\x7b0,10000\x7d", "b", false⟩

open Engine in
set_option maxRecDepth 100000 in
theorem emptinessUnseenOvergrown :
    ∃ e m, Expr.read overgrown.pattern.toList = .ok e ∧ e.possible = true ∧ e.lookFree = true ∧
      e.Matches #[] m ∧ compile overgrown = .error (.pattern .size) ∧
      compile overgrown ≠ .error .matchesEmpty := by
  let e : Expr := .rep (.rep (.text ['a']) 0 (some 10000) true) 0 (some 10000) true
  have reads : Expr.read overgrown.pattern.toList = .ok e := by decide +kernel
  have possible : e.possible = true := by decide
  have free : e.lookFree = true := by decide
  have large : Engine.fits overgrown.pattern.toList = false := by decide +kernel
  obtain ⟨m, matched⟩ := (emptyMatched possible free).mp (by decide)
  have refused : compile overgrown = .error (.pattern .size) := by
    have text : source overgrown = overgrown.pattern.toList := sourceRegex rfl
    rw [compileRead (text ▸ reads), text, if_pos large]
  exact ⟨e, m, reads, possible, free, matched, refused, by simp [refused]⟩

end Rule

end Codemod
