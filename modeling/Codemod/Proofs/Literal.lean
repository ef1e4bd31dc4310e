import Codemod.Proofs.Escape
import Codemod.Proofs.Layout
import Codemod.Proofs.Template
import Codemod.Utf8

/-!
Literal rules are plain replacement of a text. The pattern is escaped, read, laid out as a program and
looked for like any other; what comes of it is a scan from left to right that replaces an occurrence
wherever there is one, goes on behind it, and copies all else.
-/
namespace Codemod

namespace Pattern

variable {cs : List Char} {text : Haystack}

theorem matchesText (filled : cs ≠ []) {m : Match} :
    (Expr.text cs).program.Matches text m ↔
      m = ⟨m.start, m.start + cs.length, []⟩ ∧ cs <+: text.toList.drop m.start := by
  rw [Expr.programMatches]
  constructor
  · intro matched
    obtain ⟨starts, ends⟩ := matched.takes
    have stop : m.stop = m.start + cs.length := congrArg Progress.pos ends
    have marks : m.marks = [] := congrArg Progress.marks ends
    rw [← stop, ← marks]
    exact ⟨rfl, starts⟩
  · rintro ⟨shape, starts⟩
    have within : m.start < text.size := by
      rw [← Array.length_toList, ← Nat.sub_pos_iff_lt, ← List.length_drop]
      exact Nat.lt_of_lt_of_le (List.length_pos_iff.mpr filled) starts.length_le
    refine ⟨Nat.le_of_lt within, starts, ?_⟩
    rw [shape]

end Pattern

/-- A scan of a text from left to right. Where an occurrence of the pattern begins it is replaced and
the scan goes on behind it; any other character is copied. -/
inductive Substituted (pattern replacement : List Char) : List Char → List Char → Nat → Prop where
  | nil : Substituted pattern replacement [] [] 0
  | copied {c : Char} {rest out : List Char} {n : Nat} (other : ¬pattern <+: c :: rest)
      (onward : Substituted pattern replacement rest out n) :
      Substituted pattern replacement (c :: rest) (c :: out) n
  | replaced {rest out : List Char} {n : Nat} (onward : Substituted pattern replacement rest out n) :
      Substituted pattern replacement (pattern ++ rest) (replacement ++ out) (n + 1)

namespace Substituted

variable {pattern replacement : List Char}

theorem unique (filled : pattern ≠ []) {text out out' : List Char} {n n' : Nat}
    (one : Substituted pattern replacement text out n)
    (other : Substituted pattern replacement text out' n') : out = out' ∧ n = n' := by
  induction one generalizing out' n' with
  | nil =>
    generalize whole : ([] : List Char) = text at other
    cases other with
    | nil => exact ⟨rfl, rfl⟩
    | copied => cases whole
    | replaced => exact absurd (List.append_eq_nil_iff.mp whole.symm).1 filled
  | @copied c rest out n apart onward ih =>
    generalize whole : c :: rest = text at other
    cases other with
    | nil => cases whole
    | copied _ onward' =>
      cases whole
      obtain ⟨rfl, rfl⟩ := ih onward'
      exact ⟨rfl, rfl⟩
    | replaced => exact absurd (whole ▸ List.prefix_append _ _) apart
  | @replaced rest out n onward ih =>
    generalize whole : pattern ++ rest = text at other
    cases other with
    | nil => exact absurd (List.append_eq_nil_iff.mp whole).1 filled
    | copied apart => exact absurd (whole ▸ List.prefix_append _ _) apart
    | replaced onward' =>
      cases List.append_cancel_left whole
      obtain ⟨rfl, rfl⟩ := ih onward'
      exact ⟨rfl, rfl⟩

theorem skip {gap rest out : List Char} {n : Nat}
    (free : ∀ k < gap.length, ¬pattern <+: (gap ++ rest).drop k)
    (onward : Substituted pattern replacement rest out n) :
    Substituted pattern replacement (gap ++ rest) (gap ++ out) n := by
  induction gap with
  | nil => exact onward
  | cons c gap ih =>
    refine .copied (free 0 (Nat.zero_lt_succ _)) (ih fun k less => ?_)
    exact free (k + 1) (Nat.succ_lt_succ less)

end Substituted

namespace Rule

open Pattern

variable {d : RuleDef} {cs : List Char} {text : Haystack}

theorem replaceSubstituted {r : Rule} (literal : r.definition.literal = true) (filled : cs ≠ [])
    {start : Nat} {found : List Match} (series : (Expr.text cs).program.Series text start found) :
    Substituted cs r.definition.replacement.toList (text.toList.drop start)
      (r.replaceFrom text start found) found.length := by
  have occurs : ∀ {i}, cs <+: text.toList.drop i →
      (Expr.text cs).program.Matches text ⟨i, i + cs.length, []⟩ := fun starts =>
    (matchesText filled).mpr ⟨rfl, starts⟩
  induction series with
  | @nil start last =>
    have free : ∀ k < (text.toList.drop start).length,
        ¬cs <+: (text.toList.drop start ++ []).drop k := by
      intro k _ starts
      rw [List.append_nil, List.drop_drop] at starts
      have before : start + k < start := last _ (occurs starts)
      omega
    rw [replaceFrom, extractRest]
    simpa using Substituted.skip free .nil
  | @cons start m rest first onward ih =>
    obtain ⟨shape, starts⟩ := (matchesText filled).mp first.matched
    have stop : m.stop = m.start + cs.length := by rw [shape]
    have behind : text.toList.drop m.start = cs ++ text.toList.drop m.stop := by
      rw [stop, ← List.drop_drop]
      exact (List.prefix_iff_eq_append.mp starts).symm
    have free : ∀ k < (text.extract start m.start).toList.length,
        ¬cs <+: ((text.extract start m.start).toList ++ text.toList.drop m.start).drop k := by
      intro k less starts
      rw [extractDrop first.behind, List.drop_drop] at starts
      have before : m.start ≤ start + k :=
        first.leftmost _ (occurs starts) (Nat.le_add_right start k)
      rw [Array.length_toList, Array.size_extract] at less
      omega
    rw [← extractDrop first.behind, replaceFrom, replacementFor, if_pos literal, List.append_assoc,
      List.length_cons]
    refine .skip free ?_
    rw [behind]
    exact .replaced ih

theorem compileEscaped [Engine] (escaped : source d = escape cs) (filled : cs ≠ [])
    (asks : d.literal = true ∨ Template.references d.replacement.toList = []) :
    Rule.compile d =
      if Engine.fits (escape cs) = false then .error (.pattern .size)
      else .ok ⟨d, .text cs, (Expr.text cs).program⟩ := by
  have reads : Expr.read (source d) = .ok (.text cs) := by rw [escaped, exprEscaped filled]
  have solid : (Expr.text cs).minLength ≠ some 0 := by simpa [Expr.minLength] using filled
  rw [compileRead reads, if_neg solid, escaped]
  rcases asks with literal | nothing
  · rw [if_pos literal]
  · simp [nothing]

theorem compileLiteral [Engine] (literal : d.literal = true) (filled : d.pattern.toList ≠ []) :
    Rule.compile d =
      if Engine.fits (escape d.pattern.toList) = false then .error (.pattern .size)
      else .ok ⟨d, .text d.pattern.toList, (Expr.text d.pattern.toList).program⟩ :=
  compileEscaped (if_pos literal) filled (.inl literal)

theorem compileText [Engine] (literal : d.literal = true) (filled : d.pattern.toList ≠ [])
    (small : Engine.fits (escape d.pattern.toList) = true) :
    Rule.compile d =
      .ok ⟨d, ⟨.text d.pattern.toList, (Expr.text d.pattern.toList).program⟩⟩ := by
  rw [compileLiteral literal filled, if_neg (by simp [small])]

theorem compileNothing [Engine] (literal : d.literal = true) (empty : d.pattern.toList = []) (r : Rule) :
    Rule.compile d ≠ .ok r := by
  have reads : Expr.read (source d) = .ok .empty := by
    rw [source, if_pos literal, empty]
    rfl
  rw [compileRead reads, if_pos (show Expr.empty.minLength = some 0 from rfl)]
  split <;> simp

theorem applySubstituted (literal : d.literal = true) (filled : cs ≠ []) (content : String) :
    let r : Rule := ⟨d, ⟨.text cs, (Expr.text cs).program⟩⟩
    Substituted cs d.replacement.toList content.toList (r.apply content).1.toList
      (r.apply content).2 := by
  intro r
  have solid : ∀ m, (Expr.text cs).program.Matches content.toList.toArray m → m.start < m.stop := by
    intro m matched
    obtain ⟨shape, -⟩ := (matchesText filled).mp matched
    have taken := List.length_pos_iff.mpr filled
    have stop : m.stop = m.start + cs.length := by rw [shape]
    omega
  have scanned := replaceSubstituted (r := r) literal filled (findAllSeries solid)
  rw [applyFound, String.toList_ofList]
  exact scanned

/-- A literal rule compiles unless its pattern is empty, whatever signs it holds and whatever its
replacement refers to. What it makes of a text and how much it counts are those of a scan that
replaces every occurrence which does not overlap the one before it. -/
theorem literalSubstitutes [Engine] (literal : d.literal = true)
    (small : Engine.fits (escape d.pattern.toList) = true) :
    ((∃ r, Rule.compile d = .ok r) ↔ d.pattern ≠ "") ∧
      ∀ r, Rule.compile d = .ok r → ∀ content out n, r.apply content = (out, n) ↔
        Substituted d.pattern.toList d.replacement.toList content.toList out.toList n := by
  by_cases filled : d.pattern.toList = []
  · have refused := compileNothing literal filled
    have empty : d.pattern = "" := String.toList_eq_nil_iff.mp filled
    refine ⟨⟨fun ⟨r, compiled⟩ => ?_, fun some => absurd empty some⟩, ?_⟩
    · exact absurd compiled (refused r)
    · intro r compiled
      exact absurd compiled (refused r)
  · have accepted := compileText literal filled small
    refine ⟨⟨fun _ empty => filled (String.toList_eq_nil_iff.mpr empty), fun _ => ⟨_, accepted⟩⟩, ?_⟩
    intro r compiled content out n
    cases accepted.symm.trans compiled
    have scanned := applySubstituted literal filled content
    constructor
    · intro applied
      simpa [applied] using scanned
    · intro other
      obtain ⟨text, count⟩ := scanned.unique filled other
      exact Prod.ext (String.toList_inj.mp text) count

def starred : RuleDef := ⟨"*.*", "$1", true⟩

open Engine in
set_option maxRecDepth 100000 in
theorem literalSubstitutesStarred :
    starred.literal = true ∧ Engine.fits (escape starred.pattern.toList) = true ∧
      ∃ r, Rule.compile starred = .ok r ∧ r.apply "*.*.*.*é*.*" = ("$1.$1é$1", 3) ∧
        Substituted "*.*".toList "$1".toList "*.*.*.*é*.*".toList "$1.$1é$1".toList 3 := by
  have small : Engine.fits (escape starred.pattern.toList) = true := by decide +kernel
  obtain ⟨compiles, scans⟩ := literalSubstitutes (d := starred) rfl small
  obtain ⟨r, compiled⟩ := compiles.mpr (by decide)
  have scanned : Substituted "*.*".toList "$1".toList "*.*.*.*é*.*".toList "$1.$1é$1".toList 3 :=
    .replaced (.copied (by decide) (.replaced (.copied (by decide) (.replaced .nil))))
  exact ⟨rfl, small, r, compiled, (scans r compiled _ _ _).mpr scanned, scanned⟩

end Rule

end Codemod
