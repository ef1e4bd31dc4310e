import Codemod.Proofs.Emptiness
import Codemod.Proofs.Preference

/-!
A rule replaces all matches of its pattern, and nothing else. Its text falls into gaps and matches.
Each match is the one that is found at the first place behind the match before it, and no match
begins in a gap, both with the whole of the text around them; what comes out are the gaps as they
were, with the expanded template in the place of each match.
-/
namespace Codemod

namespace Pattern

variable {e : Expr} {text : Haystack} {start : Nat}

/-- The match that is found from `start` on: it begins where the first of them do, and of those that
begin there it is the one that the program prefers. -/
structure Expr.Chosen (e : Expr) (text : Haystack) (start : Nat) (m : Match) : Prop where
  matched : e.Matches text m
  behind : start ≤ m.start
  leftmost : ∀ other, e.Matches text other → start ≤ other.start → m.start ≤ other.start
  preferred : ∃ pc, Prefers e.program text [] ⟨0, m.start, []⟩ ⟨pc, m.stop, m.marks⟩

theorem Expr.Chosen.unique {m n : Match} (one : e.Chosen text start m)
    (two : e.Chosen text start n) : m = n := by
  have order := one.leftmost n two.matched two.behind
  have start : m.start = n.start := Nat.le_antisymm order (two.leftmost m one.matched one.behind)
  obtain ⟨pc, here⟩ := one.preferred
  obtain ⟨pc', there⟩ := two.preferred
  rw [start] at here
  have same := here.unique there
  have stop : m.stop = n.stop := congrArg Branch.pos same
  have marks : m.marks = n.marks := congrArg Branch.marks same
  calc m = ⟨m.start, m.stop, m.marks⟩ := rfl
    _ = n := by rw [start, stop, marks]

theorem findChosen {m : Match} (found : e.program.find? text start = some m) :
    e.Chosen text start m := by
  have finds := findFinds e.program text start
  rw [found] at finds
  refine ⟨Expr.programMatches.mp finds.matched, finds.behind, fun other matched => ?_,
    findPrefers found⟩
  exact finds.leftmost other (Expr.programMatches.mpr matched)

structure Stretch where
  gap : List Char
  found : Match

inductive Parted (e : Expr) (text : Haystack) : Nat → List Stretch → List Char → Prop where
  | last {start : Nat} (none : ∀ m, e.Matches text m → m.start < start) :
      Parted e text start [] (text.toList.drop start)
  | next {start : Nat} {m : Match} {rest : List Stretch} {tail : List Char}
      (chosen : e.Chosen text start m) (onward : Parted e text m.stop rest tail) :
      Parted e text start (⟨(text.extract start m.start).toList, m⟩ :: rest) tail

def joined (put : Match → List Char) (parts : List Stretch) (tail : List Char) : List Char :=
  parts.flatMap (fun part => part.gap ++ put part.found) ++ tail

def Match.span (text : Haystack) (m : Match) : List Char := (text.extract m.start m.stop).toList

namespace Parted

variable {parts others : List Stretch} {tail rest : List Char}

theorem unique (one : Parted e text start parts tail) (two : Parted e text start others rest) :
    parts = others ∧ tail = rest := by
  induction one generalizing others with
  | last none =>
    cases two with
    | last => exact ⟨rfl, rfl⟩
    | next chosen _ =>
      have before := none _ chosen.matched
      have behind := chosen.behind
      omega
  | next chosen onward ih =>
    cases two with
    | last none =>
      have before := none _ chosen.matched
      have behind := chosen.behind
      omega
    | next chosen' onward' =>
      cases chosen.unique chosen'
      obtain ⟨rfl, rfl⟩ := ih onward'
      exact ⟨rfl, rfl⟩

theorem whole (parted : Parted e text start parts tail)
    (forward : ∀ m, e.Matches text m → m.start ≤ m.stop) :
    joined (Match.span text) parts tail = text.toList.drop start := by
  induction parted with
  | last none => rfl
  | @next start m parts tail chosen onward ih =>
    calc joined (Match.span text) (⟨(text.extract start m.start).toList, m⟩ :: parts) tail
        = (text.extract start m.start).toList ++
            (m.span text ++ joined (Match.span text) parts tail) := by simp [joined]
      _ = (text.extract start m.start).toList ++
            ((text.extract m.start m.stop).toList ++ text.toList.drop m.stop) := by
          rw [ih, Match.span]
      _ = (text.extract start m.start).toList ++ text.toList.drop m.start := by
          rw [extractDrop (forward m chosen.matched)]
      _ = text.toList.drop start := extractDrop chosen.behind

end Parted

theorem Program.Found.parted {found : List Match} (trail : e.program.Found text start found) :
    ∃ parts tail, Parted e text start parts tail ∧ parts.map Stretch.found = found := by
  induction trail with
  | @nil start none =>
    have finds := findFinds e.program text start
    rw [none] at finds
    exact ⟨[], _, .last fun m matched => finds m (Expr.programMatches.mpr matched), rfl⟩
  | @cons start m rest found onward ih =>
    obtain ⟨parts, tail, parted, rfl⟩ := ih
    exact ⟨_, tail, .next (findChosen found) parted, rfl⟩

end Pattern

namespace Rule

open Pattern

variable {d : RuleDef} {e : Expr} {r : Rule}

theorem replaceJoined (r : Rule) {text : Haystack} {start : Nat} {parts : List Stretch}
    {tail : List Char} (parted : Parted e text start parts tail) :
    r.replaceFrom text start (parts.map Stretch.found) =
      joined (r.replacementFor text) parts tail := by
  induction parted with
  | @last start none => exact extractRest text start
  | @next start m parts tail chosen onward ih =>
    rw [List.map_cons, replaceFrom, ih]
    simp [joined]

theorem Compiled.parted [Engine] (compiled : Compiled d r) (possible : r.pattern.expr.possible = true)
    (content : String) :
    let text := content.toList.toArray
    ∃ parts tail, Parted r.pattern.expr text 0 parts tail ∧
      joined (Match.span text) parts tail = content.toList ∧
      r.apply content = (String.ofList (joined (r.replacementFor text) parts tail), parts.length) := by
  intro text
  have trail := findAllFound (compiled.solid possible text)
  rw [compiled.program] at trail
  obtain ⟨parts, tail, parted, found⟩ := trail.parted
  have whole := parted.whole fun m matched => Nat.le_of_lt (matched.solid possible compiled.filled)
  have applied := applyFound r content
  simp only at applied
  rw [compiled.program, ← found, replaceJoined r parted, List.length_map] at applied
  exact ⟨parts, tail, parted, whole, applied⟩

/-- A rule takes its text apart at the matches of its pattern, in the only way there is, and puts the
expanded template in the place of each. The count is that of the matches; if there are none, the text
comes back as it was. -/
theorem matchesReplaced [Engine] (regex : d.literal = false) (reads : Expr.read d.pattern.toList = .ok e)
    (possible : e.possible = true) (compiled : compile d = .ok r) (content : String) :
    let text := content.toList.toArray
    ∃ parts tail, Parted e text 0 parts tail ∧
      (∀ others rest, Parted e text 0 others rest → others = parts ∧ rest = tail) ∧
      content.toList = joined (Match.span text) parts tail ∧
      (r.apply content).1.toList = joined (fun m =>
        Template.expand (r.pattern.groupText text m) d.replacement.toList) parts tail ∧
      (r.apply content).2 = parts.length ∧
      (parts = [] → r.apply content = (content, 0)) := by
  intro text
  have origin := compileSource compiled
  rw [← origin.read regex reads] at possible ⊢
  obtain ⟨parts, tail, parted, whole, applied⟩ := origin.parted possible content
  have put : r.replacementFor text =
      fun m => Template.expand (r.pattern.groupText text m) d.replacement.toList := by
    funext m
    rw [replacementFor, origin.definition, if_neg (by simp [regex])]
  refine ⟨parts, tail, parted, fun _ _ other => other.unique parted, whole.symm, ?_, ?_, ?_⟩
  · rw [applied, put, String.toList_ofList]
  · rw [applied]
  · rintro rfl
    have same : tail = content.toList := whole
    rw [applied, joined, same]
    simp

def adjacent : RuleDef := ⟨"^a(b)?|c", "<$1>", false⟩

open Engine in
set_option maxRecDepth 100000 in
theorem matchesReplacedAdjacent :
    ∃ e r parts tail, adjacent.literal = false ∧ Expr.read adjacent.pattern.toList = .ok e ∧
      e.possible = true ∧ compile adjacent = .ok r ∧ r.apply "abacc" = ("<b>a<><>", 3) ∧
      Parted e "abacc".toList.toArray 0 parts tail ∧ parts.length = 3 ∧
      "abacc".toList = joined (Match.span "abacc".toList.toArray) parts tail ∧
      "<b>a<><>".toList = joined (fun m =>
        Template.expand (r.pattern.groupText "abacc".toList.toArray m) "<$1>".toList) parts tail := by
  have read : (Expr.read adjacent.pattern.toList).toOption.map Expr.possible = some true := by
    decide +kernel
  have applied : (compile adjacent).toOption.map (·.apply "abacc") = some ("<b>a<><>", 3) := by
    decide +kernel
  obtain ⟨e, reads, possible⟩ := okOfMap read
  obtain ⟨r, compiled, result⟩ := okOfMap applied
  obtain ⟨parts, tail, parted, -, whole, put, count, -⟩ :=
    matchesReplaced rfl reads possible compiled "abacc"
  rw [result] at put count
  exact ⟨e, r, parts, tail, rfl, reads, possible, compiled, result, parted, count.symm, whole, put⟩

end Rule

end Codemod
