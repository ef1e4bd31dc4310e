import Codemod.Execution
import Codemod.Proofs.Composition
import Codemod.Proofs.Emptiness
import Codemod.Proofs.Interleaving
import Codemod.Proofs.Literal

/-!
Texts in which nothing is replaced. Every rule but the first is applied to what others have left, yet
a rule set counts nothing if and only if none of its rules has a match in the text as it was: up to
the first rule that has one, there is nothing that could have changed. So a file that a run reports as
changed has one replacement at least. The converse fails, for replacements may cancel out.
-/
namespace Codemod

namespace Pattern

variable {p : Program} {text : Haystack}

theorem findAllNone : p.findAll text = [] ↔ ∀ m, ¬p.Matches text m := by
  have finds := findFinds p text 0
  unfold Program.findAll matchesFrom nextMatch?
  cases found : p.find? text 0 with
  | none =>
    rw [found] at finds
    exact iff_of_true rfl fun m matched => Nat.not_lt_zero _ (finds m matched)
  | some m =>
    rw [found] at finds
    refine iff_of_false ?_ fun none => none m finds.matched
    simp

end Pattern

open Pattern

def RuleDef.Occurs (d : RuleDef) (content : String) : Prop :=
  if d.literal then d.pattern.toList <:+: content.toList
  else ∃ e m, Expr.read d.pattern.toList = .ok e ∧ e.Matches content.toList.toArray m

namespace Rule

variable {d : RuleDef} {r : Rule}

theorem applyNone (r : Rule) (content : String) :
    (r.apply content).2 = 0 ↔ ∀ m, ¬r.pattern.program.Matches content.toList.toArray m := by
  have applied := applyFound r content
  simp only at applied
  rw [applied, List.length_eq_zero_iff, findAllNone]

theorem occursText {cs : List Char} (filled : cs ≠ []) (text : List Char) :
    cs <:+: text ↔ ∃ m, (Expr.text cs).program.Matches text.toArray m := by
  simp only [matchesText filled]
  constructor
  · rintro ⟨front, back, rfl⟩
    refine ⟨⟨front.length, front.length + cs.length, []⟩, rfl, ?_⟩
    simp
  · rintro ⟨m, -, starts⟩
    exact starts.isInfix.trans (List.drop_suffix m.start _).isInfix

theorem compiledOccurs [Engine] (compiled : compile d = .ok r) (content : String) :
    d.Occurs content ↔ ∃ m, r.pattern.program.Matches content.toList.toArray m := by
  unfold RuleDef.Occurs
  split
  · next literal =>
    have filled : d.pattern.toList ≠ [] := fun empty => compileNothing literal empty r compiled
    have plain := compileLiteral literal filled
    rw [compiled] at plain
    split at plain <;> try contradiction
    cases plain
    exact occursText filled content.toList
  · next regex =>
    have origin := compileSource compiled
    have reads : Expr.read d.pattern.toList = .ok r.pattern.expr := by
      have text : source d = d.pattern.toList := if_neg regex
      exact text ▸ origin.reads
    rw [origin.program]
    simp only [Expr.programMatches]
    constructor
    · rintro ⟨e, m, again, matched⟩
      cases reads.symm.trans again
      exact ⟨m, matched⟩
    · rintro ⟨m, matched⟩
      exact ⟨_, m, reads, matched⟩

theorem applyOccurs [Engine] (compiled : compile d = .ok r) (content : String) :
    (r.apply content).2 = 0 ↔ ¬d.Occurs content := by
  rw [applyNone, compiledOccurs compiled, not_exists]

end Rule

namespace RuleTable

theorem applyRulesNone (rules : List Rule) (content : String) :
    (rules.foldl applyRule ⟨content, 0⟩).replacements = 0 ↔ ∀ r ∈ rules, (r.apply content).2 = 0 := by
  induction rules with
  | nil => simp
  | cons r rest ih =>
    rw [List.foldl_cons, applyRulesFrom, List.forall_mem_cons, ← ih]
    simp only [applyRule, Nat.zero_add, Nat.add_eq_zero_iff]
    refine and_congr_right fun idle => ?_
    rw [applyNothing idle]

theorem applyRulesIdle {rules : List Rule} {content : String}
    (idle : ∀ r ∈ rules, (r.apply content).2 = 0) :
    rules.foldl applyRule ⟨content, 0⟩ = ⟨content, 0⟩ := by
  induction rules with
  | nil => rfl
  | cons r rest ih =>
    obtain ⟨first, others⟩ := List.forall_mem_cons.mp idle
    have still : applyRule ⟨content, 0⟩ r = ⟨content, 0⟩ := by
      simp [applyRule, first, applyNothing first]
    rw [List.foldl_cons, still, ih others]

end RuleTable

theorem appliesOccur [Engine] {defs : List RuleDef} {rules : List Rule} (content : String)
    (each : List.Forall₂ (fun d r => Rule.compile d = .ok r) defs rules) :
    (∀ r ∈ rules, (r.apply content).2 = 0) ↔ ∀ d ∈ defs, ¬d.Occurs content := by
  induction each with
  | nil => simp
  | cons one others ih =>
    rw [List.forall_mem_cons, List.forall_mem_cons, ih, Rule.applyOccurs one]

namespace RuleSet

theorem editIdle {s : RuleSet} {path : RelPath} {content : String}
    (none : (s.edit path content).replacements = 0) : (s.edit path content).content = content := by
  rw [editPlain] at none ⊢
  rw [RuleTable.applyRulesIdle ((RuleTable.applyRulesNone _ _).mp none)]

theorem editOccurs [Engine] {rules : List RuleDef} {scopes : List ScopeDef} {s : RuleSet}
    (compiled : compile rules scopes = .ok s) (path : RelPath) (content : String) :
    (s.edit path content).replacements = 0 ↔
      ∀ d ∈ definitionsFor rules scopes path, ¬d.Occurs content := by
  rw [editPlain, RuleTable.applyRulesNone, appliesOccur content (compileFor compiled path)]

end RuleSet

def FileOutcome.Counted (o : FileOutcome) : Prop :=
  ∀ n written, o.outcome = .changed n written → 1 ≤ n

def FileTask.Counted (task : FileTask) : Prop := task.changed = true → 1 ≤ task.replacements

namespace Migration

variable {m : Migration} {t : Tree}

theorem editCounted (s : RuleSet) (t : Tree) (e : FileEntry) : (s.editFile t e).Counted := by
  have edits := editing s t e
  generalize s.editFile t e = task at edits
  cases edits with
  | unread reading => exact nofun
  | garbled reading decoding => exact nofun
  | @text bytes cs w reading decoding edited =>
    intro changed
    by_contra few
    have none : (s.edit e.relative (String.ofList cs)).replacements = 0 := by
      rw [edited]
      simpa using few
    have same := RuleSet.editIdle none
    rw [edited] at same
    simp [same] at changed

theorem settleCounted (m : Migration) (t : Tree) {task : FileTask} (counted : task.Counted) :
    (m.settle t task).1.Counted := by
  intro n written outcome
  simp only [settle, commit] at outcome
  split at outcome <;> try contradiction
  split at outcome <;> try contradiction
  next changed =>
  have enough := counted changed
  split at outcome
  · cases outcome
    exact enough
  · split at outcome <;> try contradiction
    cases outcome
    exact enough

theorem processCounted (m : Migration) (t : Tree) (e : FileEntry) : (m.process t e).1.Counted :=
  settleCounted m t (editCounted m.rules t e)

theorem failureCounted (root : Path) (e : DiscoveryError) : (walkFailure root e).Counted := nofun

theorem processFoundCounted (m : Migration) (root : Path) (t : Tree) (found : List Found) :
    ∀ o ∈ (m.processFound root t found).1, o.Counted := by
  induction found generalizing t with
  | nil => simp [processFound]
  | cons one rest ih =>
    cases one with
    | error e => exact List.forall_mem_cons.mpr ⟨failureCounted root e, ih t⟩
    | ok e => exact List.forall_mem_cons.mpr ⟨processCounted m t e, ih _⟩

theorem sweepCounted (m : Migration) (root : Path) (fuel : Nat) (t : Tree) (w : Walk) :
    ∀ o ∈ (m.sweep root fuel t w).1, o.Counted := by
  induction fuel generalizing t w with
  | zero => simp [sweep]
  | succ fuel ih =>
    unfold sweep
    split
    · simp
    · split
      · exact ih _ _
      · next e _ => exact List.forall_mem_cons.mpr ⟨failureCounted root e, ih _ _⟩
      · next e _ => exact List.forall_mem_cons.mpr ⟨processCounted m t e, ih _ _⟩

def jobCounted : Job → Prop
  | (_, .waiting) => True
  | (_, .edited task) => task.Counted
  | (_, .settled o) => o.Counted

theorem stepCounted {state next : List Job × Tree} (step : Step m state next)
    (counted : ∀ job ∈ state.1, jobCounted job) : ∀ job ∈ next.1, jobCounted job := by
  cases step with
  | edit before later e t =>
    simp only [List.forall_mem_append, List.forall_mem_cons] at counted ⊢
    exact ⟨counted.1, editCounted m.rules t e, counted.2.2⟩
  | settle before later e task t =>
    simp only [List.forall_mem_append, List.forall_mem_cons] at counted ⊢
    exact ⟨counted.1, settleCounted m t counted.2.1, counted.2.2⟩

theorem stepsCounted {state last : List Job × Tree}
    (steps : Relation.ReflTransGen (Step m) state last)
    (counted : ∀ job ∈ state.1, jobCounted job) : ∀ job ∈ last.1, jobCounted job := by
  induction steps with
  | refl => exact counted
  | tail _ step ih => exact stepCounted step ih

theorem interleavedCounted {entries : List FileEntry} {os : List FileOutcome} {last : Tree}
    (interleaved : Interleaved m t entries os last) : ∀ o ∈ os, o.Counted := by
  obtain ⟨jobs, steps, settled⟩ := interleaved
  have counted := stepsCounted steps (by simp [jobCounted])
  intro o member
  have stage : Stage.settled o ∈ jobs.map Prod.snd := settled ▸ List.mem_map_of_mem member
  obtain ⟨⟨e, _⟩, inside, rfl⟩ := List.mem_map.mp stage
  exact counted _ inside

theorem reportCounted (m : Migration) {os : List FileOutcome} (counted : ∀ o ∈ os, o.Counted) :
    ∀ o ∈ (m.report os).outcomes, o.Counted := fun o member =>
  counted o ((Report.outcomesPerm m.dryRun os).subset member)

inductive Reported [Engine] : Report → Prop where
  | files (m : Migration) (t : Tree) (entries : List FileEntry) : Reported (m.run t entries).1
  | found (m : Migration) (root : Path) (t : Tree) (found : List Found) :
      Reported (m.runFound root t found).1
  | workers {m : Migration} {t last : Tree} {found : List Found} {os : List FileOutcome} (root : Path)
      (interleaved : Interleaved m t (found.filterMap foundFile?) os last) :
      Reported (m.report (found.filterMap (foundFailure? root) ++ os))
  | migrated {m : Migration} {t last : Tree} {root : Path} {f : Filter} {parallel : Bool}
      {report : Report} (ran : m.migrate t root f parallel = .ok (report, last)) : Reported report
  | executed {t last : Tree} {o : RunOptions} {dryRun : Bool} {c : Config} {report : Report}
      (ran : Execution.execute t o dryRun = .ok ((c, report), last)) : Reported report

theorem workersCounted {found : List Found} {os : List FileOutcome} {last : Tree} (root : Path)
    (interleaved : Interleaved m t (found.filterMap foundFile?) os last) :
    ∀ o ∈ (m.report (found.filterMap (foundFailure? root) ++ os)).outcomes, o.Counted := by
  refine reportCounted m (List.forall_mem_append.mpr ⟨?_, interleavedCounted interleaved⟩)
  intro o member
  obtain ⟨one, -, failure⟩ := List.mem_filterMap.mp member
  cases one with
  | error e =>
    cases failure
    exact failureCounted root e
  | ok e => cases failure

theorem migrateCounted {root : Path} {f : Filter} {parallel : Bool} {report : Report} {last : Tree}
    (ran : m.migrate t root f parallel = .ok (report, last)) : ∀ o ∈ report.outcomes, o.Counted := by
  obtain ⟨w, -, rest⟩ := bindOk.mp ran
  cases parallel with
  | true =>
    cases rest
    exact workersCounted root (processAllInterleaved m t _)
  | false =>
    obtain rfl : m.report (m.sweep root (Walk.limit t) t w).1 = report :=
      congrArg Prod.fst (Except.ok.inj rest)
    exact reportCounted m (sweepCounted m root _ t w)

theorem reportedCounted [Engine] {report : Report} (reported : Reported report) :
    ∀ o ∈ report.outcomes, o.Counted := by
  cases reported with
  | files m t entries => exact reportCounted m (interleavedCounted (processAllInterleaved m t entries))
  | found m root t found => exact reportCounted m (processFoundCounted m root t found)
  | workers root interleaved => exact workersCounted root interleaved
  | migrated ran => exact migrateCounted ran
  | executed ran =>
    unfold Execution.execute at ran
    split at ran <;> try contradiction
    dsimp only at ran
    split at ran <;> try contradiction
    next migrated =>
    cases ran
    exact migrateCounted migrated

theorem processUnaltered {e : FileEntry} {bytes : Bytes} {cs : List Char}
    (reading : t.read e.path = .ok bytes) (decoding : Utf8.decode bytes = .ok cs)
    (same : (m.rules.edit e.relative (String.ofList cs)).content = String.ofList cs) :
    m.process t e = (⟨e.path, e.relative, .unchanged⟩, t) := by
  simp [process, settle, RuleSet.editFile, reading, decoding, same]

def undoing : List RuleDef := [⟨"a", "b", true⟩, ⟨"b", "a", true⟩]

def lone : Tree := ⟨.dir [("f", .file [97] 420)], []⟩

def undone : RuleSet :=
  ⟨⟨RuleSet.globalName, undoing.map fun d =>
    ⟨d, .text d.pattern.toList, (Pattern.Expr.text d.pattern.toList).program⟩⟩, []⟩

theorem undoingCompiled [Engine] (first : Engine.fits ['a'] = true) (second : Engine.fits ['b'] = true) :
    RuleSet.compile undoing [] = .ok undone := by
  have one := Rule.compileText (d := ⟨"a", "b", true⟩) rfl (by decide) first
  have other := Rule.compileText (d := ⟨"b", "a", true⟩) rfl (by decide) second
  have table : RuleTable.compile RuleSet.globalName undoing = .ok undone.global :=
    RuleTable.compileEach.mpr ⟨rfl, .cons one (.cons other .nil)⟩
  rw [RuleSet.compile, table]
  rfl

set_option maxRecDepth 100000 in
theorem undoingUnaltered (dryRun : Bool) :
    ((⟨undone, dryRun⟩ : Migration).run lone [⟨⟨"f"⟩, ⟨"f"⟩⟩]).1.outcomes =
      [⟨⟨"f"⟩, ⟨"f"⟩, .unchanged⟩] := by
  have edited : undone.edit ⟨"f"⟩ "a" = ⟨"a", 2⟩ := by decide +kernel
  have reading : lone.read ⟨"f"⟩ = .ok [97] := by decide +kernel
  have decoding : Utf8.decode [97] = .ok ['a'] := by decide +kernel
  have processed := processUnaltered (m := ⟨undone, dryRun⟩) (e := ⟨⟨"f"⟩, ⟨"f"⟩⟩) reading decoding
    (congrArg Edited.content edited)
  simp [run, processAll, processed, report, Report.ofOutcomesEq]

end Migration

namespace RuleSet

/-- A rule set counts nothing if and only if none of the rules for a file has a match in its text, and
then the text stays as it is. So in the report of any run a changed file has been counted once at
least. That a file is unchanged does not mean as much: what was replaced in it may have been put back,
as two rules do that take one letter each. -/
theorem noneReplaced [Engine] {rules : List RuleDef} {scopes : List ScopeDef} {s : RuleSet}
    (compiled : compile rules scopes = .ok s) (path : RelPath) (content : String) :
    ((s.edit path content).replacements = 0 ↔
        ∀ d ∈ definitionsFor rules scopes path, ¬d.Occurs content) ∧
      ((s.edit path content).replacements = 0 → (s.edit path content).content = content) ∧
      (∀ report, Migration.Reported report → ∀ o ∈ report.outcomes, ∀ n written,
        o.outcome = .changed n written → 1 ≤ n) ∧
      (Engine.fits ['a'] = true → Engine.fits ['b'] = true →
        ∃ (defs : List RuleDef) (m : Migration) (t : Tree) (e : FileEntry) (bytes : Bytes)
            (cs : List Char),
          compile defs [] = .ok m.rules ∧ t.read e.path = .ok bytes ∧ Utf8.decode bytes = .ok cs ∧
            1 ≤ (m.rules.edit e.relative (String.ofList cs)).replacements ∧
            (m.run t [e]).1.outcomes = [⟨e.path, e.relative, .unchanged⟩]) := by
  refine ⟨editOccurs compiled path content, editIdle, fun _ => Migration.reportedCounted,
    fun first second => ?_⟩
  refine ⟨Migration.undoing, ⟨Migration.undone, false⟩, Migration.lone, ⟨⟨"f"⟩, ⟨"f"⟩⟩, [97], ['a'],
    Migration.undoingCompiled first second, ?_, ?_, ?_, Migration.undoingUnaltered false⟩
  · decide +kernel
  · decide +kernel
  · decide +kernel

open Engine in
set_option maxRecDepth 100000 in
theorem noneReplacedLayered :
    ∃ s, compile layered.1 layered.2 = .ok s ∧
      s.edit ⟨"m.rs"⟩ "xyz" = ⟨"xyz", 0⟩ ∧ s.edit ⟨"m.rs"⟩ "xay" = ⟨"xcy", 3⟩ ∧
      (∀ d ∈ definitionsFor layered.1 layered.2 ⟨"m.rs"⟩, ¬d.Occurs "xyz") ∧
      ∃ d ∈ definitionsFor layered.1 layered.2 ⟨"m.rs"⟩, d.Occurs "xay" := by
  have edits : (compile layered.1 layered.2).toOption.map
      (fun s => (s.edit ⟨"m.rs"⟩ "xyz", s.edit ⟨"m.rs"⟩ "xay")) = some (⟨"xyz", 0⟩, ⟨"xcy", 3⟩) := by
    decide +kernel
  obtain ⟨s, compiled, edited⟩ := Rule.okOfMap edits
  obtain ⟨idle, busy⟩ := Prod.mk.inj edited
  have unmatched := (noneReplaced compiled ⟨"m.rs"⟩ "xyz").1
  have matched := (noneReplaced compiled ⟨"m.rs"⟩ "xay").1
  rw [idle] at unmatched
  rw [busy] at matched
  refine ⟨s, compiled, idle, busy, unmatched.mp rfl, ?_⟩
  by_contra none
  simp only [not_exists, not_and] at none
  exact absurd (matched.mpr none) (by decide)

end RuleSet

end Codemod
