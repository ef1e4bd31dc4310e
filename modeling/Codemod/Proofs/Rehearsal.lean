import Codemod.Proofs.Apply
import Codemod.Proofs.Parallel

/-!
Runs that only say what they would do. As long as no file is to be changed, such a run and one that
writes see the same tree, so the first of these files is the same for both. Whether there is one
shows in the exit code of the check. The reports are the same if the walk of the run that writes is
not disturbed.
-/
namespace Codemod

def Outcome.unwritten : Outcome → Outcome
  | .changed replacements _ => .changed replacements false
  | o => o

def FileOutcome.unwritten (o : FileOutcome) : FileOutcome := { o with outcome := o.outcome.unwritten }

def Report.rehearsed (r : Report) : Report :=
  { r with outcomes := r.outcomes.map FileOutcome.unwritten, dryRun := true }

theorem FileOutcome.unwrittenKind (o : FileOutcome) :
    o.unwritten.isChanged = o.isChanged ∧ o.unwritten.isUnchanged = o.isUnchanged ∧
      o.unwritten.isFailed = o.isFailed := by
  obtain ⟨path, relative, outcome⟩ := o
  cases outcome <;> exact ⟨rfl, rfl, rfl⟩

theorem Report.ofUnwritten (dry : Bool) (os : List FileOutcome) :
    ofOutcomes true (os.map FileOutcome.unwritten) = (ofOutcomes dry os).rehearsed := by
  have outcomes := ofOutcomesMap true os (g := FileOutcome.unwritten) (fun _ => rfl) fun _ => rfl
  simp only [ofOutcomesEq] at outcomes
  simp only [rehearsed, ofOutcomesEq, outcomes, List.countP_map, Function.comp_def,
    FileOutcome.unwrittenKind]

namespace Migration

open Walk

variable {m : Migration} {w : Walk} {t last : Tree} {root : Path} {f : Filter} {agenda : List Visit}
  {items others : List WalkItem} {os ps : List FileOutcome} {e : FileEntry}

theorem outcomeTask (m : Migration) (t : Tree) (root : Path) (e : FileEntry) :
    (m.outcomeIn t root (.ok e)).outcome =
      match (m.rules.editFile t e).error with
      | some error => .failed error
      | none =>
        if (m.rules.editFile t e).changed then
          .changed (m.rules.editFile t e).replacements (!m.dryRun)
        else .unchanged := by
  have edits := editing m.rules t e
  generalize m.rules.editFile t e = task at edits
  cases edits with
  | unread reading => simp [outcomeIn, outcomeOf, reading]
  | garbled reading decoding => simp [outcomeIn, outcomeOf, reading, decoding]
  | text reading decoding edited => simp [outcomeIn, outcomeOf, reading, decoding, edited]

theorem outcomeRehearsed (m : Migration) (t : Tree) (root : Path) (found : Found) :
    m.rehearsal.outcomeIn t root found = (m.outcomeIn t root found).unwritten := by
  cases found with
  | error e => rfl
  | ok e =>
    have dry := outcomeTask m.rehearsal t root e
    have wet := outcomeTask m t root e
    simp only [outcomeIn, rehearsal, FileOutcome.unwritten] at dry wet ⊢
    rw [dry, wet]
    cases (m.rules.editFile t e).error with
    | some error => rfl
    | none =>
      by_cases changed : (m.rules.editFile t e).changed = true
      · simp only [changed, if_true, Outcome.unwritten, Bool.not_true]
      · simp only [changed, Bool.false_eq_true, if_false, Outcome.unwritten]

theorem Migrated.rehearsed {found : List Found} {report other : Report} {final : Tree}
    (one : Migrated m t root found report last)
    (two : Migrated m.rehearsal t root found other final) : other = report.rehearsed := by
  rw [two.report, one.report, Migration.report, Migration.report, ← Report.ofUnwritten, List.map_map]
  congr 2
  exact funext (outcomeRehearsed m t root)

theorem failedUnchanged {s : RuleSet} {error : FileError} (failed : (s.editFile t e).error = some error) :
    (s.editFile t e).changed = false := by
  have edits := editing s t e
  generalize s.editFile t e = task at edits failed
  cases edits with
  | unread reading => rfl
  | garbled reading decoding => rfl
  | text reading decoding edited => cases failed

theorem outcomeChanged (m : Migration) (t : Tree) (root : Path) (e : FileEntry) :
    (m.outcomeIn t root (.ok e)).isChanged = (m.rules.editFile t e).changed := by
  rw [FileOutcome.isChanged, outcomeTask]
  cases failed : (m.rules.editFile t e).error with
  | some error => rw [failedUnchanged failed]
  | none => cases (m.rules.editFile t e).changed <;> rfl

theorem outcomeWritten (wet : m.dryRun = false) (found : Found) {replacements : Nat} {written : Bool}
    (changed : (m.outcomeIn t root found).outcome = .changed replacements written) : written = true := by
  cases found with
  | error e => cases changed
  | ok e =>
    rw [outcomeTask, wet] at changed
    split at changed
    · cases changed
    split at changed <;> cases changed
    rfl

theorem reportChanged {found : List Found} {report : Report}
    (migrated : Migrated m t root found report last) :
    0 < report.changed ↔ ∃ e ∈ found.filterMap foundFile?, (m.rules.editFile t e).changed = true := by
  rw [migrated.report, Migration.report, Report.ofOutcomesEq]
  simp only [List.countP_pos_iff, List.mem_map, List.mem_filterMap]
  constructor
  · rintro ⟨_, ⟨one, member, rfl⟩, changed⟩
    cases one with
    | error d => cases changed
    | ok e => exact ⟨e, ⟨.ok e, member, rfl⟩, (outcomeChanged m t root e) ▸ changed⟩
  · rintro ⟨e, ⟨one, member, isFile⟩, changed⟩
    cases one with
    | error d => cases isFile
    | ok d =>
      cases isFile
      exact ⟨_, ⟨.ok e, member, rfl⟩, (outcomeChanged m t root e).trans changed⟩

theorem changedLeaves (wet : m.dryRun = false) (changed : (m.rules.editFile t e).changed = true) :
    ∃ l bytes mode, t.find e.path = .ok l ∧ t.content? l = some (bytes, mode) ∧
      m.leaves e.relative bytes ≠ bytes := by
  have edits := editing m.rules t e
  generalize m.rules.editFile t e = task at edits changed
  cases edits with
  | unread reading => cases changed
  | garbled reading decoding => cases changed
  | @text bytes cs w reading decoding edited =>
    obtain ⟨l, mode, found, content⟩ := Tree.readFound reading
    refine ⟨l, bytes, mode, found, content, ?_⟩
    simp only [leaves, wet, Bool.false_eq_true, if_false, RuleSet.rewritten, decoding, edited]
    intro same
    rw [← Utf8.decodeEncoded decoding] at same
    have equal : w.content = String.ofList cs :=
      String.ext ((bytesInjective same).trans String.toList_ofList.symm)
    simp [equal] at changed

theorem migratedAlters {found : List Found} {report : Report} (sound : t.Sound) (wet : m.dryRun = false)
    (migrated : Migrated m t root found report last) :
    ((∃ e ∈ found.filterMap foundFile?, (m.rules.editFile t e).changed = true) ↔
      ∃ l, (last.content? l).map Prod.fst ≠ (t.content? l).map Prod.fst) ∧
    ((∃ e ∈ found.filterMap foundFile?, (m.rules.editFile t e).changed = true) ↔ last ≠ t) := by
  have alters : (∃ e ∈ found.filterMap foundFile?, (m.rules.editFile t e).changed = true) →
      ∃ l, (last.content? l).map Prod.fst ≠ (t.content? l).map Prod.fst := by
    rintro ⟨e, he, changed⟩
    obtain ⟨l, bytes, mode, found, content, different⟩ := changedLeaves wet changed
    refine ⟨l, ?_⟩
    rw [migrated.after.edited e he l found, content]
    simpa using different
  have moves : (∃ l, (last.content? l).map Prod.fst ≠ (t.content? l).map Prod.fst) → last ≠ t := by
    rintro ⟨l, different⟩ rfl
    exact different rfl
  have keeps : last ≠ t →
      ∃ e ∈ found.filterMap foundFile?, (m.rules.editFile t e).changed = true := by
    intro moved
    by_contra none'
    refine moved (Tree.ext sound migrated.after.blank fun l => ?_).symm
    refine (migrated.after.unaltered fun d hd rewrites => ?_).symm
    exact absurd ⟨d, hd, rewrites.2⟩ none'
  exact ⟨⟨alters, keeps ∘ moves⟩, moves ∘ alters, keeps⟩

theorem processUnchanged (unchanged : ¬(m.rules.editFile t e).changed = true) :
    (m.process t e).2 = t := by
  simp only [process, settle, unchanged]
  split <;> rfl

/- Until there is a file to change, both runs are in the same tree. -/
theorem Course.foretold {final : Tree} (course : Course m w t agenda items os last)
    (dry : Course m.rehearsal w t agenda others ps final) :
    (∃ e ∈ files items, (m.rules.editFile t e).changed = true) ↔
      ∃ e ∈ files others, (m.rules.editFile t e).changed = true := by
  induction course generalizing others ps final with
  | done t =>
    cases dry
    rfl
  | @visit t u last v rest more item? items os outcomes visited taken next ih =>
    cases dry with
    | @visit _ v _ _ _ _ _ _ _ _ again also further =>
      cases visited.symm.trans again
      obtain rfl := dryTake rfl also
      cases item? with
      | none =>
        cases taken
        exact ih further
      | some item =>
        cases item with
        | skipped path reason =>
          cases taken
          simpa using ih further
        | failed d =>
          cases taken
          simpa using ih further
        | file e =>
          -- a file to be changed is one for both runs; any other leaves both in the same tree
          by_cases changed : (m.rules.editFile t e).changed = true
          · exact ⟨fun _ => ⟨e, by simp, changed⟩, fun _ => ⟨e, by simp, changed⟩⟩
          · have same := processUnchanged changed
            simp only [take, same] at taken
            cases taken
            simpa [changed] using ih further

theorem findsForetold {parallel : Bool} (finds : m.Finds t root f parallel items)
    (dry : m.rehearsal.Finds t root f parallel others) :
    (∃ e ∈ files items, (m.rules.editFile t e).changed = true) ↔
      ∃ e ∈ files others, (m.rules.editFile t e).changed = true := by
  cases parallel with
  | true =>
    cases (finds : t.walk root f = .ok items).symm.trans dry
    rfl
  | false =>
    obtain ⟨w, os, last, started, course⟩ := finds
    obtain ⟨w', ps, final, again, other⟩ := dry
    cases started.symm.trans again
    exact course.foretold other

theorem Migrated.dry {found : List Found} {report : Report} (sound : t.Sound) (dry : m.dryRun = true)
    (migrated : Migrated m t root found report last) : last = t := by
  refine (Tree.ext sound migrated.after.blank fun l => ?_).symm
  refine (migrated.after.unaltered fun d hd rewrites => ?_).symm
  simp [Rewrites, dry] at rewrites

end Migration

namespace Execution

open Migration

variable {t : Tree} {o : RunOptions}

theorem exitFailed (e : Failure) : exitCode e = Exit.error ∨ exitCode e = Exit.parseError := by
  unfold exitCode
  split
  · exact .inr rfl
  · exact .inr rfl
  · exact .inl rfl

theorem failedStopped (e : Failure) :
    (failed e).exit = Exit.stopped ↔ ∃ location, e = .rule (.noMatcher location) := by
  unfold failed
  split
  · next location => simp [stopped]
  · next other =>
    have different : exitCode e ≠ Exit.stopped := by
      rcases exitFailed e with two | three
      · simp [two, Exit.error, Exit.stopped]
      · simp [three, Exit.parseError, Exit.stopped]
    simpa [different] using other

theorem executeBoth [Engine] (t : Tree) (o : RunOptions) :
    (∃ e, ∀ dry, execute t o dry = .error e) ∨
      ∃ c rules, prepare t o.config = .ok (c, rules) ∧ ∀ dry, ∃ report last,
        execute t o dry = .ok ((c, report), last) ∧
          migrate ⟨rules, dry⟩ t (rootOf o c) (c.filter.skipFile o.config) (o.jobs != 1) =
            .ok (report, last) := by
  rcases prepared : prepare t o.config with e | ⟨c, rules⟩
  · exact .inl ⟨e, fun dry => by simp only [execute, prepared]⟩
  · have runs := fun dry => migrateResult ⟨rules, dry⟩ t (rootOf o c) (c.filter.skipFile o.config)
      (o.jobs != 1)
    cases started : Walk.start t (rootOf o c) (c.filter.skipFile o.config) with
    | error e =>
      simp only [started] at runs
      exact .inl ⟨.discovery e, fun dry => by simp only [execute, prepared, runs dry]⟩
    | ok w =>
      simp only [started] at runs
      refine .inr ⟨c, rules, rfl, fun dry => ?_⟩
      obtain ⟨report, last, ran⟩ := runs dry
      exact ⟨report, last, by simp only [execute, prepared, ran], ran⟩

theorem migrationStopped [Engine] (t : Tree) (terminal : Bool) (i : Invocation) (o : RunOptions)
    (dry : Bool) :
    (migration t terminal i o dry).1.exit = Exit.stopped ↔
      ∃ location, prepare t o.config = .error (.rule (.noMatcher location)) := by
  unfold migration execute
  rcases prepare t o.config with e | ⟨c, rules⟩
  · simpa using failedStopped e
  · dsimp only
    rcases migrate ⟨rules, dry⟩ t (rootOf o c) (c.filter.skipFile o.config) (o.jobs != 1) with e | ran
    · simpa using (failedStopped (.discovery e)).mp
    · have ends : (if (dry && decide (0 < ran.1.changed)) = true then Exit.pending else Exit.success) ≠
          Exit.stopped := by
        split <;> decide
      simpa using ends

def Calm [Engine] (t : Tree) (o : RunOptions) : Prop :=
  o.jobs = 1 → ∀ c rules items, prepare t o.config = .ok (c, rules) →
    t.walk (rootOf o c) (c.filter.skipFile o.config) = .ok items →
      Undisturbed ⟨rules, false⟩ t (c.filter.skipFile o.config) items

instance [Engine] (t : Tree) (o : RunOptions) : Decidable (Calm t o) :=
  decidable_of_iff (o.jobs = 1 → ∀ p ∈ (prepare t o.config).toOption,
      ∀ items ∈ (t.walk (rootOf o p.1) (p.1.filter.skipFile o.config)).toOption,
        Undisturbed ⟨p.2, false⟩ t (p.1.filter.skipFile o.config) items) <| by
    constructor
    · intro each one c rules items prepared walked
      exact each one (c, rules) (by simp [prepared, Except.toOption]) items
        (by simp [walked, Except.toOption])
    · rintro calm one ⟨c, rules⟩ prepared items walked
      exact calm one c rules items (okOfOption prepared) (okOfOption walked)

structure Foretells (t : Tree) (check apply : Reply × Tree) : Prop where
  untouched : check.2 = t
  pending : check.1.exit = Exit.pending ↔
    apply.1.exit = Exit.success ∧ ∃ l, (apply.2.content? l).map Prod.fst ≠ (t.content? l).map Prod.fst
  clean : check.1.exit = Exit.success ↔ apply.1.exit = Exit.success ∧ apply.2 = t
  failed : check.1.exit ≠ Exit.pending → check.1.exit ≠ Exit.success →
    (check.1.exit = Exit.error ∨ check.1.exit = Exit.parseError ∨ check.1.exit = Exit.stopped) ∧
      apply = check

theorem foretellsFailure (t : Tree) (e : Failure) :
    Foretells t (Execution.failed e, t) (Execution.failed e, t) := by
  have code : (Execution.failed e).exit = Exit.error ∨ (Execution.failed e).exit = Exit.parseError ∨
      (Execution.failed e).exit = Exit.stopped := by
    unfold Execution.failed
    split
    · exact .inr (.inr rfl)
    · exact (exitFailed e).imp_right .inl
  have pending : (Execution.failed e).exit ≠ Exit.pending := by
    rcases code with code | code | code <;> rw [code] <;> decide
  have success : (Execution.failed e).exit ≠ Exit.success := by
    rcases code with code | code | code <;> rw [code] <;> decide
  exact ⟨rfl, by simp [pending, success], by simp [success], fun _ _ => ⟨code, rfl⟩⟩

theorem foretellsRun {last : Tree} {changed : Nat} {out other : String}
    (alters : 0 < changed ↔ ∃ l, (last.content? l).map Prod.fst ≠ (t.content? l).map Prod.fst)
    (moves : 0 < changed ↔ last ≠ t) :
    Foretells t
      ({ exit := if true && 0 < changed then Exit.pending else Exit.success, out := out }, t)
      ({ exit := if false && 0 < changed then Exit.pending else Exit.success, out := other }, last) := by
  by_cases some' : 0 < changed
  · refine ⟨rfl, ?_, ?_, ?_⟩
    · simpa [some'] using alters.mp some'
    · simpa [some', Exit.pending, Exit.success] using moves.mp some'
    · simp [some']
  · have none' : ¬∃ l, (last.content? l).map Prod.fst ≠ (t.content? l).map Prod.fst := some' ∘ alters.mpr
    have same : last = t := by simpa [some'] using moves
    exact ⟨rfl, by simp [some', none', Exit.pending, Exit.success], by simp [some', same],
      by simp [some']⟩

/-- A check leaves the tree as it is and its exit code says what a run that writes would do; both stop
only at a location without a matcher. It has the report of that run, but for what is written, unless
the walk of that run is disturbed. -/
theorem checkForetells [Engine] (sound : t.Sound) (terminal : Bool) (i : Invocation) (o : RunOptions) :
    Foretells t (migration t terminal i o true) (migration t terminal i o false) ∧
      ((migration t terminal i o true).1.exit = Exit.stopped ↔
        ∃ location, prepare t o.config = .error (.rule (.noMatcher location))) ∧
      ∀ c report last, execute t o false = .ok ((c, report), last) →
        (Calm t o → execute t o true = .ok ((c, report.rehearsed), t)) ∧ report.dryRun = false ∧
          ∀ x ∈ report.outcomes, ∀ replacements written,
            x.outcome = .changed replacements written → written = true := by
  have stops := migrationStopped t terminal i o true
  rcases executeBoth t o with ⟨e, fails⟩ | ⟨c, rules, prepared, runs⟩
  · simp only [migration, fails] at stops ⊢
    exact ⟨foretellsFailure t e, stops, by simp⟩
  · obtain ⟨foreseen, same, checked, dry⟩ := runs true
    obtain ⟨report, last, applied, wet⟩ := runs false
    obtain ⟨others, foretold, -, rehearsed⟩ := migrateMigrated sound dry
    obtain ⟨items, finds, -, migrated⟩ := migrateMigrated sound wet
    obtain rfl := rehearsed.dry sound rfl
    have both := findsForetold finds foretold
    obtain ⟨alters, moves⟩ := migratedAlters sound rfl migrated
    have changed := (reportChanged rehearsed).trans both.symm
    refine ⟨?_, stops, ?_⟩
    · simp only [migration, checked, applied]
      exact foretellsRun (changed.trans alters) (changed.trans moves)
    · intro c' report' last' again
      cases applied.symm.trans again
      refine ⟨fun calm => ?_, ?_, ?_⟩
      · have walked := findsWalk sound finds fun one items walks =>
          calm (by simpa using one) c rules items prepared walks
        have walks : same.walk (rootOf o c) (c.filter.skipFile o.config) = .ok others :=
          findsWalk sound foretold fun _ _ _ _ _ _ _ _ _ _ _ rewrites => by cases rewrites.1
        cases walked.symm.trans walks
        rw [checked, migrated.rehearsed rehearsed]
      · rw [migrated.report, Migration.report, Report.ofOutcomesEq]
      · intro x member replacements written outcome
        rw [migrated.report] at member
        obtain ⟨found, -, rfl⟩ := List.mem_map.mp ((Report.outcomesPerm false _).subset member)
        exact outcomeWritten rfl found outcome

def configured (t : Tree) : Tree :=
  let config := "[rewire]\nversion=\"1\"\ngitignore=true\n[[rules]]\npattern=\"foo\"\nreplacement=\"bar\"\n"
  t.insert [] "c.toml" (.file (bytesOf config.toList) 0o644)

def singly : RunOptions := ⟨⟨"c.toml"⟩, some ⟨"d"⟩, none, 1⟩

open Engine in
set_option maxRecDepth 100000 in
theorem checkForetellsIgnoring :
    (configured ignoring).Sound ∧ Calm (configured ignoring) singly ∧
      (migration (configured ignoring) false ⟨.check singly, none, false⟩ singly true).1.exit =
        Exit.pending ∧
      ∃ c report last, execute (configured ignoring) singly false = .ok ((c, report), last) ∧
        report.changed = 3 ∧
        (∃ l, (last.content? l).map Prod.fst ≠ ((configured ignoring).content? l).map Prod.fst) ∧
        execute (configured ignoring) singly true = .ok ((c, report.rehearsed), configured ignoring) := by
  have sound : (configured ignoring).Sound := by decide +kernel
  have calm : Calm (configured ignoring) singly := by decide +kernel
  have exit : (migration (configured ignoring) false ⟨.check singly, none, false⟩ singly true).1.exit =
      Exit.pending := by decide +kernel
  have count : (execute (configured ignoring) singly false).toOption.map (·.1.2.changed) = some 3 := by
    decide +kernel
  obtain ⟨foretells, -, reports⟩ := checkForetells sound false ⟨.check singly, none, false⟩ singly
  refine ⟨sound, calm, exit, ?_⟩
  rcases executed : execute (configured ignoring) singly false with e | ⟨⟨c, report⟩, last⟩
  · simp [executed, Except.toOption] at count
  · obtain ⟨-, altered⟩ := foretells.pending.mp exit
    simp only [migration, executed] at altered
    exact ⟨c, report, last, rfl, by simpa [executed, Except.toOption] using count, altered,
      (reports c report last executed).1 calm⟩

open Engine in
set_option maxRecDepth 100000 in
theorem checkDiffersLinked :
    (configured linked).Sound ∧
      (execute (configured linked) singly true).toOption.map (·.1.2.changed) = some 1 ∧
      (execute (configured linked) singly false).toOption.map (·.1.2.changed) = some 2 := by
  decide +kernel

end Execution

end Codemod
