import Codemod.Proofs.Interleaving

/-!
What a run does to a tree. Whether it takes up the files while its walk goes on or when the walk has
ended, each file has the outcome that its content in the tree of the beginning calls for, and it is
left with the content that this outcome means.
-/
namespace Codemod

namespace Migration

open Walk

variable {m : Migration} {w : Walk} {t u last : Tree} {root : Path} {f : Filter}
  {items : List WalkItem} {os : List FileOutcome} {done : List FileEntry} {found : List Found}

theorem Course.processed {agenda : List Visit} (course : Course m w t agenda items os last) :
    m.processFound w.root t (items.filterMap found?) = (os, last) := by
  induction course with
  | done t => rfl
  | @visit t u last v rest more item? items os outcomes visited taken next ih =>
    cases item? with
    | none =>
      cases taken
      exact ih
    | some item =>
      cases item with
      | skipped path reason =>
        cases taken
        exact ih
      | failed e =>
        cases taken
        simp [found?, processFound, ih]
      | file e =>
        cases taken
        simp [found?, processFound, ih]

/-- What the walk of a run comes upon. In parallel the walk ends before any file is touched; any other
run goes on with its walk in the tree that it has made so far. -/
def Finds (m : Migration) (t : Tree) (root : Path) (f : Filter) (parallel : Bool)
    (items : List WalkItem) : Prop :=
  if parallel then t.walk root f = .ok items
  else ∃ w os last, Walk.start t root f = .ok w ∧ Course m w t w.agenda items os last

def rehearsal (m : Migration) : Migration := { m with dryRun := true }

theorem walkCourse (sound : t.Sound) (m : Migration) (started : Walk.start t root f = .ok w) :
    ∃ items os, t.walk root f = .ok items ∧ Course m.rehearsal w t w.agenda items os t := by
  obtain ⟨items, os, last, course, enough⟩ := courseExists m.rehearsal sound started
  obtain rfl := course.dry rfl
  refine ⟨items, os, ?_, course⟩
  have listed : w.items last = items := collectCourse rfl course enough
  simp [Tree.walk, started, bind, Except.bind, pure, Except.pure, listed]

theorem walkDiscovered (sound : t.Sound) (walked : t.walk root f = .ok items) :
    Discovered t root items := by
  cases started : Walk.start t root f with
  | error e => simp [Tree.walk, started, bind, Except.bind] at walked
  | ok w =>
    obtain ⟨others, os, walks, course⟩ := walkCourse sound ⟨⟨⟨"", []⟩, []⟩, true⟩ started
    cases walks.symm.trans walked
    exact courseDiscovered sound started course

theorem drainedPerm (g : Found → FileOutcome) (failure : ∀ e, g (.error e) = walkFailure root e)
    (found : List Found) :
    (found.map g).Perm
      (found.filterMap (foundFailure? root) ++ (found.filterMap foundFile?).map fun e => g (.ok e)) := by
  induction found with
  | nil => exact .refl _
  | cons one rest ih =>
    cases one with
    | error e =>
      rw [List.map_cons, failure]
      exact ih.cons (walkFailure root e)
    | ok e => exact (ih.cons (g (.ok e))).trans List.perm_middle.symm

structure Migrated (m : Migration) (t : Tree) (root : Path) (found : List Found) (report : Report)
    (last : Tree) : Prop where
  report : report = m.report (found.map (m.outcomeIn t root))
  after : After m t (found.filterMap foundFile?) last

theorem Migrated.unique {report other : Report} {final : Tree} (sound : t.Sound)
    (one : Migrated m t root found report last) (two : Migrated m t root found other final) :
    report = other ∧ last = final :=
  ⟨one.report.trans two.report.symm, one.after.unique sound two.after⟩

theorem interleavedMigrated {os : List FileOutcome} (stream : Stream t root found)
    (interleaved : Interleaved m t (found.filterMap foundFile?) os last) :
    Migrated m t root found (m.report (found.filterMap (foundFailure? root) ++ os)) last := by
  obtain ⟨rfl, after⟩ := interleaved.outcomes stream.direct stream.apart
  obtain ⟨told, rest, rfl, distinct⟩ := stream.orderly
  have perm := drainedPerm (m.outcomeIn t root) (fun _ => rfl) rest
  have reports := Report.ofOutcomesPerm m.dryRun (distinct.outcomes m t) perm
  refine ⟨?_, after⟩
  cases told with
  | none => exact reports.symm
  | some e => exact (Report.ofOutcomesCons (walkFailure root e) reports).symm

theorem runDrainedMigrated (m : Migration) (stream : Stream t root found) :
    Migrated m t root found (m.runDrained root t found).1 (m.runDrained root t found).2 :=
  interleavedMigrated stream (processAllInterleaved m t _)

theorem processFoundPerm (m : Migration) (root : Path) (t : Tree) (found : List Found) :
    (m.processFound root t found).1.Perm (found.filterMap (foundFailure? root) ++
      (m.processAll t (found.filterMap foundFile?)).1) ∧
      (m.processFound root t found).2 = (m.processAll t (found.filterMap foundFile?)).2 := by
  induction found generalizing t with
  | nil => exact ⟨.refl _, rfl⟩
  | cons one rest ih =>
    cases one with
    | error e =>
      obtain ⟨perm, same⟩ := ih t
      exact ⟨perm.cons (walkFailure root e), same⟩
    | ok e =>
      obtain ⟨perm, same⟩ := ih (m.process t e).2
      exact ⟨(perm.cons (m.process t e).1).trans List.perm_middle.symm, same⟩

theorem editFileEntry (s : RuleSet) (t : Tree) (e : FileEntry) : (s.editFile t e).entry = e := by
  unfold RuleSet.editFile
  split
  · rfl
  · split <;> rfl

theorem processPath (m : Migration) (t : Tree) (e : FileEntry) : (m.process t e).1.path = e.path :=
  congrArg FileEntry.path (editFileEntry m.rules t e)

theorem processFoundPaths (m : Migration) (root : Path) (t : Tree) (found : List Found) :
    (m.processFound root t found).1.map FileOutcome.path = found.map (concerns root) := by
  induction found generalizing t with
  | nil => rfl
  | cons one rest ih =>
    cases one with
    | error e => exact congrArg (concerns root (.error e) :: ·) (ih t)
    | ok e =>
      rw [processFound, List.map_cons, ih, processPath]
      rfl

theorem foundDrained (m : Migration) (t : Tree) (orderly : Orderly root found) :
    m.runFound root t found = m.runDrained root t found := by
  obtain ⟨told, rest, rfl, distinct⟩ := orderly
  obtain ⟨perm, same⟩ := processFoundPerm m root t rest
  -- outcomes are for the paths that were found, whatever has become of the files
  have apart : (m.processFound root t rest).1.Pairwise fun a b => FileOutcome.compare a b ≠ .eq := by
    refine FileOutcome.pairwiseOfPaths ?_
    rw [processFoundPaths]
    exact List.pairwise_map.mpr distinct
  have reports : m.report (m.processFound root t rest).1 = (m.runDrained root t rest).1 :=
    Report.ofOutcomesPerm m.dryRun apart perm
  cases told with
  | none => exact Prod.ext reports same
  | some e => exact Prod.ext (Report.ofOutcomesCons (walkFailure root e) reports) same

theorem runFoundMigrated (m : Migration) (stream : Stream t root found) :
    Migrated m t root found (m.runFound root t found).1 (m.runFound root t found).2 := by
  rw [foundDrained m t stream.orderly]
  exact runDrainedMigrated m stream

theorem migrateMigrated {parallel : Bool} {report : Report} (sound : t.Sound)
    (ran : m.migrate t root f parallel = .ok (report, last)) :
    ∃ items, m.Finds t root f parallel items ∧ Discovered t root items ∧
      Migrated m t root (items.filterMap found?) report last := by
  cases started : Walk.start t root f with
  | error e => simp [migrate, started, bind, Except.bind] at ran
  | ok w =>
    cases parallel with
    | true =>
      obtain ⟨items, os, walked, course⟩ := walkCourse sound m started
      obtain rfl : w.items t = items := by
        simpa [Tree.walk, started, bind, Except.bind, pure, Except.pure] using walked
      have drained : m.runDrained root t ((w.items t).filterMap found?) = (report, last) := by
        simpa [migrate, started, bind, Except.bind, pure, Except.pure] using ran
      have discovered := courseDiscovered sound started course
      have migrated := runDrainedMigrated m discovered.toStream
      rw [drained] at migrated
      exact ⟨w.items t, walked, discovered, migrated⟩
    | false =>
      obtain ⟨items, os, final, course, enough⟩ := courseExists m sound started
      have own : w.root = root := by rw [(startFrom started).1]
      have swept : m.sweep root (limit t) t w = (os, final) := own ▸ sweepCourse course enough
      obtain ⟨rfl, rfl⟩ : m.report os = report ∧ final = last := by
        simpa [migrate, started, swept, bind, Except.bind, pure, Except.pure] using ran
      have discovered := courseDiscovered sound started course
      have migrated := runFoundMigrated m discovered.toStream
      rw [runFound, ← own, course.processed] at migrated
      exact ⟨items, ⟨w, os, final, started, course⟩, discovered, own ▸ migrated⟩

end Migration

end Codemod
