import Codemod.Engine.Counting
import Codemod.Proofs.Undisturbed

/-!
Runs one file at a time and runs by several workers. They agree as long as what a run writes does
not reach the ignore files that its walk has yet to read. It does reach them if such a file is a link
to one that is rewritten before, and then the two runs take up different files.
-/
namespace Codemod

namespace Migration

open Walk

variable {m : Migration} {t : Tree} {root : Path} {f : Filter}

theorem migrateResult (m : Migration) (t : Tree) (root : Path) (f : Filter) (parallel : Bool) :
    match Walk.start t root f with
    | .error e => m.migrate t root f parallel = .error e
    | .ok _ => ∃ report last, m.migrate t root f parallel = .ok (report, last) := by
  cases started : Walk.start t root f with
  | error e => simp [migrate, started, bind, Except.bind]
  | ok w =>
    simp only [migrate, started, bind, Except.bind, pure, Except.pure]
    cases parallel with
    | true => exact ⟨_, _, rfl⟩
    | false => exact ⟨_, _, rfl⟩

theorem migrateCalm {parallel : Bool} {report : Report} {last : Tree} (sound : t.Sound)
    (calm : ∀ items, t.walk root f = .ok items → m.Undisturbed t f items)
    (ran : m.migrate t root f parallel = .ok (report, last)) :
    ∃ items, t.walk root f = .ok items ∧
      Migrated m t root (items.filterMap found?) report last := by
  obtain ⟨items, finds, -, migrated⟩ := migrateMigrated sound ran
  exact ⟨items, findsWalk sound finds fun _ => calm, migrated⟩

theorem migrateIs {items : List WalkItem} {report : Report} {last : Tree} (parallel : Bool)
    (sound : t.Sound) (calm : ∀ items, t.walk root f = .ok items → m.Undisturbed t f items)
    (walked : t.walk root f = .ok items)
    (migrated : Migrated m t root (items.filterMap found?) report last) :
    m.migrate t root f parallel = .ok (report, last) := by
  have ran := migrateResult m t root f parallel
  cases started : Walk.start t root f with
  | error e => simp [Tree.walk, started, bind, Except.bind] at walked
  | ok w =>
    rw [started] at ran
    obtain ⟨other, final, same⟩ := ran
    obtain ⟨others, walks, swept⟩ := migrateCalm sound calm same
    cases walked.symm.trans walks
    obtain ⟨rfl, rfl⟩ := migrated.unique sound swept
    exact same

theorem migrateAgree (sound : t.Sound)
    (calm : ∀ items, t.walk root f = .ok items → m.Undisturbed t f items) :
    m.migrate t root f true = m.migrate t root f false := by
  have one := migrateResult m t root f true
  have two := migrateResult m t root f false
  cases started : Walk.start t root f with
  | error e =>
    rw [started] at one two
    exact one.trans two.symm
  | ok w =>
    rw [started] at one
    obtain ⟨report, last, ran⟩ := one
    obtain ⟨items, walked, migrated⟩ := migrateCalm sound calm ran
    rw [ran, migrateIs false sound calm walked migrated]

/-- Runs one file at a time and runs by workers have the same report and leave the same tree,
whatever the order of the workers' steps. For a discovery that is given no walk can be disturbed. -/
theorem runsAgree (sound : t.Sound)
    (calm : ∀ items, t.walk root f = .ok items → m.Undisturbed t f items) :
    m.migrate t root f true = m.migrate t root f false ∧
      (∀ items os last, t.walk root f = .ok items → Interleaved m t (files items) os last →
        m.migrate t root f false =
          .ok (m.report ((items.filterMap found?).filterMap (foundFailure? root) ++ os), last)) ∧
      ∀ found, Distinct root found →
        m.runFound root t found = m.runDrained root t found ∧
          ∀ os last, Stream t root found → Interleaved m t (found.filterMap foundFile?) os last →
            m.runFound root t found = (m.report (found.filterMap (foundFailure? root) ++ os), last) := by
  refine ⟨migrateAgree sound calm, ?_, fun found distinct => ⟨foundDrained m t distinct.orderly, ?_⟩⟩
  · intro items os last walked interleaved
    have stream := (walkDiscovered sound walked).toStream
    exact migrateIs false sound calm walked (interleavedMigrated stream interleaved)
  · intro os last stream interleaved
    have workers := interleavedMigrated stream interleaved
    obtain ⟨reports, trees⟩ := (runFoundMigrated m stream).unique sound workers
    exact Prod.ext reports trees

open Engine in
def barForFoo : RuleSet :=
  match RuleSet.compile [⟨"foo", "bar", false⟩] [] with
  | .ok rules => rules
  | .error _ => ⟨⟨"", []⟩, []⟩

def ignoring : Tree :=
  let foo := Node.file (bytesOf "foo".toList) 0o644
  ⟨.dir [("d", .dir [("a", foo), ("b", .dir [(".gitignore", foo), ("c", foo), ("foo", foo)])])], []⟩

set_option maxRecDepth 100000 in
theorem runsAgreeIgnoring :
    ignoring.Sound ∧
      (∀ items, ignoring.walk ⟨"d"⟩ { gitignore := true } = .ok items →
        Undisturbed ⟨barForFoo, false⟩ ignoring { gitignore := true } items) ∧
      migrate ⟨barForFoo, false⟩ ignoring ⟨"d"⟩ { gitignore := true } true =
        migrate ⟨barForFoo, false⟩ ignoring ⟨"d"⟩ { gitignore := true } false ∧
      (migrate ⟨barForFoo, false⟩ ignoring ⟨"d"⟩ { gitignore := true } false).toOption.map
        (·.1.changed) = some 3 := by
  have sound : ignoring.Sound := by decide +kernel
  have calm : ∀ items, ignoring.walk ⟨"d"⟩ { gitignore := true } = .ok items →
      Undisturbed ⟨barForFoo, false⟩ ignoring { gitignore := true } items := by
    have all : (ignoring.walk ⟨"d"⟩ { gitignore := true }).toOption.all
        (fun items => decide (Undisturbed ⟨barForFoo, false⟩ ignoring { gitignore := true } items)) := by
      decide +kernel
    intro items walked
    simpa [walked, Except.toOption] using all
  exact ⟨sound, calm, (runsAgree sound calm).1, by decide +kernel⟩

/-- The ignore rules of a directory are those of a file that is rewritten first. -/
def linked : Tree :=
  let foo := Node.file (bytesOf "foo".toList) 0o644
  ⟨.dir [("d", .dir [("a", foo), ("b", .dir [(".gitignore", .link ⟨"../a"⟩), ("foo", foo)])])], []⟩

set_option maxRecDepth 100000 in
theorem runsDifferLinked :
    linked.Sound ∧
      (migrate ⟨barForFoo, false⟩ linked ⟨"d"⟩ { gitignore := true } true).toOption.map (·.1.changed) =
        some 1 ∧
      (migrate ⟨barForFoo, false⟩ linked ⟨"d"⟩ { gitignore := true } false).toOption.map (·.1.changed) =
        some 2 := by
  decide +kernel

end Migration

end Codemod
