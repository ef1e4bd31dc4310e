import Codemod.Proofs.Exemption

/-!
Runs that are restricted by extensions. If one entry of the list counts, the files that are read and
those that are written have one of the extensions that count, whatever the rest of the list looks
like. If no entry counts, the list restricts nothing.
-/
namespace Codemod

open Migration

variable {t last : Tree} {root : Path} {f : Filter} {c : Config}

theorem Migration.changedAdmitted {m : Migration} {parallel : Bool} {report : Report} {l : Location}
    (sound : t.Sound) (ran : m.migrate t root f parallel = .ok (report, last))
    (changed : last.content? l ≠ t.content? l) :
    ∃ top ns, t.find root = .ok top ∧ l = top ++ ns ∧ ns ≠ [] ∧ (∀ n ∈ ns, Path.IsName n.toList) ∧
      f.includesFile (root.descend ns) = true := by
  obtain ⟨items, finds, -, migrated⟩ := migrateMigrated sound ran
  obtain ⟨top, es, found, -, each⟩ := findsAdmitted sound finds
  obtain ⟨e, he, leads⟩ : ∃ e ∈ files items, t.find e.path = .ok l := by
    by_contra away
    exact changed (migrated.after.kept l fun e he leads => away ⟨e, he, leads⟩)
  obtain ⟨ns, content, mode, down, rfl, there, included, -⟩ := each e he
  obtain rfl := descendLeads sound found there leads
  exact ⟨top, ns, found, rfl, down, Walk.belowProper sound there, included⟩

theorem Config.extensionCounted {name y : String} (listed : y ∈ c.filter.extensions)
    (has : HasExtension name y) : ∃ x ∈ c.extensions, HasExtension name (Filter.bare x) := by
  obtain ⟨-, x, hx, rfl⟩ := (c.memFilter y).mp listed
  exact ⟨x, hx, has⟩

theorem Execution.changedExtension [Engine] {o : RunOptions} {dry : Bool} {report : Report} {l : Location}
    (counts : ∃ x ∈ c.extensions, Filter.bare x ≠ "") (sound : t.Sound)
    (executed : execute t o dry = .ok ((c, report), last)) (changed : last.content? l ≠ t.content? l) :
    ∃ name, l.getLast? = some name ∧ ∃ x ∈ c.extensions, HasExtension name (Filter.bare x) := by
  obtain ⟨rules, -, ran⟩ := executeRan executed
  obtain ⟨top, ns, found, rfl, down, proper, included⟩ := changedAdmitted sound ran changed
  have listed := (Filter.includesNames (Tree.findLeads found).given down proper).mp included
  obtain ⟨name, own, y, hy, has⟩ := listed.resolve_left (Config.filterListed counts)
  exact ⟨name, by simp [List.getLast?_append, own], Config.extensionCounted hy has⟩

/-- A list of extensions of which one entry counts admits the files with an extension that counts and
no others: no other file is yielded by a walk, and no other file is changed by a run. -/
theorem Config.extensionsRestrict [Engine] (counts : ∃ x ∈ c.extensions, Filter.bare x ≠ "") :
    (∀ path : Path, c.filter.includesFile path = true ↔
      ∃ x ∈ c.extensions, Filter.bare x ≠ "" ∧ path.extension? = some (Filter.bare x)) ∧
      (∀ (t : Tree) (root : Path) (f : Filter) (items : List WalkItem), t.Sound →
        f.extensions = c.filter.extensions → t.walk root f = .ok items →
          ∀ e ∈ files items, ∃ x ∈ c.extensions, e.path.extension? = some (Filter.bare x)) ∧
      ∀ (t last : Tree) (o : RunOptions) (dry : Bool) (report : Report), t.Sound →
        Execution.execute t o dry = .ok ((c, report), last) →
          ∀ l, last.content? l ≠ t.content? l →
            ∃ name, l.getLast? = some name ∧ ∃ x ∈ c.extensions, HasExtension name (Filter.bare x) := by
  refine ⟨includesCounted counts, fun t root f items sound same walked e he => ?_, ?_⟩
  · have finds : Finds ⟨⟨⟨"", []⟩, []⟩, true⟩ t root f true items := walked
    obtain ⟨top, es, -, -, each⟩ := findsAdmitted sound finds
    obtain ⟨ns, content, mode, -, rfl, -, included, -⟩ := each e he
    have listed : f.extensions ≠ [] := same ▸ filterListed counts
    obtain ⟨y, hy, has⟩ := (Filter.includesListed listed _).mp included
    obtain ⟨-, x, hx, rfl⟩ := (c.memFilter y).mp (same ▸ hy)
    exact ⟨x, hx, has⟩
  · intro t last o dry report sound executed l changed
    exact Execution.changedExtension counts sound executed changed

namespace Execution

def listText (extensions : String) : String :=
  "[rewire]\nversion = \"1\"\nroot = \"d\"\nextensions = [" ++ extensions ++
    "]\n[[rules]]\npattern = \"foo\"\nreplacement = \"bar\"\n"

def listTree (extensions : String) : Tree :=
  ⟨.dir [("c.toml", .file (bytesOf (listText extensions).toList) 0o644),
    ("d", .dir [("a.rs", .file (bytesOf "foo".toList) 0o644),
      ("b.txt", .file (bytesOf "foo".toList) 0o644)])], []⟩

def mixed : Tree := listTree "\"\", \"..rs\", \".\""

def dotted : Tree := listTree "\".\""

def listRun : RunOptions := ⟨⟨"c.toml"⟩, none, none, 1⟩

open Engine in
set_option maxRecDepth 100000 in
theorem extensionsRestrictMixed :
    ∃ c report last, execute mixed listRun false = .ok ((c, report), last) ∧
      (∃ x ∈ c.extensions, Filter.bare x ≠ "") ∧ c.filter.includesFile ⟨"d/b.txt"⟩ = false ∧
      last.content? ["d", "a.rs"] ≠ mixed.content? ["d", "a.rs"] ∧
      ∃ name, ["d", "a.rs"].getLast? = some name ∧
        ∃ x ∈ c.extensions, HasExtension name (Filter.bare x) := by
  have sound : mixed.Sound := by decide +kernel
  have ran : (execute mixed listRun false).toOption.map (fun r =>
      (decide (∃ x ∈ r.1.1.extensions, Filter.bare x ≠ ""), r.1.1.filter.includesFile ⟨"d/b.txt"⟩,
        decide (r.2.content? ["d", "a.rs"] ≠ mixed.content? ["d", "a.rs"]))) =
        some (true, false, true) := by decide +kernel
  obtain ⟨⟨⟨c, report⟩, last⟩, executed, facts⟩ := Option.map_eq_some_iff.mp ran
  obtain ⟨counts, left, changed⟩ : (∃ x ∈ c.extensions, Filter.bare x ≠ "") ∧
      c.filter.includesFile ⟨"d/b.txt"⟩ = false ∧
        last.content? ["d", "a.rs"] ≠ mixed.content? ["d", "a.rs"] := by simpa using facts
  have done := okOfOption executed
  obtain ⟨-, -, restricts⟩ := Config.extensionsRestrict counts
  exact ⟨c, report, last, done, counts, left, changed,
    restricts _ last listRun false report sound done _ changed⟩

open Engine in
set_option maxRecDepth 100000 in
theorem extensionsUnheeded :
    ∃ c report last, Config.parse (listText "\".\"") = .ok c ∧ c.extensions ≠ [] ∧
      c.filter.includesFile ⟨"d/b.txt"⟩ = true ∧
      (∀ x ∈ c.extensions, Path.extension? ⟨"d/b.txt"⟩ ≠ some (Filter.bare x)) ∧
      execute dotted listRun false = .ok ((c, report), last) ∧
      last.content? ["d", "b.txt"] ≠ dotted.content? ["d", "b.txt"] := by
  have same : (Config.parse (listText "\".\"")).toOption =
      (execute dotted listRun false).toOption.map (·.1.1) := by decide +kernel
  have ran : (execute dotted listRun false).toOption.map (fun r =>
      (decide (r.1.1.extensions ≠ []), r.1.1.filter.includesFile ⟨"d/b.txt"⟩,
        decide (∀ x ∈ r.1.1.extensions, Path.extension? ⟨"d/b.txt"⟩ ≠ some (Filter.bare x)),
        decide (r.2.content? ["d", "b.txt"] ≠ dotted.content? ["d", "b.txt"]))) =
        some (true, true, true, true) := by decide +kernel
  obtain ⟨⟨⟨c, report⟩, last⟩, executed, facts⟩ := Option.map_eq_some_iff.mp ran
  have parsed : Config.parse (listText "\".\"") = .ok c := okOfOption (by rw [same, executed]; rfl)
  simp only [Prod.mk.injEq, decide_eq_true_eq] at facts
  obtain ⟨some', admits, none', changed⟩ := facts
  exact ⟨c, report, last, parsed, some', admits, none', okOfOption executed, changed⟩

end Execution

end Codemod
