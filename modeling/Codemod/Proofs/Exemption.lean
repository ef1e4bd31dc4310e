import Codemod.Proofs.Apply
import Codemod.Proofs.Filter
import Codemod.Proofs.Selection

/-!
Files that a run must not touch. The walk compares the place of a file below the root, as it is
spelled on the way down, with the places of the skipped files below the canonical root. Since the
walk follows no links below its root, the two are the same for the same file, whatever links and
detours lead to it. So a configuration outlives its own rules, if it has a canonical location at all.
-/
namespace Codemod

namespace Migration

open Walk

variable {m : Migration} {w : Walk} {t last : Tree} {root p : Path} {f : Filter} {parallel : Bool}
  {items : List WalkItem} {os : List FileOutcome} {l : Location}

theorem findsCourse (sound : t.Sound) (finds : m.Finds t root f parallel items) :
    ∃ n w os last, Walk.start t root f = .ok w ∧ Course n w t w.agenda items os last := by
  cases parallel with
  | false =>
    obtain ⟨w, os, last, started, course⟩ := finds
    exact ⟨m, w, os, last, started, course⟩
  | true =>
    have walked : t.walk root f = .ok items := finds
    cases started : Walk.start t root f with
    | error e => simp [Tree.walk, started, bind, Except.bind] at walked
    | ok w =>
      obtain ⟨others, os, walks, course⟩ := walkCourse sound m started
      cases walks.symm.trans walked
      exact ⟨m.rehearsal, w, os, t, rfl, course⟩

theorem findsAdmitted (sound : t.Sound) (finds : m.Finds t root f parallel items) :
    ∃ top es, t.find root = .ok top ∧ t.get? top = some (.dir es) ∧
      ∀ e ∈ files items, ∃ ns content mode, ns ≠ [] ∧ e = .of root (root.descend ns) ∧
        t.get? (top ++ ns) = some (.file content mode) ∧
        Admits (fresh t root f) e := by
  obtain ⟨n, w, os, last, started, course⟩ := findsCourse sound finds
  have admits := course.admits
  obtain ⟨rfl, top, es, found, dir⟩ := startFrom started
  obtain ⟨others, _, below, rfl⟩ := course.behind
  obtain ⟨shown, sighted⟩ := courseSighted sound found dir rfl below
  obtain ⟨named, entries, -, each⟩ := sighted.entries
  rw [← filesBehind t] at entries
  refine ⟨top, es, found, dir, fun e he => ?_⟩
  have own := admits e he
  rw [entries] at he
  obtain ⟨ns, hn, rfl⟩ := List.mem_map.mp he
  obtain ⟨down, content, mode, there⟩ := each ns hn
  exact ⟨ns, content, mode, down, rfl, there, own⟩

theorem descendLeads {top : Location} {ns : List String} {content : Bytes} {mode : Nat}
    (sound : t.Sound) (found : t.find root = .ok top)
    (there : t.get? (top ++ ns) = some (.file content mode)) (leads : t.find (root.descend ns) = .ok l) :
    l = top ++ ns := by
  rw [Tree.findDescend sound found there (by simp [Tree.kindOf])] at leads
  split at leads
  · contradiction
  · exact (Except.ok.inj leads).symm

theorem skippedAway (sound : t.Sound) (finds : m.Finds t root f parallel items) (listed : p ∈ f.skipped)
    (rooted : (t.canonical? root).isSome) (canonical : t.canonical? p = some l) :
    ∀ e ∈ files items, t.find e.path ≠ .ok l := by
  obtain ⟨top, es, found, dir, each⟩ := findsAdmitted sound finds
  obtain ⟨k, own⟩ := Option.isSome_iff_exists.mp rooted
  obtain rfl := Tree.canonicalFind own found
  intro e he leads
  obtain ⟨ns, content, mode, down, rfl, there, -, unlisted⟩ := each e he
  -- the file lies where the names lead, and there it is listed
  obtain rfl := descendLeads sound found there leads
  refine unlisted ?_
  rw [FileEntry.of, RelPath.relativeToNames (Tree.findLeads found).given down (belowProper sound there)]
  exact skipListPlace.mpr ⟨_, own, p, listed, ns, canonical, rfl⟩

theorem migrateKeepsSkipped {report : Report} (sound : t.Sound)
    (ran : m.migrate t root f parallel = .ok (report, last)) (listed : p ∈ f.skipped)
    (rooted : (t.canonical? root).isSome) (canonical : t.canonical? p = some l) :
    last.content? l = t.content? l := by
  obtain ⟨items, finds, discovered, migrated⟩ := migrateMigrated sound ran
  exact migrated.after.kept l (skippedAway sound finds listed rooted canonical)

end Migration

theorem Config.skips (c : Config) (p : Path) : p ∈ (c.filter.skipFile p).skipped := by
  simp [Filter.skipFile, Config.filter, Filter.ofListsSkipped, Ordered.insert]

namespace Execution

variable {t : Tree} {o : RunOptions}

structure Canonical [Engine] (t : Tree) (o : RunOptions) : Prop where
  config : (t.canonical? o.config).isSome
  root : ∀ c rules, prepare t o.config = .ok (c, rules) → (t.canonical? (rootOf o c)).isSome

instance [Engine] (t : Tree) (o : RunOptions) : Decidable (Canonical t o) :=
  decidable_of_iff ((t.canonical? o.config).isSome ∧
      ∀ p ∈ (prepare t o.config).toOption, (t.canonical? (rootOf o p.1)).isSome) <| by
    constructor
    · rintro ⟨config, root⟩
      exact ⟨config, fun c rules prepared => root (c, rules) (by simp [prepared, Except.toOption])⟩
    · rintro ⟨config, root⟩
      exact ⟨config, fun p prepared => root p.1 p.2 (okOfOption prepared)⟩

theorem executeBlank [Engine] {dry : Bool} {c : Config} {report : Report} {last : Tree} (sound : t.Sound)
    (executed : execute t o dry = .ok ((c, report), last)) : t.blank = last.blank := by
  obtain ⟨rules, -, ran⟩ := executeRan executed
  obtain ⟨items, -, -, migrated⟩ := Migration.migrateMigrated sound ran
  exact migrated.after.blank

theorem executeKeepsConfig [Engine] {dry : Bool} {c : Config} {report : Report} {last : Tree} {l : Location}
    (sound : t.Sound) (canonical : Canonical t o)
    (executed : execute t o dry = .ok ((c, report), last)) (leads : t.find o.config = .ok l) :
    last.content? l = t.content? l := by
  obtain ⟨rules, prepared, ran⟩ := executeRan executed
  obtain ⟨k, own⟩ := Option.isSome_iff_exists.mp canonical.config
  obtain rfl := Tree.canonicalFind own leads
  exact Migration.migrateKeepsSkipped sound ran (c.skips o.config) (canonical.root c rules prepared) own

/-- A run leaves its configuration as it is, however its path and the root are spelled. -/
theorem configKept [Engine] (sound : t.Sound) (canonical : Canonical t o) (terminal : Bool) (i : Invocation) :
    (migration t terminal i o false).2.find o.config = t.find o.config ∧
      (migration t terminal i o false).2.read o.config = t.read o.config ∧
      ∀ l, t.find o.config = .ok l →
        (migration t terminal i o false).2.content? l = t.content? l := by
  unfold migration
  rcases executed : execute t o false with e | ⟨⟨c, report⟩, last⟩
  · exact ⟨rfl, rfl, fun _ _ => rfl⟩
  · have blanks := executeBlank sound executed
    have kept := fun l (leads : t.find o.config = .ok l) =>
      executeKeepsConfig sound canonical executed leads
    exact ⟨(Tree.findSame blanks o.config).symm,
      (Tree.readSame blanks fun l leads => (kept l leads).symm).symm, kept⟩

def winding : Tree :=
  let config := "[rewire]\nversion = \"1\"\nextensions = [\"toml\"]\n[[rules]]\npattern = \"foo\"\n" ++
    "replacement = \"bar\"\n"
  ⟨.dir [("p", .dir [("c.toml", .file (bytesOf config.toList) 0o644),
    ("d.toml", .file (bytesOf "foo".toList) 0o644)]), ("l", .link ⟨"p"⟩)], []⟩

def windingRun : RunOptions := ⟨⟨"./p/..//l/c.toml"⟩, some ⟨"l/"⟩, none, 4⟩

open Engine in
set_option maxRecDepth 100000 in
theorem configKeptWinding :
    winding.Sound ∧ Canonical winding windingRun ∧
      (execute winding windingRun false).toOption.map (·.1.2.changed) = some 1 ∧
      (migration winding false ⟨.apply windingRun, none, false⟩ windingRun false).2.read
        windingRun.config = winding.read windingRun.config := by
  have sound : winding.Sound := by decide +kernel
  have canonical : Canonical winding windingRun := by decide +kernel
  have changed : (execute winding windingRun false).toOption.map (·.1.2.changed) = some 1 := by
    decide +kernel
  exact ⟨sound, canonical, changed,
    (configKept sound canonical false ⟨.apply windingRun, none, false⟩).2.1⟩

def shaft (bottom : Node) : Nat → Node
  | 0 => bottom
  | k + 1 =>
    let name := String.ofList (List.replicate 128 'a')
    .dir [(name, shaft bottom k), ("x", .link ⟨name⟩)]

/-- A configuration so deep that no path from the top of the tree can name it. -/
def sunken (pattern replacement : String) : Tree :=
  let config := "[rewire]\nversion = \"1\"\n[[rules]]\npattern = \"" ++ pattern ++
    "\"\nreplacement = \"" ++ replacement ++ "\"\n"
  ⟨shaft (.dir [("c.toml", .file (bytesOf config.toList) 0o644)]) 32, []⟩

def sunkenRun : RunOptions :=
  let root := "x/x/x/x/x/x/x/x/x/x/x/x/x/x/x/x/x/x/x/x/x/x/x/x/x/x/x/x/x/x/x/x"
  ⟨⟨root ++ "/c.toml"⟩, some ⟨root⟩, some .jsonl, 1⟩

open Engine in
set_option maxRecDepth 100000 in
theorem configLostSunken :
    (sunken "foo" "bar").Sound ∧
      ((migration (sunken "foo" "bar") false ⟨.apply sunkenRun, none, false⟩ sunkenRun false).2.read
        sunkenRun.config).toOption ≠ ((sunken "foo" "bar").read sunkenRun.config).toOption := by
  decide +kernel

end Execution

end Codemod
