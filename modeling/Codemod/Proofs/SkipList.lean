import Codemod.Proofs.Exactness

/-!
What the skip list leaves out. A walk knows the listed files by their places below the root, and in a
place a backslash is taken for a slash. Where none stands in the names, a file is left out only if its
canonical location is that of a listed file, and every other file is judged by its directories and
its extension alone.
-/
namespace Codemod

def WalkItem.Shows (path : Path) : WalkItem → Prop
  | .file e => e.path = path
  | .skipped p _ => p = path
  | .failed _ => False

def Filter.Lists (f : Filter) (t : Tree) (path : Path) : Prop :=
  ∃ p ∈ f.skipped, ∃ l, t.canonical? p = some l ∧ t.canonical? path = some l

instance (f : Filter) (t : Tree) (path : Path) : Decidable (f.Lists t path) :=
  decidable_of_iff (∃ p ∈ f.skipped, (t.canonical? p).isSome ∧ t.canonical? path = t.canonical? p) <| by
    refine exists_congr fun p => and_congr_right fun _ => ?_
    cases t.canonical? p <;> simp

namespace Walk

variable {t : Tree} {root : Path} {top : Location} {w : Walk} {f : Filter} {a ns : List String}
  {es : Directory} {content : Bytes} {mode : Nat}

theorem fileItemListed {path : Path} (shown : fileItem w path = .skipped path .skipListed) :
    (FileEntry.of w.root path).relative ∈ w.skipped := by
  simp only [fileItem] at shown
  split at shown
  · cases shown
  split at shown
  · next listed => simpa using listed
  · cases shown

theorem fileItemYielded {path : Path} (included : w.filter.includesFile path = true)
    (unlisted : (FileEntry.of w.root path).relative ∉ w.skipped) :
    fileItem w path = .file (.of w.root path) := by
  simp [fileItem, included, unlisted]

theorem fileItemShows {path other : Path} (shows : (fileItem w path).Shows other) : path = other := by
  rcases fileItemCases w path with ⟨reason, item⟩ | item
  · rw [item] at shows
    exact shows
  · rw [item] at shows
    exact shows

theorem visitShows {v : Visit} {item : WalkItem} {more : List Visit} (sound : t.Sound)
    (found : t.find root = .ok top) (dir : t.get? top = some (.dir es)) (own : w.root = root)
    (stands : Stands t root top v a) (visited : visit t w v = (some item, more))
    (file : t.get? (top ++ ns) = some (.file content mode)) (shows : item.Shows (root.descend ns)) :
    item = fileItem w (root.descend ns) := by
  have given := (Tree.findLeads found).given
  have proper := belowProper sound file
  -- an entry shown under the path of the file is the file
  have same : ∀ {b node}, t.get? (top ++ b) = some node → root.descend b = root.descend ns →
      node = .file content mode := by
    intro b node there paths
    rw [descendInjective sound found there file paths, file] at there
    exact (Option.some.inj there).symm
  cases stands with
  | root =>
    simp only [visit, rootItemOf found dir rfl own, Prod.mk.injEq, Option.some.injEq] at visited
    obtain ⟨rfl, -⟩ := visited
    split at shows
    · next dash =>
      have parts := Path.descendComponents given proper
      rw [dash, ← show (⟨"<stdin>"⟩ : Path) = root.descend ns from shows] at parts
      exact absurd (List.cons.inj parts).1 (by decide)
    · cases same (by simpa using dir : t.get? (top ++ []) = some (.dir es)) shows
  | fault there =>
    cases visited
    exact shows.elim
  | @entry above name node levels there =>
    rcases visitEntry visited with ⟨-, none', -⟩ | ⟨-, ⟨kind, item, -⟩ | ⟨kind, item, -⟩ | ⟨-, item, -⟩⟩
    · contradiction
    · cases item
      rw [same there shows] at kind
      cases kind
    · cases item
      rw [same there shows] at kind
      cases kind
    · cases item
      rw [← fileItemShows shows]

end Walk

namespace Migration

open Walk

theorem memBehind {t : Tree} {w : Walk} {items : List WalkItem} {item : WalkItem}
    (other : ∀ e, item ≠ .failed e) : item ∈ (above? t w).toList ++ items ↔ item ∈ items := by
  cases told : above? t w with
  | none => rfl
  | some other =>
    obtain ⟨e, rfl⟩ := aboveFailed told
    simp [other e]

variable {m : Migration} {t last : Tree} {root : Path} {top : Location} {w : Walk} {f : Filter}
  {ns : List String} {es : Directory} {content : Bytes} {mode : Nat} {items : List WalkItem}
  {os : List FileOutcome}

theorem Course.showsFile {agenda : List Visit} (sound : t.Sound) (found : t.find root = .ok top)
    (dir : t.get? top = some (.dir es)) (own : w.root = root) (dry : m.dryRun = true)
    (course : Course m w t agenda items os last) (standing : ∀ v ∈ agenda, ∃ a, Stands t root top v a)
    (file : t.get? (top ++ ns) = some (.file content mode)) :
    ∀ item ∈ items, item.Shows (root.descend ns) → item = fileItem w (root.descend ns) := by
  induction course with
  | done t => simp
  | @visit t u last v rest more item? items os outcomes visited taken next ih =>
    obtain rfl := dryTake dry taken
    obtain ⟨a, stands⟩ := standing v (by simp)
    obtain ⟨stops, rfl, planned, -⟩ := visitPlanned sound found dir rfl own stands visited
    have inside : ∀ x ∈ stops.map Prod.fst, ∃ a, Stands t root top x a := by
      intro x hx
      obtain ⟨s, hs, rfl⟩ := List.mem_map.mp hx
      exact ⟨s.2, planned.stands s hs⟩
    have onward := visitsOnward standing inside
    intro item hi shows
    rcases List.mem_append.mp hi with here | later
    · rw [Option.mem_toList] at here
      rw [here] at visited
      exact visitShows sound found dir own stands visited file shows
    · exact ih sound found dir onward file item later shows

theorem placeListed (sound : t.Sound) (found : t.find root = .ok top) (down : ns ≠ [])
    (file : t.get? (top ++ ns) = some (.file content mode)) (straight : ∀ n ∈ ns, '\\' ∉ n.toList)
    (others : ∀ p ∈ f.skipped, ∀ ms, t.canonical? p = some (top ++ ms) → ∀ n ∈ ms, '\\' ∉ n.toList)
    (listed : (FileEntry.of root (root.descend ns)).relative ∈ skipList t root f) :
    f.Lists t (root.descend ns) := by
  have proper := belowProper sound file
  obtain ⟨k, rooted, p, hp, ms, leads, same⟩ := skipListPlace.mp listed
  obtain rfl := Tree.canonicalFind rooted found
  obtain ⟨node, near⟩ := Tree.canonicalNear leads
  obtain ⟨other, stands⟩ := Tree.canonicalStands leads
  rw [FileEntry.of, RelPath.relativeToNames (Tree.findLeads found).given down proper] at same
  obtain rfl := RelPath.placeInjective down proper (belowProper sound stands) straight
    (others p hp ms leads) same
  exact ⟨p, hp, _, leads, Tree.canonicalDescend sound rooted down file near⟩

/-- Of the regular files below the root those alone are skipped as listed that have the canonical
location of a listed file. All others with an extension to be included are yielded if the walk comes
to them, and it comes to them unless a directory above them is left out. -/
theorem skipsListed (sound : t.Sound) (found : t.find root = .ok top)
    (dir : t.get? top = some (.dir es))
    (others : ∀ p ∈ f.skipped, ∀ ms, t.canonical? p = some (top ++ ms) → ∀ n ∈ ms, '\\' ∉ n.toList) :
    ∃ items, t.walk root f = .ok items ∧
      ∀ ns content mode, t.get? (top ++ ns) = some (.file content mode) →
        (∀ n ∈ ns, '\\' ∉ n.toList) →
        (.skipped (root.descend ns) .skipListed ∈ items → f.Lists t (root.descend ns)) ∧
        (f.includesFile (root.descend ns) = true → ¬f.Lists t (root.descend ns) →
          ((∃ item ∈ items, item.Shows (root.descend ns)) ∨
            f.gitignore = false ∧ root.components ≠ [.name ['-']] ∧
              (∀ d ∈ ns.dropLast, d ≠ ".git" ∧ d ∉ f.excludedDirs) ∧
              (root.descend ns.dropLast).text.utf8ByteSize < Tree.pathLimit) →
          .file (.of root (root.descend ns)) ∈ items) := by
  obtain ⟨items, os, walked, course⟩ :=
    walkCourse sound ⟨⟨⟨"", []⟩, []⟩, true⟩ (startAt found dir f)
  obtain ⟨items, _, below, rfl⟩ := course.behind
  refine ⟨_, walked, fun ns content mode file straight => ?_⟩
  have down := fileDown dir file
  have shown := below.showsFile sound found dir rfl rfl (by simpa using ⟨[], .root⟩) file
  have listed := placeListed sound found down file straight others
  constructor
  · intro skipped
    have place := fileItemListed (shown _ ((memBehind (by simp)).mp skipped) rfl).symm
    exact listed place
  intro included unlisted reached
  have yields : Yields (fresh t root f) ns :=
    fileItemYielded included fun place => unlisted (listed place)
  refine (memBehind (by simp)).mpr ?_
  rcases reached with ⟨item, here, shows⟩ | ⟨off, named, above, short⟩
  · have inside := (memBehind fun e failed => (failed ▸ shows : (WalkItem.failed e).Shows _)).mp here
    rw [shown item inside shows, yields] at inside
    exact inside
  · have way := (clearNames down (belowProper sound file)).mpr ⟨above, short⟩
    have sees : Sees t root top f .root ns := ⟨named, [], .root, way⟩
    exact memFiles.mp ((below.sees sound found dir off rfl (rootPending t root top) file).mpr
      ⟨yields, .root, by simp, sees⟩)

def mirrored : Tree :=
  let file := Node.file (bytesOf "x".toList) 0o644
  ⟨.dir [("p", .dir [("a", .dir [("b", file)]), ("c", file), ("d\\e", file)]), ("l", .link ⟨"p"⟩)], []⟩

def mirroredFilter : Filter := { skipped := [⟨"./p/..//l/a/b"⟩] }

set_option maxRecDepth 100000 in
theorem skipsListedMirrored :
    mirrored.Sound ∧ mirrored.find ⟨"l/"⟩ = .ok ["p"] ∧
      ∃ items, mirrored.walk ⟨"l/"⟩ mirroredFilter = .ok items ∧
        .skipped ⟨"l/a/b"⟩ .skipListed ∈ items ∧ mirroredFilter.Lists mirrored ⟨"l/a/b"⟩ ∧
        ¬mirroredFilter.Lists mirrored ⟨"l/c"⟩ ∧ .file ⟨⟨"l/c"⟩, ⟨"c"⟩⟩ ∈ items := by
  have sound : mirrored.Sound := by decide +kernel
  have found : mirrored.find ⟨"l/"⟩ = .ok ["p"] := by decide +kernel
  have listed : mirrored.canonical? ⟨"./p/..//l/a/b"⟩ = some ["p", "a", "b"] := by decide +kernel
  have unlisted : ¬mirroredFilter.Lists mirrored ⟨"l/c"⟩ := by decide +kernel
  have shown : (mirrored.walk ⟨"l/"⟩ mirroredFilter).toOption.map
      (·.contains (.skipped ⟨"l/a/b"⟩ .skipListed)) = some true := by decide +kernel
  obtain ⟨items, walked, each⟩ := skipsListed sound found rfl (f := mirroredFilter) <| by
    intro p hp ms canonical
    rw [List.mem_singleton.mp hp, listed] at canonical
    obtain rfl : ["a", "b"] = ms := by simpa using canonical
    decide
  have skipped : .skipped ⟨"l/a/b"⟩ .skipListed ∈ items := by
    simpa [walked, Except.toOption] using shown
  refine ⟨sound, found, items, walked, skipped, ?_, unlisted, ?_⟩
  · exact (each ["a", "b"] _ _ rfl (by decide)).1 skipped
  · refine (each ["c"] _ _ rfl (by decide)).2 rfl unlisted (.inr ⟨rfl, by decide +kernel, ?_⟩)
    exact ⟨by simp, by decide +kernel⟩

def crossed : Tree :=
  ⟨.dir [("r", .dir [("a", .dir [("b", .file (bytesOf "x".toList) 0o644)]),
    ("a\\b", .file (bytesOf "y".toList) 0o644)])], []⟩

def crossedFilter : Filter := { skipped := [⟨"r/a/b"⟩] }

set_option maxRecDepth 100000 in
theorem skipsUnlisted :
    crossed.Sound ∧ ¬crossedFilter.Lists crossed ⟨"r/a\\b"⟩ ∧
      (crossed.walk ⟨"r"⟩ crossedFilter).toOption =
        some [.skipped ⟨"r"⟩ .notAFile, .skipped ⟨"r/a"⟩ .notAFile, .skipped ⟨"r/a/b"⟩ .skipListed,
          .skipped ⟨"r/a\\b"⟩ .skipListed] := by
  decide +kernel

end Migration

end Codemod
