import Codemod.Proofs.Coverage

/-!
What a walk yields when no ignore files are read: exactly the regular files below the root that its
filter selects, each once, depth first and in the order of the bytes of their names. How the root is
spelled does not matter, unless the spelling is that of the input stream.
-/
namespace Codemod

namespace Path

theorem joinLonger {p : Path} {n : String} (name : IsName n.toList) :
    p.text.utf8ByteSize ≤ (p.join ⟨n⟩).text.utf8ByteSize := by
  simp only [join, joinOf, name.relative, decide_false, Bool.false_or]
  split
  · next nothing =>
    have empty : p.text = "" := by simpa using nothing
    simp [empty]
  split
  · simp [String.ofList_append]
  · simp [String.ofList_append]

theorem descendLonger (p : Path) {names : List String} (proper : ∀ n ∈ names, IsName n.toList) :
    p.text.utf8ByteSize ≤ (p.descend names).text.utf8ByteSize := by
  induction names generalizing p with
  | nil => exact Nat.le_refl _
  | cons n rest ih =>
    rw [descendCons]
    exact Nat.le_trans (joinLonger (proper n (by simp)))
      (ih _ fun m hm => proper m (List.mem_cons_of_mem _ hm))

theorem descendAppend (p : Path) (ns ms : List String) :
    p.descend (ns ++ ms) = (p.descend ns).descend ms := by
  simp [descend]

end Path

namespace Node

/-- What stands at a location, be it in a closed directory. -/
def holds? (n : Node) : Location → Option Node
  | [] => some n
  | name :: rest =>
    match n with
    | .dir es | .closed es => (List.lookup name es).bind fun c => c.holds? rest
    | _ => none

theorem getHolds {n : Node} {l : Location} {content : Bytes} {mode : Nat} :
    n.get? l = some (.file content mode) ↔ n.holds? l = some (.file content mode) ∧
      ∀ above es, above <+: l → n.holds? above ≠ some (.closed es) := by
  induction l generalizing n with
  | nil => simp +contextual [get?, holds?]
  | cons name rest ih =>
    cases n with
    | file c m => simp [get?, child?, holds?]
    | link target => simp [get?, child?, holds?]
    | closed es =>
      constructor
      · simp [get?, child?]
      · rintro ⟨-, opened⟩
        exact absurd rfl (opened [] es List.nil_prefix)
    | dir es =>
      simp only [get?, child?, holds?, Option.bind_eq_some_iff]
      constructor
      · rintro ⟨c, entry, below⟩
        obtain ⟨there, opened⟩ := ih.mp below
        refine ⟨⟨c, entry, there⟩, fun above fs front => ?_⟩
        cases above with
        | nil => simp [holds?]
        | cons other more =>
          obtain ⟨rfl, less⟩ := List.cons_prefix_cons.mp front
          simpa [holds?, entry] using opened more fs less
      · rintro ⟨⟨c, entry, there⟩, opened⟩
        refine ⟨c, entry, ih.mpr ⟨there, fun more fs less => ?_⟩⟩
        simpa [holds?, entry] using opened (name :: more) fs (List.cons_prefix_cons.mpr ⟨rfl, less⟩)

theorem holdsAppend {n m : Node} {l : Location} (there : n.get? l = some m) (k : Location) :
    n.holds? (l ++ k) = m.holds? k := by
  induction l generalizing n with
  | nil => rw [List.nil_append, Option.some.inj there]
  | cons name rest ih =>
    obtain ⟨c, child, below⟩ := Option.bind_eq_some_iff.mp there
    obtain ⟨es, rfl, entry⟩ := childDir child
    simp [holds?, entry, ih below]

end Node

namespace Walk

variable {t : Tree} {root : Path} {top : Location} {f : Filter} {ns : List String}

structure Selected (t : Tree) (root : Path) (top : Location) (f : Filter) (ns : List String) : Prop where
  file : ∃ content mode, t.root.holds? (top ++ ns) = some (.file content mode)
  opened : ∀ above es, above <+: ns → t.root.holds? (top ++ above) ≠ some (.closed es)
  included : ∀ d ∈ ns.dropLast, d ≠ ".git" ∧ d ∉ f.excludedDirs
  extension : f.extensions = [] ∨
    ∃ name, ns.getLast? = some name ∧ ∃ x ∈ f.extensions, HasExtension name x
  unlisted : t.canonical? root = some top → ∀ p ∈ f.skipped, t.canonical? p ≠ some (top ++ ns)
  short : (root.descend ns.dropLast).text.utf8ByteSize < Tree.pathLimit

theorem fileHolds {es : Directory} {content : Bytes} {mode : Nat} (dir : t.get? top = some (.dir es)) :
    t.get? (top ++ ns) = some (.file content mode) ↔
      t.root.holds? (top ++ ns) = some (.file content mode) ∧
        ∀ above fs, above <+: ns → t.root.holds? (top ++ above) ≠ some (.closed fs) := by
  have below : t.get? (top ++ ns) = (Node.dir es).get? ns := by
    rw [Tree.get?, Node.getAppend, show t.root.get? top = some (.dir es) from dir]
    rfl
  simp only [below, Node.holdsAppend dir, Node.getHolds]

theorem clearNames (down : ns ≠ []) (proper : ∀ n ∈ ns, Path.IsName n.toList) :
    Clear f root [] ns ↔ (∀ d ∈ ns.dropLast, d ≠ ".git" ∧ d ∉ f.excludedDirs) ∧
      (root.descend ns.dropLast).text.utf8ByteSize < Tree.pathLimit := by
  have excluded : ∀ d, f.excludesDir d = false ↔ d ≠ ".git" ∧ d ∉ f.excludedDirs := by
    simp [Filter.excludesDir]
  have last : ns.dropLast ≠ ns := fun same => by
    have size := congrArg List.length same
    have some' := List.length_pos_iff.mpr down
    rw [List.length_dropLast] at size
    omega
  constructor
  · intro way
    refine ⟨fun d hd => ?_, (way.enters _ List.nil_prefix (List.dropLast_prefix ns) last).2⟩
    obtain ⟨above, below, split⟩ := List.append_of_mem hd
    have onTheWay : above ++ [d] <+: ns :=
      (List.prefix_append (above ++ [d]) below).trans (by simpa [split] using List.dropLast_prefix ns)
    have other : above ++ [d] ≠ ns := by
      rintro rfl
      simp at split
    exact (excluded d).mp ((way.enters _ List.nil_prefix onTheWay other).1 d (by simp))
  · rintro ⟨included, short⟩
    refine ⟨List.nil_prefix, fun d _ below other => ?_⟩
    have above : d <+: ns.dropLast := by
      obtain ⟨more, rfl⟩ := below
      have some' : more ≠ [] := by
        rintro rfl
        simp at other
      rw [List.dropLast_append_of_ne_nil some']
      exact List.prefix_append d _
    refine ⟨fun name named => (excluded name).mpr (included name ?_), ?_⟩
    · exact above.subset (List.mem_of_getLast? named)
    -- the directory that holds the entry has the longest path on the way
    · obtain ⟨more, same⟩ := above
      rw [← same, Path.descendAppend] at short
      refine Nat.lt_of_le_of_lt (Path.descendLonger _ fun n hn => proper n ?_) short
      exact (List.dropLast_prefix ns).subset (same ▸ List.mem_append_right d hn)

theorem yieldsNames {node : Node} (sound : t.Sound) (straight : Straight t top)
    (found : t.find root = .ok top) (down : ns ≠ []) (there : t.get? (top ++ ns) = some node) :
    Yields (fresh t root f) ns ↔
      (f.extensions = [] ∨ ∃ name, ns.getLast? = some name ∧ ∃ x ∈ f.extensions, HasExtension name x) ∧
        (t.canonical? root = some top → ∀ p ∈ f.skipped, t.canonical? p ≠ some (top ++ ns)) := by
  have listed := skipListed sound straight found down there (f := f)
  have entry := entryOf sound straight found down there
  have includes := Filter.includesNames (Tree.findLeads found).given down (belowProper sound there)
    (f := f)
  rw [← includes]
  have hidden :
      (t.canonical? root = some top → ∀ p ∈ f.skipped, t.canonical? p ≠ some (top ++ ns)) ↔
        (⟨"/".intercalate ns⟩ : RelPath) ∉ skipList t root f := by
    rw [listed]
    simp
  rw [hidden]
  unfold Yields fileItem
  simp only [entry]
  by_cases included : f.includesFile (root.descend ns) = true
  · by_cases skipped : (⟨"/".intercalate ns⟩ : RelPath) ∈ skipList t root f
    · simp [included, skipped]
    · simp [included, skipped]
  · simp [included]

theorem startAt {es : Directory} (found : t.find root = .ok top) (dir : t.get? top = some (.dir es))
    (f : Filter) : Walk.start t root f = .ok (fresh t root f) := by
  have looked : t.look root = .ok (.dir es) := Tree.lookOk.mpr ⟨top, found, dir⟩
  simp [Walk.start, looked, Node.isDir, Tree.listOf, Except.bind, Tree.listingOf]

end Walk

namespace Migration

open Walk

variable {m : Migration} {t last : Tree} {root : Path} {top : Location} {f : Filter} {ns : List String}
  {es : Directory} {items : List WalkItem} {os : List FileOutcome}

theorem courseSelected {content : Bytes} {mode : Nat} (sound : t.Sound) (found : t.find root = .ok top)
    (dir : t.get? top = some (.dir es)) (straight : Straight t top)
    (named : root.components ≠ [.name ['-']]) (off : f.gitignore = false) (dry : m.dryRun = true)
    (course : Course m (fresh t root f) t [.root] items os last)
    (file : t.get? (top ++ ns) = some (.file content mode)) :
    FileEntry.of root (root.descend ns) ∈ files items ↔ Selected t root top f ns := by
  have down := fileDown dir file
  have clear : Clear f root [] ns ↔ _ := clearNames down (belowProper sound file)
  rw [course.sees sound found dir off dry (rootPending t root top) file, yieldsNames sound straight found down file]
  simp only [List.mem_singleton, exists_eq_left, seesFrom sound found dir .root, clear]
  constructor
  · rintro ⟨⟨extension, unlisted⟩, -, included, short⟩
    obtain ⟨there, opened⟩ := (fileHolds dir).mp file
    exact ⟨⟨content, mode, there⟩, opened, included, extension, unlisted, short⟩
  · intro selected
    exact ⟨⟨selected.extension, selected.unlisted⟩, named, selected.included, selected.short⟩

/-- A walk without ignore rules yields the selected files and no others, each once, with the names on
the way down as its place below the root. -/
theorem walkExact (sound : t.Sound) (found : t.find root = .ok top) (dir : t.get? top = some (.dir es))
    (plain : ∀ name ∈ (Node.dir es).names, '\\' ∉ name.toList)
    (named : root.components ≠ [.name ['-']]) (off : f.gitignore = false) :
    ∃ (items : List WalkItem) (selection : List (List String)), t.walk root f = .ok items ∧
      files items = selection.map (fun ns => ⟨root.descend ns, ⟨"/".intercalate ns⟩⟩) ∧
      selection.Nodup ∧ selection.Pairwise Before ∧
      ∀ ns, ns ∈ selection ↔ Selected t root top f ns := by
  have straight := straightBelow dir plain
  have started := startAt found dir f
  obtain ⟨items, os, walked, course⟩ := walkCourse sound ⟨⟨⟨"", []⟩, []⟩, true⟩ started
  obtain ⟨items, _, below, rfl⟩ := course.behind
  obtain ⟨shown, sighted⟩ := courseSighted sound found dir rfl below
  obtain ⟨selection, entries, ordered, each⟩ := sighted.entries
  refine ⟨_, selection, walked, ?_, ordered.imp Before.ne, ordered, fun ns => ⟨?_, ?_⟩⟩
  · rw [filesBehind, entries]
    refine List.map_congr_left fun ns hn => ?_
    obtain ⟨down, content, mode, there⟩ := each ns hn
    exact entryOf sound straight found down there
  · intro hn
    obtain ⟨-, content, mode, there⟩ := each ns hn
    refine (courseSelected sound found dir straight named off rfl below there).mp ?_
    rw [entries]
    exact List.mem_map_of_mem hn
  · intro selected
    obtain ⟨content, mode, held⟩ := selected.file
    have there := (fileHolds dir).mpr ⟨held, selected.opened⟩
    have yielded := (courseSelected sound found dir straight named off rfl below there).mpr selected
    rw [entries] at yielded
    obtain ⟨ms, hm, same⟩ := List.mem_map.mp yielded
    obtain ⟨-, _, _, other⟩ := each ms hm
    rwa [← descendInjective sound found other there (congrArg FileEntry.path same)]

def library : Tree :=
  let file := Node.file (bytesOf "x".toList) 0o644
  ⟨.dir [("lib", .dir [(".git", .dir [("a.rs", file)]), ("b", .dir [("c.rs", file), ("c.txt", file)]),
    ("a.rs", file), (".rs", file), ("old", .dir [("d.rs", file)]), ("e.rs", .link ⟨"a.rs"⟩),
    ("f.rs", file), ("shut", .closed [("g.rs", file)])])], ["lib"]⟩

def libraryFilter : Filter :=
  { extensions := ["rs"], excludedDirs := ["old"], skipped := [⟨"../lib/b/../f.rs"⟩] }

set_option maxRecDepth 100000 in
theorem walkExactLibrary :
    library.Sound ∧ library.find ⟨"./b/.."⟩ = .ok ["lib"] ∧
      ∃ (items : List WalkItem) (selection : List (List String)),
        library.walk ⟨"./b/.."⟩ libraryFilter = .ok items ∧
        files items = [⟨⟨"./b/../a.rs"⟩, ⟨"a.rs"⟩⟩, ⟨⟨"./b/../b/c.rs"⟩, ⟨"b/c.rs"⟩⟩] ∧
        files items = selection.map (fun ns => ⟨Path.descend ⟨"./b/.."⟩ ns, ⟨"/".intercalate ns⟩⟩) ∧
        ∀ ns, ns ∈ selection ↔ Selected library ⟨"./b/.."⟩ ["lib"] libraryFilter ns := by
  have sound : library.Sound := by decide +kernel
  have found : library.find ⟨"./b/.."⟩ = .ok ["lib"] := by decide +kernel
  have yielded : (library.walk ⟨"./b/.."⟩ libraryFilter).toOption.map files =
      some [⟨⟨"./b/../a.rs"⟩, ⟨"a.rs"⟩⟩, ⟨⟨"./b/../b/c.rs"⟩, ⟨"b/c.rs"⟩⟩] := by decide +kernel
  obtain ⟨items, selection, walked, entries, -, -, selected⟩ :=
    walkExact sound found rfl (by decide +kernel) (by decide +kernel) rfl (f := libraryFilter)
  refine ⟨sound, found, items, selection, walked, ?_, entries, selected⟩
  simpa [walked, Except.toOption] using yielded

def dashed : Tree := ⟨.dir [("-", .dir [("a.txt", .file (bytesOf "x".toList) 0o644)])], []⟩

set_option maxRecDepth 100000 in
theorem walkMissesDashed :
    dashed.Sound ∧ dashed.find ⟨"-"⟩ = .ok ["-"] ∧ Selected dashed ⟨"-"⟩ ["-"] {} ["a.txt"] ∧
      (dashed.walk ⟨"-"⟩ {}).toOption = some [.skipped ⟨"<stdin>"⟩ .notAFile] := by
  have root : dashed.get? ["-"] = some (.dir [("a.txt", .file (bytesOf "x".toList) 0o644)]) := rfl
  refine ⟨by decide +kernel, by decide +kernel, ⟨⟨_, _, rfl⟩, ?_, ?_, .inl rfl, ?_, ?_⟩,
    by decide +kernel⟩
  · exact ((fileHolds root).mp rfl).2
  · simp
  · simp
  · decide +kernel

end Migration

end Codemod
