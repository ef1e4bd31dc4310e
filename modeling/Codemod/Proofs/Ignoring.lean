import Codemod.Proofs.Exactness
import Codemod.Proofs.Spelling

/-!
What ignore files do to a walk. A walk that honours them and one that does not go side by side: what
is still to be visited by the one is, apart from the rules in force there, still to be visited by the
other, in the same order. So rules can only leave out, whatever they say about keeping, and without a
file that holds rules nothing is left out.
-/
namespace Codemod

namespace Ignore

def Level.Silent (l : Level) : Prop := l.own.rules = [] ∧ l.apart.rules = []

theorem RuleFile.verdictNone {file : RuleFile} (empty : file.rules = []) (path : List Char)
    (isDir : Bool) : file.verdict? path isDir = none := by
  simp [verdict?, empty]

theorem ignoresSilent {levels : List Level} (silent : ∀ l ∈ levels, l.Silent) (path : Path)
    (isDir : Bool) : ignores levels path isDir = false := by
  have own : ∀ cs, levels.findSome? (fun l => l.own.verdict? cs isDir) = none := fun cs =>
    List.findSome?_eq_none_iff.mpr fun l hl => RuleFile.verdictNone (silent l hl).1 cs isDir
  have apart : ∀ cs, levels.findSome? (fun l => l.apart.verdict? cs isDir) = none := fun cs =>
    List.findSome?_eq_none_iff.mpr fun l hl => RuleFile.verdictNone (silent l hl).2 cs isDir
  simp [ignores, own, apart]

end Ignore

namespace Walk

def honouring (w : Walk) (on : Bool) : Walk := { w with filter := { w.filter with gitignore := on } }

def Visit.unruled : Visit → Visit
  | .entry path name kind _ => .entry path name kind []
  | v => v

def Visit.Ignored : Visit → Prop
  | .entry path _ kind levels => Ignore.ignores levels path (kind = .dir) = true
  | _ => False

def Visit.Silent : Visit → Prop
  | .entry _ _ _ levels => ∀ l ∈ levels, l.Silent
  | _ => True

theorem Visit.Silent.visited {v : Visit} (silent : v.Silent) : ¬v.Ignored := by
  cases v with
  | above => exact id
  | root => exact id
  | fault path e => exact id
  | entry path name kind levels => simp [Ignored, Ignore.ignoresSilent silent]

variable {t : Tree} {root : Path} {top : Location} {w : Walk} {f : Filter} {a : List String}
  {es : Directory}

theorem childrenUnruled (t : Tree) (w : Walk) (dir : Path) (levels : List Ignore.Level) :
    children t (w.honouring false).filter dir [] =
      (children t (w.honouring true).filter dir levels).map Visit.unruled := by
  rw [childrenOf, childrenOf]
  cases t.list dir with
  | error e => rfl
  | ok names => simp [Visit.unruled, inner, honouring]

theorem rootItemUnruled (found : t.find w.root = .ok top) (dir : t.get? top = some (.dir es)) :
    rootItem t (w.honouring false) =
      ((rootItem t (w.honouring true)).1, (rootItem t (w.honouring true)).2.map Visit.unruled) := by
  have item : ∀ on, rootItem t (w.honouring on) = _ := fun on => rootItemOf found dir rfl rfl
  rw [item false, item true]
  split
  · rfl
  · rw [← childrenUnruled]

theorem visitUnruled {v : Visit} {item? : Option WalkItem} {more : List Visit}
    (found : t.find w.root = .ok top) (dir : t.get? top = some (.dir es)) (within : v ≠ .above)
    (visited : visit t (w.honouring true) v = (item?, more)) :
    (v.Ignored ∧ item? = none ∧ more = []) ∨
      visit t (w.honouring false) v.unruled = (item?, more.map Visit.unruled) := by
  cases v with
  | above => exact absurd rfl within
  | root =>
    cases visited
    refine .inr ?_
    simp only [Visit.unruled, visit, rootItemUnruled found dir]
  | fault path e =>
    cases visited
    exact .inr rfl
  | entry path name kind levels =>
    cases ignored : Ignore.ignores levels path (kind = .dir) with
    | true =>
      have hidden : passesOver (w.honouring true).filter path name kind levels = true := by
        simp [passesOver, ignored]
      simp only [visit, hidden, if_true] at visited
      cases visited
      exact .inl ⟨ignored, rfl, rfl⟩
    | false =>
      refine .inr ?_
      have same : passesOver (w.honouring false).filter path name kind [] =
          passesOver (w.honouring true).filter path name kind levels := by
        rw [passesOver, passesOver, ignored]
        rfl
      simp only [Visit.unruled, visit, same]
      rcases visitEntry visited with
        ⟨hidden, rfl, rfl⟩ | ⟨shown, ⟨rfl, rfl, rfl⟩ | ⟨rfl, rfl, rfl⟩ | ⟨rfl, rfl, rfl⟩⟩
      · rw [if_pos hidden]
        rfl
      · simp only [shown, Bool.false_eq_true, if_false]
        rw [childrenUnruled]
      · simp [shown]
      · simp only [shown, Bool.false_eq_true, if_false]
        rfl

theorem readMissing {file : Path} (missing : ∀ l, t.find file ≠ .ok l) : ∃ e, t.read file = .error e := by
  cases found : t.find file with
  | error e => exact ⟨e, by simp [Tree.readOf, Tree.lookOf, found, Except.bind]⟩
  | ok l => exact absurd found (missing l)

theorem ruleFileMissing {dir file : Path} (missing : ∀ l, t.find file ≠ .ok l) :
    (ruleFile t dir file).rules = [] := by
  obtain ⟨e, failed⟩ := readMissing missing
  simp only [ruleFile, failed]
  rfl

theorem ignoreFilesDescend (root : Path) (a : List String) :
    ignoreFiles (root.descend a) =
      [root.descend (a ++ [".gitignore"]), root.descend (a ++ [".git", "info", "exclude"])] := by
  have inside := Path.joinNames (root.descend (a ++ [".git"])) (by simp : ["info", "exclude"] ≠ [])
    (by decide)
  rw [← Path.descendAppend, Path.descendSnoc, List.append_assoc] at inside
  rw [ignoreFiles, ← Path.descendSnoc]
  exact congrArg ([_, ·]) inside

theorem ignoreFilesMissing {fs : Directory} (sound : t.Sound) (found : t.find root = .ok top)
    (here : t.get? (top ++ a) = some (.dir fs)) (own : List.lookup ".gitignore" fs = none)
    (apart : List.lookup ".git" fs = none) :
    ∀ g ∈ ignoreFiles (root.descend a), ∀ l, t.find g ≠ .ok l := by
  rw [ignoreFilesDescend]
  intro g hg l
  rcases List.mem_pair.mp hg with rfl | rfl
  · exact Tree.findMissing sound found here (by decide) own
  · exact Tree.findMissing sound found here (by decide) apart

theorem levelSilent {fs : Directory} (sound : t.Sound) (found : t.find root = .ok top)
    (here : t.get? (top ++ a) = some (.dir fs)) (own : List.lookup ".gitignore" fs = none)
    (apart : List.lookup ".git" fs = none) : (level t (root.descend a)).Silent := by
  have missing := ignoreFilesMissing sound found here own apart
  have beside := missing ((root.descend a).join ⟨".gitignore"⟩) (by simp [ignoreFiles])
  have inside := missing (((root.descend a).join ⟨".git"⟩).join ⟨"info/exclude"⟩) (by simp [ignoreFiles])
  have one : (ruleFile t (root.descend a) _).rules = [] := ruleFileMissing beside
  have two : (ruleFile t (root.descend a) _).rules = [] := ruleFileMissing inside
  rw [level]
  exact ⟨one, two⟩

theorem missingBelow {node : Node} {name : String} {fs : Directory} (whole : t.get? top = some node)
    (here : t.get? (top ++ a) = some (.dir fs)) (absent : name ∉ node.names) :
    List.lookup name fs = none := by
  by_contra present
  obtain ⟨child, entry⟩ := Option.ne_none_iff_exists'.mp present
  have there : t.get? (top ++ (a ++ [name])) = some child := by
    rw [← List.append_assoc, Tree.getStep here, entry]
  rw [Tree.get?, Node.getAppend, show t.root.get? top = some node from whole] at there
  exact absent (Node.namesGet there name (by simp))

theorem rootedDescend {l : Location} (proper : ∀ n ∈ l, Path.IsName n.toList) :
    (⟨"/" ++ "/".intercalate l⟩ : Path) = Path.descend ⟨"/"⟩ l := by
  by_cases nothing : l = []
  · subst nothing
    rfl
  · have relative : ("/".intercalate l).toList.head? ≠ some '/' := by
      rw [← RelPath.joinedNames, String.toList_ofList]
      exact Path.namesHead (by simpa using proper)
    have joined : Path.joinOf ['/'] _ = '/' :: _ := Path.joinRelative (by simp) relative
    rw [← Path.joinNames _ nothing proper, Path.join, Path.mk.injEq, ← String.toList_inj,
      String.toList_ofList, String.toList_append]
    exact joined.symm

theorem findTop {es : Directory} (dir : t.get? [] = some (.dir es)) : t.find ⟨"/"⟩ = .ok [] := by
  have steps : Tree.steps "/".toList = ["."] := by decide
  have resolved : Tree.resolve t false Tree.linkLimit [] ["."] = .ok (.entry []) := by
    rw [Tree.linkLimit, Tree.resolve, Tree.takeSteps, dir]
    simp [Tree.takeSteps]
  have located : t.locate ⟨"/"⟩ false = .ok (.entry []) := by
    rw [Tree.locate, if_neg (by decide), if_neg (by decide), if_neg (by decide), steps]
    exact resolved
  rw [Tree.find, located]

theorem getOnTheWay {l k : Location} {node : Node} (there : t.get? (l ++ k) = some node) (down : k ≠ []) :
    ∃ fs, t.get? l = some (.dir fs) := by
  obtain ⟨name, rest, rfl⟩ := List.exists_cons_of_ne_nil down
  rw [Tree.get?, Node.getAppend] at there
  obtain ⟨d, here, below⟩ := Option.bind_eq_some_iff.mp there
  obtain ⟨c, child, -⟩ := Option.bind_eq_some_iff.mp below
  obtain ⟨fs, rfl, -⟩ := Node.childDir child
  exact ⟨fs, here⟩

theorem filesAboveMissing (sound : t.Sound) (own : ".gitignore" ∉ t.root.names)
    (apart : ".git" ∉ t.root.names) (root : Path) : ∀ g ∈ filesAbove t root, ∀ l, t.find g ≠ .ok l := by
  unfold filesAbove
  split
  · simp
  next top canonical =>
  intro g hg
  obtain ⟨n, within, named⟩ := List.mem_flatMap.mp hg
  have short : n < top.length := List.mem_range.mp within
  obtain ⟨node, there⟩ := Tree.canonicalStands canonical
  have below : top.drop n ≠ [] := by simpa using short
  obtain ⟨fs, inside⟩ := getOnTheWay ((List.take_append_drop n top).symm ▸ there) below
  obtain ⟨es, whole⟩ := getOnTheWay (l := []) there (List.ne_nil_of_length_pos (by omega))
  have here : t.get? ([] ++ top.take n) = some (.dir fs) := inside
  rw [rootedDescend (belowProper sound here)] at named
  exact ignoreFilesMissing sound (findTop whole) here (missingBelow rfl here own)
    (missingBelow rfl here apart) g named

theorem aboveMissing (sound : t.Sound) (own : ".gitignore" ∉ t.root.names)
    (apart : ".git" ∉ t.root.names) (w : Walk) : above? t w = none := by
  have none' : (filesAbove t w.root).flatMap (faultsIn t) = [] := by
    refine List.flatMap_eq_nil_iff.mpr fun g hg => ?_
    obtain ⟨e, failed⟩ := readMissing (filesAboveMissing sound own apart w.root g hg)
    rw [faultsIn, failed]
  simp only [above?, none', List.head?_nil, Option.map_none, ite_self]

structure Free (t : Tree) (root : Path) (top : Location) (v : Visit) : Prop where
  silent : v.Silent
  stands : ∃ a, Stands t root top v a

theorem childrenSilent {dir : Path} {levels : List Ignore.Level} (own : (level t dir).Silent)
    (above : ∀ l ∈ levels, l.Silent) : ∀ v ∈ children t f dir levels, v.Silent := by
  have within : ∀ l ∈ inner t f dir levels, l.Silent := by
    unfold inner
    split
    · simpa using ⟨own, above⟩
    · exact above
  rw [childrenOf]
  intro v hv
  split at hv
  · rw [List.mem_singleton.mp hv]
    trivial
  · obtain ⟨x, -, rfl⟩ := List.mem_map.mp hv
    exact within

theorem visitFree {v : Visit} {item? : Option WalkItem} {more : List Visit} (sound : t.Sound)
    (found : t.find w.root = .ok top) (dir : t.get? top = some (.dir es))
    (own : ".gitignore" ∉ (Node.dir es).names) (apart : ".git" ∉ (Node.dir es).names)
    (free : Free t w.root top v) (visited : visit t w v = (item?, more)) :
    ∀ x ∈ more, Free t w.root top x := by
  obtain ⟨silent, a, stands⟩ := free
  have level : ∀ {b fs}, t.get? (top ++ b) = some (.dir fs) →
      (level t (w.root.descend b)).Silent := fun here =>
    levelSilent sound found here (missingBelow dir here own) (missingBelow dir here apart)
  have further : ∀ x ∈ more, x.Silent := by
    cases stands with
    | root =>
      simp only [visit, rootItemOf found dir rfl rfl, Prod.mk.injEq] at visited
      rw [← visited.2]
      split
      · simp
      · exact childrenSilent (level (b := []) (by simpa using dir)) (by simp)
    | fault there =>
      cases visited
      simp
    | @entry above name node levels there =>
      rcases visitEntry visited with ⟨-, -, rfl⟩ | ⟨-, ⟨kind, -, rfl⟩ | ⟨-, -, rfl⟩ | ⟨-, -, rfl⟩⟩
      · simp
      · cases node with
        | file content mode => cases kind
        | link target => cases kind
        | dir fs => exact childrenSilent (level there) silent
        | closed fs =>
          obtain ⟨e, failed⟩ := listClosed sound found there
          simp [childrenOf, failed, Visit.Silent]
      · simp
      · simp
  obtain ⟨stops, rfl, planned, -⟩ := visitPlanned sound found dir rfl rfl stands visited
  intro x hx
  refine ⟨further x hx, ?_⟩
  obtain ⟨s, hs, rfl⟩ := List.mem_map.mp hx
  exact ⟨s.2, planned.stands s hs⟩

end Walk

namespace Migration

open Walk

variable {m : Migration} {t last final : Tree} {root : Path} {top : Location} {w : Walk} {f : Filter}
  {es : Directory} {items fewer : List WalkItem} {os ps : List FileOutcome} {agenda off : List Visit}

/- The run lemma: as long as one walk has nothing before it that is not before the other one, it
comes upon nothing that the other one does not come upon. -/
theorem Course.thins (all : Course m (w.honouring false) t off items os last)
    (found : t.find w.root = .ok top) (dir : t.get? top = some (.dir es)) (dry : m.dryRun = true)
    (kept : Course m (w.honouring true) t agenda fewer ps final) (below : ∀ v ∈ agenda, v ≠ .above)
    (within : (agenda.map Visit.unruled).Sublist off) : fewer.Sublist items := by
  induction all generalizing agenda fewer ps final with
  | done t =>
    obtain rfl : agenda = [] := by simpa using within
    cases kept
    exact List.Sublist.slnil
  | @visit t u last v rest more item? items os outcomes visited taken next ih =>
    obtain rfl := dryTake dry taken
    rcases List.sublist_cons_iff.mp within with later | ⟨others, same, later⟩
    · have before := later.trans (List.sublist_append_right more rest)
      exact (ih found dir kept below before).trans (List.sublist_append_right _ _)
    · obtain ⟨x, behind, rfl, rfl, rfl⟩ := List.map_eq_cons_iff.mp same
      cases kept with
      | @visit _ u' _ _ _ more' item' items' os' outcomes' visited' taken' next' =>
        obtain rfl := dryTake dry taken'
        have onward := visitsOnward below fun y hy => (visitBelow visited' y hy).1
        rcases visitUnruled found dir (below x (by simp)) visited' with ⟨-, rfl, rfl⟩ | alike
        · have before := later.trans (List.sublist_append_right more rest)
          exact (ih found dir next' onward before).trans (List.sublist_append_right _ _)
        · cases alike.symm.trans visited
          refine (ih found dir next' onward ?_).append_left _
          rw [List.map_append]
          exact later.append_left _

theorem Course.unruled (course : Course m (w.honouring true) t agenda items os last) (sound : t.Sound)
    (found : t.find w.root = .ok top) (dir : t.get? top = some (.dir es))
    (own : ".gitignore" ∉ (Node.dir es).names) (apart : ".git" ∉ (Node.dir es).names)
    (dry : m.dryRun = true) (free : ∀ v ∈ agenda, Free t w.root top v) :
    Course m (w.honouring false) t (agenda.map Visit.unruled) items os last := by
  induction course with
  | done t => exact .done t
  | @visit t u last v rest more item? items os outcomes visited taken next ih =>
    obtain rfl := dryTake dry taken
    have first := free v (by simp)
    have onward := visitsOnward free
      (visitFree (w := w.honouring true) sound found dir own apart first visited)
    have below : v ≠ .above := by
      rintro rfl
      obtain ⟨a, stands⟩ := first.stands
      cases stands
    have alike := (visitUnruled found dir below visited).resolve_left fun hidden =>
      first.silent.visited hidden.1
    have further := ih sound found dir onward
    rw [List.map_append] at further
    exact .visit alike taken further

theorem courseSelects (sound : t.Sound) (found : t.find root = .ok top)
    (dir : t.get? top = some (.dir es)) (off : f.gitignore = false) (dry : m.dryRun = true)
    (course : Course m (fresh t root f) t [.root] items os last) :
    ∀ e ∈ files items, ∃ ns, e = .of root (root.descend ns) ∧ Selected t root top f ns := by
  have admits := course.admits
  obtain ⟨shown, sighted⟩ := courseSighted sound found dir rfl course
  obtain ⟨named, entries, -, each⟩ := sighted.entries
  intro e he
  have admitted := admits e he
  obtain ⟨ns, hn, rfl⟩ := List.mem_map.mp (entries ▸ he)
  obtain ⟨down, content, mode, file⟩ := each ns hn
  have given := (Tree.findLeads found).given
  have proper := belowProper sound file
  obtain ⟨-, v, hv, sees⟩ := (course.sees sound found dir off dry (rootPending t root top) file).mp he
  obtain rfl := List.mem_singleton.mp hv
  obtain ⟨-, way⟩ := (seesFrom sound found dir .root).mp sees
  obtain ⟨included, short⟩ := (clearNames down proper).mp way
  obtain ⟨there, opened⟩ := (fileHolds dir).mp file
  refine ⟨ns, rfl, ⟨content, mode, there⟩, opened, included, ?_, ?_, short⟩
  · exact (Filter.includesNames given down proper).mp admitted.1
  · intro rooted p hp canonical
    refine admitted.2 (skipListPlace.mpr ⟨top, rooted, p, hp, ns, canonical, ?_⟩)
    rw [FileEntry.of, RelPath.relativeToNames given down proper]

theorem toldAbove (t : Tree) (w : Walk) :
    ∃ told : Option DiscoveryError, (above? t w).toList = told.toList.map .failed := by
  cases told : above? t w with
  | none => exact ⟨none, rfl⟩
  | some item =>
    obtain ⟨e, rfl⟩ := aboveFailed told
    exact ⟨some e, rfl⟩

theorem startRefused {g : Filter} {e : DiscoveryError} (refused : Walk.start t root f = .error e) :
    Walk.start t root g = .error e := by
  unfold Walk.start at refused ⊢
  cases looked : t.look root with
  | error io =>
    rw [looked] at refused
    cases io <;> exact refused
  | ok node =>
    simp only [looked] at refused ⊢
    split at refused
    · next other => rwa [if_pos other]
    · next dir =>
      rw [if_neg dir]
      cases listed : t.list root with
      | error io => simpa [listed] using refused
      | ok names => simp [listed] at refused

/-- Honouring ignore files only leaves out: what is still found is found in the same order, and all of
it would be selected without them. Nothing is left out where no entry can hold rules. What is told of
the ignore files above the root stands in front of it all. -/
theorem ignoringRemoves (sound : t.Sound) (root : Path) (f : Filter) :
    (∃ e, t.walk root { f with gitignore := true } = .error e ∧
      t.walk root { f with gitignore := false } = .error e) ∨
    ∃ (top : Location) (es : Directory) (told : Option DiscoveryError) (kept all : List WalkItem),
      t.find root = .ok top ∧ t.get? top = some (.dir es) ∧
      t.walk root { f with gitignore := true } = .ok (told.toList.map .failed ++ kept) ∧
      t.walk root { f with gitignore := false } = .ok all ∧
      kept.Sublist all ∧ (files kept).Sublist (files all) ∧
      (∀ e ∈ files kept, ∃ ns, e = .of root (root.descend ns) ∧ Selected t root top f ns) ∧
      (".gitignore" ∉ (Node.dir es).names → ".git" ∉ (Node.dir es).names → kept = all) ∧
      (".gitignore" ∉ t.root.names → ".git" ∉ t.root.names → told = none) := by
  cases started : Walk.start t root { f with gitignore := true } with
  | error e =>
    have refused : Walk.start t root { f with gitignore := false } = .error e := startRefused started
    refine .inl ⟨e, ?_, ?_⟩
    · simp [Tree.walk, started, bind, Except.bind]
    · simp [Tree.walk, refused, bind, Except.bind]
  | ok w =>
    obtain ⟨rfl, top, es, found, dir⟩ := startFrom started
    obtain ⟨kept, ps, keeps, thin⟩ := walkCourse sound ⟨⟨⟨"", []⟩, []⟩, true⟩ started
    obtain ⟨all, os, shows, whole⟩ :=
      walkCourse sound ⟨⟨⟨"", []⟩, []⟩, true⟩ (startAt found dir { f with gitignore := false })
    obtain ⟨kept, _, on, rfl⟩ := thin.behind
    obtain ⟨rest, _, off, same⟩ := whole.behind
    rw [aboveOff rfl] at same
    obtain rfl : all = rest := same
    let w := fresh t root f
    have fewer : kept.Sublist all :=
      Course.thins (w := w) off found dir rfl on (by simp) (.refl _)
    have files' : (files kept).Sublist (files all) := (fewer.filterMap _).filterMap _
    obtain ⟨told, above⟩ := toldAbove t (fresh t root { f with gitignore := true })
    rw [above] at keeps
    refine .inr ⟨top, es, told, kept, all, found, dir, keeps, shows, fewer, files', fun e he => ?_, ?_, ?_⟩
    · obtain ⟨ns, same, selected⟩ := courseSelects sound found dir rfl rfl off e (files'.subset he)
      exact ⟨ns, same, selected.file, selected.opened, selected.included, selected.extension,
        selected.unlisted, selected.short⟩
    · intro own apart
      have free : ∀ v ∈ [Visit.root], Free t w.root top v := by
        simpa using ⟨trivial, [], .root⟩
      exact ((Course.unruled (w := w) on sound found dir own apart rfl free).unique off).1
    · intro own apart
      rw [aboveMissing sound own apart] at above
      simpa using above.symm

def negated : Tree :=
  let file := Node.file (bytesOf "x".toList) 0o644
  let rules := "*.rs\n!keep.rs\n!/.git/\n!/.git/x.rs\n!/old/\n!/old/x.rs\n!a.txt\n!skip.rs\n"
  ⟨.dir [(".gitignore", .file (bytesOf "keep.rs\n[b-a]\n".toList) 0o644),
    ("r", .dir [(".git", .dir [("x.rs", file)]), (".gitignore", .file (bytesOf rules.toList) 0o644),
      ("a.txt", file), ("gone.rs", file), ("keep.rs", file), ("old", .dir [("x.rs", file)]),
      ("skip.rs", file)])], []⟩

def negatedFilter : Filter :=
  { extensions := ["rs"], excludedDirs := ["old"], skipped := [⟨"r/skip.rs"⟩] }

def negatedFault : DiscoveryError :=
  .walk (some ⟨"/.gitignore"⟩)
    "/.gitignore: line 2: error parsing glob '[b-a]': invalid range; 'b' > 'a'"

set_option maxRecDepth 100000 in
theorem ignoringRemovesNegated :
    negated.Sound ∧ dashed.Sound ∧
      (∃ kept all,
        negated.walk ⟨"r"⟩ { negatedFilter with gitignore := true } = .ok (.failed negatedFault :: kept) ∧
        negated.walk ⟨"r"⟩ { negatedFilter with gitignore := false } = .ok all ∧
        files kept = [⟨⟨"r/keep.rs"⟩, ⟨"keep.rs"⟩⟩] ∧
        files all = [⟨⟨"r/gone.rs"⟩, ⟨"gone.rs"⟩⟩, ⟨⟨"r/keep.rs"⟩, ⟨"keep.rs"⟩⟩] ∧
        (files kept).Sublist (files all)) ∧
      ∃ kept, dashed.walk ⟨"."⟩ { gitignore := true } = .ok kept ∧ dashed.walk ⟨"."⟩ {} = .ok kept ∧
        files kept ≠ [] := by
  have sound : negated.Sound := by decide +kernel
  have plain : dashed.Sound := by decide +kernel
  have front : (negated.walk ⟨"r"⟩ { negatedFilter with gitignore := true }).toOption.map
      (fun items => (items.head?, files items)) =
        some (some (.failed negatedFault), [⟨⟨"r/keep.rs"⟩, ⟨"keep.rs"⟩⟩]) := by decide +kernel
  have whole : (negated.walk ⟨"r"⟩ { negatedFilter with gitignore := false }).toOption.map
      (fun items => (items.contains (.failed negatedFault), files items)) =
        some (false, [⟨⟨"r/gone.rs"⟩, ⟨"gone.rs"⟩⟩, ⟨⟨"r/keep.rs"⟩, ⟨"keep.rs"⟩⟩]) := by decide +kernel
  have three : (dashed.walk ⟨"."⟩ {}).toOption.map files = some [⟨⟨"./-/a.txt"⟩, ⟨"-/a.txt"⟩⟩] := by
    decide +kernel
  have here : dashed.find ⟨"."⟩ = .ok [] := by decide +kernel
  refine ⟨sound, plain, ?_, ?_⟩
  · rcases ignoringRemoves sound ⟨"r"⟩ negatedFilter with
      ⟨e, on, -⟩ | ⟨top, es, told, kept, all, -, -, on, off, fewer, files', -⟩
    · simp [on, Except.toOption] at front
    · simp only [on, Except.toOption, Option.map_some, Option.some.injEq, Prod.mk.injEq] at front
      simp only [off, Except.toOption, Option.map_some, Option.some.injEq, Prod.mk.injEq] at whole
      cases told with
      | none =>
        have first : .failed negatedFault ∈ kept := List.mem_of_head? front.1
        exact absurd (fewer.subset first) (by simpa using whole.1)
      | some e =>
        obtain rfl : e = negatedFault := by simpa using front.1
        exact ⟨kept, all, on, off, front.2, whole.2, files'⟩
  · rcases ignoringRemoves plain ⟨"."⟩ {} with
      ⟨e, -, off⟩ | ⟨top, es, told, kept, all, found, dir, on, off, -, -, -, equal, quiet⟩
    · simp [off, Except.toOption] at three
    · cases here.symm.trans found
      cases dir
      obtain rfl := equal (by decide) (by decide)
      obtain rfl := quiet (by decide) (by decide)
      refine ⟨kept, on, off, ?_⟩
      have shown : files kept = [⟨⟨"./-/a.txt"⟩, ⟨"-/a.txt"⟩⟩] := by
        simpa [off, Except.toOption] using three
      simp [shown]

end Migration

end Codemod
