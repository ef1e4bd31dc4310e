import Codemod.Proofs.Exemption
import Codemod.Proofs.Rehearsal

/-!
A run behind a run. The walk of a tree without ignore rules shows in its blank form, and so does where
the configuration is; the configuration itself has been left alone. So the second run has the same
rules, comes upon the same files and fails at the same ones. What it changes are the files that the
first run has left with a text for which their rules still have another one.
-/
namespace Codemod

theorem Node.sizeBlank (n : Node) : n.blank.size = n.size := by
  induction n using byEntries with
  | file content mode => rfl
  | link target => rfl
  | closed es => rfl
  | dir es each =>
    have inside : sizes (blankEntries es) = sizes es := by
      induction es with
      | nil => rfl
      | cons e rest ih =>
        simp only [blankEntries, sizes, each e (by simp),
          ih fun x hx => each x (List.mem_cons_of_mem _ hx)]
    simp only [blank, size, inside]

namespace Walk

variable {t u : Tree} {root : Path} {f : Filter}

theorem limitSame (blanks : t.blank = u.blank) : limit t = limit u := by
  have roots : t.root.blank = u.root.blank := congrArg Tree.root blanks
  simp only [limit, Tree.size, ← Node.sizeBlank t.root, roots, Node.sizeBlank]

theorem kindSame (blanks : t.blank = u.blank) (p : Path) :
    (t.look p).map Tree.kindOf = (u.look p).map Tree.kindOf ∧
      (t.lookLink p).map Tree.kindOf = (u.lookLink p).map Tree.kindOf := by
  have kinds : ∀ {x y : Except IoError Node}, x.map Node.blank = y.map Node.blank →
      x.map Tree.kindOf = y.map Tree.kindOf := by
    intro x y same
    have through : ∀ z : Except IoError Node, z.map Tree.kindOf = (z.map Node.blank).map Tree.kindOf := by
      intro z
      cases z with
      | error e => rfl
      | ok n => simp [Except.map, Tree.kindBlank]
    rw [through x, same, ← through y]
  refine ⟨kinds (Tree.lookSame blanks p), kinds ?_⟩
  rw [Tree.lookLinkOf, Tree.lookLinkOf, Tree.findLinkSame blanks]
  cases u.findLink p with
  | error e => rfl
  | ok l => exact Tree.nodeAtSame blanks l

theorem startKind (t : Tree) (root : Path) (f : Filter) :
    start t root f =
      match (t.look root).map Tree.kindOf with
      | .error .notFound => .error (.rootNotFound root)
      | .error e => .error (.rootUnreadable root e)
      | .ok .dir =>
        match t.list root with
        | .error e => .error (.rootUnreadable root e)
        | .ok _ => .ok (fresh t root f)
      | .ok _ => .error (.rootNotDirectory root) := by
  unfold start
  cases t.look root with
  | error e => cases e <;> rfl
  | ok n => cases n <;> rfl

theorem startSame (blanks : t.blank = u.blank) (root : Path) (f : Filter) :
    start t root f = start u root f := by
  have first : fresh t root f = fresh u root f := by
    simp only [fresh, skipList, Tree.canonicalSame blanks]
  rw [startKind, startKind, (kindSame blanks root).1, Tree.listSame blanks, first]

theorem rootItemKind (t : Tree) (w : Walk) :
    rootItem t w =
      if w.root.components = [.name ['-']] then (.skipped ⟨"<stdin>"⟩ .notAFile, [])
      else match (t.lookLink w.root).map Tree.kindOf with
        | .error e => (fault w.root e, [])
        | .ok .dir => (.skipped w.root .notAFile, children t w.filter w.root [])
        | .ok .file => (fileItem w w.root, [])
        | .ok .link =>
          match (t.look w.root).map Tree.kindOf with
          | .error e => (fault w.root e, [])
          | .ok .dir => (.skipped w.root .notAFile, children t w.filter w.root [])
          | .ok _ => (.skipped w.root .notAFile, []) := by
  unfold rootItem
  split
  · rfl
  cases t.lookLink w.root with
  | error e => rfl
  | ok n =>
    cases n with
    | file content mode => rfl
    | dir es => rfl
    | closed es => rfl
    | link target =>
      cases t.look w.root with
      | error e => rfl
      | ok n => cases n <;> rfl

theorem visitSame {w : Walk} (blanks : t.blank = u.blank) (off : w.filter.gitignore = false)
    (v : Visit) : visit t w v = visit u w v := by
  have inside : ∀ dir levels, children t w.filter dir levels = children u w.filter dir levels := by
    intro dir levels
    exact (childrenSame blanks (fun on => by simp [off] at on) levels).symm
  cases v with
  | above => simp only [visit, aboveOff off]
  | root =>
    simp only [visit, rootItemKind, inside, (kindSame blanks w.root).1, (kindSame blanks w.root).2]
  | fault path e => rfl
  | entry path name kind levels => simp only [visit, inside]

theorem nextOfSame {w : Walk} (blanks : t.blank = u.blank) (off : w.filter.gitignore = false)
    (agenda : List Visit) : nextOf t w agenda = nextOf u w agenda := by
  induction agenda with
  | nil => rfl
  | cons v rest ih =>
    rw [nextOfVisit, nextOfVisit, ← visitSame blanks off v]
    cases visited : visit t w v with
    | mk item? more =>
      cases item? with
      | some item => rfl
      | none =>
        cases Migration.silentVisit visited
        exact ih

theorem collectSame (blanks : t.blank = u.blank) (fuel : Nat) {w : Walk}
    (off : w.filter.gitignore = false) : collect t fuel w = collect u fuel w := by
  induction fuel generalizing w with
  | zero => rfl
  | succ fuel ih =>
    simp only [collect, next, nextOfSame blanks off]
    cases nextOf u w w.agenda with
    | none => rfl
    | some shown => exact congrArg (shown.1 :: ·) (ih off)

theorem itemsSame (blanks : t.blank = u.blank) {w : Walk} (off : w.filter.gitignore = false) :
    w.items t = w.items u := by
  rw [items, items, limitSame blanks, collectSame blanks _ off]

theorem walkSame (blanks : t.blank = u.blank) (off : f.gitignore = false) :
    t.walk root f = u.walk root f := by
  unfold Tree.walk
  rw [startSame blanks]
  cases started : start u root f with
  | error e => simp only [bind, Except.bind]
  | ok w =>
    obtain ⟨rfl, -⟩ := Migration.startFrom started
    exact congrArg Except.ok (itemsSame blanks off)

end Walk

theorem Report.ofOutcomesAlong {α : Type} {g h : α → FileOutcome} (path : ∀ x, (g x).path = (h x).path)
    (relative : ∀ x, (g x).relative = (h x).relative) (dry wet : Bool) (xs : List α) :
    ∃ ys : List α, ys.Perm xs ∧ (ofOutcomes dry (xs.map g)).outcomes = ys.map g ∧
      (ofOutcomes wet (xs.map h)).outcomes = ys.map h := by
  refine ⟨xs.mergeSort fun x y => (g x).le (g y), List.mergeSort_perm xs _, ?_, ?_⟩
  · rw [ofOutcomesEq]
    refine (List.map_mergeSort ?_).symm
    intro x _ y _
    rfl
  · rw [ofOutcomesEq]
    refine (List.map_mergeSort ?_).symm
    intro x _ y _
    simp only [FileOutcome.le, FileOutcome.compare, path, relative]

def Rule.Misses (r : Rule) (text : String) : Prop :=
  r.pattern.program.findAll text.toList.toArray = []

theorem rewriteMissed {rules : RuleSet} {path : RelPath} {text : String}
    (misses : ∀ r ∈ rules.rulesFor path, r.Misses text) : rules.rewrite path text = ⟨text, 0⟩ := by
  unfold RuleSet.rewrite
  generalize rules.rulesFor path = rs at misses
  induction rs with
  | nil => rfl
  | cons r rest ih =>
    have none' : r.apply text = (text, 0) := by
      simp only [Rule.apply]
      rw [show r.pattern.program.findAll text.toList.toArray = [] from misses r (by simp)]
      rfl
    rw [List.foldl_cons, RuleTable.applyRule]
    simp only [none', Nat.add_zero]
    exact ih fun x hx => misses x (List.mem_cons_of_mem _ hx)

namespace Migration

open Walk

variable {m n : Migration} {t last : Tree} {root : Path} {items : List WalkItem} {report : Report}
  {e : FileEntry}

theorem changedMem (migrated : Migrated m t root (items.filterMap found?) report last)
    (f : FileOutcome) :
    f ∈ report.outcomes ∧ f.isChanged = true ↔
      ∃ e ∈ files items, ∃ text : String, t.read e.path = .ok (bytesOf text.toList) ∧
        (m.rules.rewrite e.relative text).content ≠ text ∧
        f = ⟨e.path, e.relative,
          .changed (m.rules.rewrite e.relative text).replacements (!m.dryRun)⟩ := by
  rw [migrated.report, Migration.report, (Report.outcomesPerm m.dryRun _).mem_iff]
  constructor
  · rintro ⟨member, changed⟩
    obtain ⟨found, hf, rfl⟩ := List.mem_map.mp member
    cases found with
    | error d => cases changed
    | ok e =>
      refine ⟨e, List.mem_filterMap.mpr ⟨.ok e, hf, rfl⟩, ?_⟩
      simp only [outcomeIn] at changed ⊢
      cases reading : t.read e.path with
      | error io => simp [reading, outcomeOf, FileOutcome.isChanged] at changed
      | ok bytes =>
        cases decoding : Utf8.decode bytes with
        | error offset => simp [reading, outcomeOf, decoding, FileOutcome.isChanged] at changed
        | ok cs =>
          simp only [reading, outcomeOf, decoding, editRewrite] at changed ⊢
          split at changed
          · cases changed
          · next different =>
            refine ⟨String.ofList cs, ?_, different, by rw [if_neg different]⟩
            rw [String.toList_ofList, Utf8.decodeEncoded decoding]
  · rintro ⟨e, he, text, reading, different, rfl⟩
    refine ⟨?_, rfl⟩
    obtain ⟨found, hf, isOne⟩ := List.mem_filterMap.mp he
    refine List.mem_map.mpr ⟨found, hf, ?_⟩
    cases found with
    | error d => cases isOne
    | ok d =>
      cases isOne
      simp only [outcomeIn, outcomeOf, reading, Utf8.decodeOf, String.ofList_toList, editRewrite,
        if_neg different]

theorem missedUnchanged (migrated : Migrated m t root (items.filterMap found?) report last)
    (misses : ∀ e ∈ files items, ∀ text : String, t.read e.path = .ok (bytesOf text.toList) →
      ∀ r ∈ m.rules.rulesFor e.relative, r.Misses text) : report.changed = 0 := by
  have counted : report.changed = report.outcomes.countP (·.isChanged) := by
    rw [migrated.report]
    exact (Report.ofOutcomesCounts m.dryRun _).1
  rw [counted, List.countP_eq_zero]
  intro f member changed
  obtain ⟨e, he, text, reading, different, -⟩ := (changedMem migrated f).mp ⟨member, changed⟩
  rw [rewriteMissed (misses e he text reading)] at different
  exact different rfl

theorem textSucceeds {bytes : Bytes} {cs : List Char} (decoding : Utf8.decode bytes = .ok cs) (path : Path)
    (relative : RelPath) :
    (⟨path, relative, m.outcomeOf relative (.ok bytes)⟩ : FileOutcome).isFailed = false := by
  simp only [outcomeOf, decoding]
  split <;> rfl

theorem leavesText {bytes : Bytes} {cs : List Char} (decoding : Utf8.decode bytes = .ok cs)
    (relative : RelPath) : ∃ ds, Utf8.decode (m.leaves relative bytes) = .ok ds := by
  unfold leaves RuleSet.rewritten
  split
  · exact ⟨cs, decoding⟩
  · simp [decoding, Utf8.decodeOf]

theorem outcomeFailed (migrated : Migrated m t root (items.filterMap found?) report last)
    {found : Found} (member : found ∈ items.filterMap found?) :
    (n.outcomeIn last root found).isFailed = (m.outcomeIn t root found).isFailed ∧
      ((m.outcomeIn t root found).isFailed = true →
        n.outcomeIn last root found = m.outcomeIn t root found) := by
  cases found with
  | error d => exact ⟨rfl, fun _ => rfl⟩
  | ok e =>
    have left := readLeft migrated (List.mem_filterMap.mpr ⟨.ok e, member, rfl⟩ : e ∈ files items)
    simp only [outcomeIn]
    cases reading : t.read e.path with
    | error io =>
      rw [reading] at left
      rw [left]
      exact ⟨rfl, fun _ => rfl⟩
    | ok bytes =>
      rw [reading] at left
      rw [left, Except.map]
      cases decoding : Utf8.decode bytes with
      | error offset =>
        have kept : m.leaves e.relative bytes = bytes := by
          simp [leaves, RuleSet.rewritten, decoding]
        simp [kept, outcomeOf, decoding]
      | ok cs =>
        obtain ⟨ds, decoded⟩ := leavesText decoding e.relative (m := m)
        rw [textSucceeds decoded, textSucceeds decoding]
        exact ⟨rfl, by simp⟩

theorem filterAlong {α : Type} {p : FileOutcome → Bool} {g h : α → FileOutcome} {ys : List α}
    (same : ∀ y ∈ ys, p (h y) = p (g y) ∧ (p (g y) = true → h y = g y)) :
    (ys.map h).filter p = (ys.map g).filter p := by
  induction ys with
  | nil => rfl
  | cons y rest ih =>
    obtain ⟨holds, equal⟩ := same y (by simp)
    have others := ih fun x hx => same x (List.mem_cons_of_mem _ hx)
    rw [List.map_cons, List.map_cons, List.filter_cons, List.filter_cons, holds, others]
    split
    · next own => rw [equal own]
    · rfl

end Migration

namespace Execution

open Migration

variable {t u last : Tree} {o : RunOptions} {c : Config} {first : Report}

theorem prepareSame [Engine] (blanks : t.blank = u.blank) (read : t.read o.config = u.read o.config) :
    prepare t o.config = prepare u o.config := by
  have has : t.has o.config = u.has o.config := by
    have seen := Tree.lookSame blanks o.config
    unfold Tree.has
    cases ht : t.look o.config <;> cases hu : u.look o.config <;>
      simp_all [Except.map, Except.toBool]
  simp only [prepare, loadConfig, Config.load, has, read]

theorem calmOff {m : Migration} (off : c.gitignore = false) (p : Path) (items : List WalkItem) :
    m.Undisturbed t (c.filter.skipFile p) items := by
  intro on
  have ignores : c.gitignore = true := on
  simp [off] at ignores

theorem executeOff [Engine] {rules : RuleSet} {items : List WalkItem} (sound : t.Sound)
    (off : c.gitignore = false) (prepared : prepare t o.config = .ok (c, rules))
    (walked : t.walk (rootOf o c) (c.filter.skipFile o.config) = .ok items) (dry : Bool) :
    ∃ report last, execute t o dry = .ok ((c, report), last) ∧
      Migrated ⟨rules, dry⟩ t (rootOf o c) (items.filterMap found?) report last := by
  have result := migrateResult ⟨rules, dry⟩ t (rootOf o c) (c.filter.skipFile o.config) (o.jobs != 1)
  cases started : Walk.start t (rootOf o c) (c.filter.skipFile o.config) with
  | error e => simp [Tree.walk, started, bind, Except.bind] at walked
  | ok w =>
    rw [started] at result
    obtain ⟨report, last, ran⟩ := result
    obtain ⟨others, walks, migrated⟩ :=
      migrateCalm sound (fun items _ => calmOff off o.config items) ran
    cases walked.symm.trans walks
    exact ⟨report, last, by simp only [execute, prepared, ran], migrated⟩

structure Rerun (rules : RuleSet) (items : List WalkItem) (before after : Tree) (first : Report)
    (dry : Bool) (second : Report) : Prop where
  files : second.outcomes.map (fun f => (f.path, f.relative)) =
    first.outcomes.map fun f => (f.path, f.relative)
  failures : second.outcomes.filter FileOutcome.isFailed = first.outcomes.filter FileOutcome.isFailed
  changed : ∀ f, f ∈ second.outcomes ∧ f.isChanged = true ↔
    ∃ e ∈ Migration.files items, ∃ text left : String,
      before.read e.path = .ok (bytesOf text.toList) ∧
      (rules.rewrite e.relative text).content = left ∧
      after.read e.path = .ok (bytesOf left.toList) ∧
      (rules.rewrite e.relative left).content ≠ left ∧
      f = ⟨e.path, e.relative, .changed (rules.rewrite e.relative left).replacements (!dry)⟩

theorem rerun {rules : RuleSet} {root : Path} {items : List WalkItem} {dry : Bool} {second : Report}
    {final : Tree} (one : Migrated ⟨rules, false⟩ t root (items.filterMap found?) first last)
    (two : Migrated ⟨rules, dry⟩ last root (items.filterMap found?) second final) :
    Rerun rules items t last first dry second := by
  obtain ⟨ys, perm, firsts, seconds⟩ := Report.ofOutcomesAlong
    (fun x => by rw [outcomeConcerns, outcomeConcerns] :
      ∀ x, (outcomeIn ⟨rules, false⟩ t root x).path = (outcomeIn ⟨rules, dry⟩ last root x).path)
    (fun x => by cases x <;> rfl) false dry (items.filterMap found?)
  have ones : first.outcomes = ys.map (outcomeIn ⟨rules, false⟩ t root) := by
    rw [one.report]
    exact firsts
  have twos : second.outcomes = ys.map (outcomeIn ⟨rules, dry⟩ last root) := by
    rw [two.report]
    exact seconds
  refine ⟨?_, ?_, fun f => ?_⟩
  · rw [ones, twos, List.map_map, List.map_map]
    refine List.map_congr_left fun x _ => ?_
    cases x <;> rfl
  · rw [ones, twos]
    exact filterAlong fun y hy => outcomeFailed one (perm.subset hy)
  · rw [changedMem two f]
    refine exists_congr fun e => and_congr_right fun he => ⟨?_, ?_⟩
    · rintro ⟨left, reading, different, rfl⟩
      -- a text now was a text before
      cases fateOf one he with
      | @changed text read _ holds _ =>
        have same : (rules.rewrite e.relative text).content = left :=
          String.toList_injective (bytesInjective (Except.ok.inj (holds.symm.trans reading)))
        exact ⟨text, left, read, same, reading, different, rfl⟩
      | unread read holds _ => cases (holds.trans read).symm.trans reading
      | garbled read noText holds _ =>
        exact absurd (Except.ok.inj ((holds.trans read).symm.trans reading)) (noText left)
      | @unchanged text read same holds _ =>
        have equal : text = left :=
          String.toList_injective (bytesInjective (Except.ok.inj ((holds.trans read).symm.trans reading)))
        exact ⟨text, left, read, same.trans equal, reading, different, rfl⟩
    · rintro ⟨text, left, -, -, reading, different, rfl⟩
      exact ⟨left, reading, different, rfl⟩

/-- Behind a run that writes, a run with the same arguments has the same rules and comes upon the same
files, fails where the first has failed, and changes those files only whose text is not yet one that
their rules leave alone. A check succeeds if no rule finds anything any more. -/
theorem runBehind [Engine] (sound : t.Sound) (canonical : Canonical t o)
    (executed : execute t o false = .ok ((c, first), last)) (off : c.gitignore = false) :
    ∃ rules items, prepare t o.config = .ok (c, rules) ∧ prepare last o.config = .ok (c, rules) ∧
      t.walk (rootOf o c) (c.filter.skipFile o.config) = .ok items ∧
      last.walk (rootOf o c) (c.filter.skipFile o.config) = .ok items ∧
      (∀ dry, ∃ second final, execute last o dry = .ok ((c, second), final) ∧
        Rerun rules items t last first dry second) ∧
      ((∀ e ∈ files items, ∀ text : String, last.read e.path = .ok (bytesOf text.toList) →
          ∀ r ∈ rules.rulesFor e.relative, r.Misses text) →
        ∀ terminal i, (migration last terminal i o true).1.exit = Exit.success) := by
  have blanks := executeBlank sound executed
  have again : Tree.Sound last := Tree.soundOfBlank sound blanks
  obtain ⟨rules, prepared, ran⟩ := executeRan executed
  have kept : t.read o.config = last.read o.config :=
    Tree.readSame blanks fun l leads => (executeKeepsConfig sound canonical executed leads).symm
  have ready : prepare last o.config = .ok (c, rules) := by rw [← prepareSame blanks kept, prepared]
  obtain ⟨items, walked, one⟩ := migrateCalm sound (fun items _ => calmOff off o.config items) ran
  have walks : last.walk (rootOf o c) (c.filter.skipFile o.config) = .ok items := by
    rw [← Walk.walkSame blanks off, walked]
  refine ⟨rules, items, prepared, ready, walked, walks, ?_, ?_⟩
  · intro dry
    obtain ⟨second, final, ended, two⟩ := executeOff again off ready walks dry
    exact ⟨second, final, ended, rerun one two⟩
  · intro misses terminal i
    obtain ⟨second, final, ended, two⟩ := executeOff again off ready walks true
    simp [migration, ended, missedUnchanged two misses]

def growing : Tree :=
  let config := "[rewire]\nversion = \"1\"\n[[rules]]\npattern = \"x\"\nreplacement = \"xx\"\n" ++
    "[[rules]]\npattern = \"y\"\nreplacement = \"z\"\n"
  ⟨.dir [("c.toml", .file (bytesOf config.toList) 0o644),
    ("d", .dir [("a", .file (bytesOf "x".toList) 0o644), ("b", .file [0xFF] 0o644),
      ("e", .file (bytesOf "y".toList) 0o644)])], []⟩

def growingRun : RunOptions := ⟨⟨"c.toml"⟩, some ⟨"d"⟩, none, 2⟩

open Engine in
set_option maxRecDepth 100000 in
theorem runBehindGrowing :
    growing.Sound ∧ Canonical growing growingRun ∧ ∃ c first last rules items second final,
      execute growing growingRun false = .ok ((c, first), last) ∧ c.gitignore = false ∧
        first.changed = 2 ∧ execute last growingRun true = .ok ((c, second), final) ∧
        second.changed = 1 ∧ second.errors = 1 ∧
        Rerun rules items growing last first true second := by
  have sound : growing.Sound := by decide +kernel
  have canonical : Canonical growing growingRun := by decide +kernel
  have counts : (execute growing growingRun false).toOption.map
      (fun r => (r.1.1.gitignore, r.1.2.changed,
        (execute r.2 growingRun true).toOption.map fun s => (s.1.2.changed, s.1.2.errors))) =
      some (false, 2, some (1, 1)) := by decide +kernel
  refine ⟨sound, canonical, ?_⟩
  rcases executed : execute growing growingRun false with e | ⟨⟨c, first⟩, last⟩
  · simp [executed, Except.toOption] at counts
  simp only [executed, Except.toOption, Option.map_some, Option.some.injEq, Prod.mk.injEq] at counts
  obtain ⟨off, changed, others⟩ := counts
  obtain ⟨rules, items, -, -, -, -, seconds, -⟩ := runBehind sound canonical executed off
  obtain ⟨second, final, ended, rerun⟩ := seconds true
  simp only [ended, Option.map_some, Option.some.injEq, Prod.mk.injEq] at others
  exact ⟨c, first, last, rules, items, second, final, rfl, off, changed, ended, others.1, others.2, rerun⟩

open Engine in
set_option maxRecDepth 100000 in
theorem runBehindLost :
    (sunken "version" "versio").Sound ∧
      (execute (sunken "version" "versio") sunkenRun false).toOption.map (fun r =>
        (r.1.1.gitignore, r.1.2.changed,
          (migration r.2 false ⟨.check sunkenRun, none, false⟩ sunkenRun true).1.exit)) =
        some (false, 1, Exit.parseError) := by
  decide +kernel

end Execution

end Codemod
