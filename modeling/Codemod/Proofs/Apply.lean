import Codemod.Execution
import Codemod.Proofs.Composition
import Codemod.Proofs.Undisturbed

/-!
The meaning of a whole run that writes. Either it ends before any file is written, or each file that
its walk yields has met its fate, nothing else has happened to the tree, and the report says so.
-/
namespace Codemod

def RuleSet.rewrite (s : RuleSet) (path : RelPath) (text : String) : Edited :=
  (s.rulesFor path).foldl RuleTable.applyRule ⟨text, 0⟩

theorem editRewrite (s : RuleSet) (path : RelPath) (text : String) :
    s.edit path text = s.rewrite path text := by
  unfold RuleSet.rewrite
  exact s.editPlain path text

open Migration

inductive Fate (rules : RuleSet) (before after : Tree) (report : Report) (e : FileEntry) : Prop where
  | changed {text : String} (read : before.read e.path = .ok (bytesOf text.toList))
      (different : (rules.rewrite e.relative text).content ≠ text)
      (holds : after.read e.path = .ok (bytesOf (rules.rewrite e.relative text).content.toList))
      (reported : ⟨e.path, e.relative,
        .changed (rules.rewrite e.relative text).replacements true⟩ ∈ report.outcomes)
  | unread {io : IoError} (read : before.read e.path = .error io)
      (holds : after.read e.path = before.read e.path)
      (reported : ⟨e.path, e.relative, .failed (.read io)⟩ ∈ report.outcomes)
  | garbled {bytes : Bytes} {offset : Nat} (read : before.read e.path = .ok bytes)
      (noText : ∀ text : String, bytes ≠ bytesOf text.toList)
      (holds : after.read e.path = before.read e.path)
      (reported : ⟨e.path, e.relative, .failed (.decode offset)⟩ ∈ report.outcomes)
  | unchanged {text : String} (read : before.read e.path = .ok (bytesOf text.toList))
      (same : (rules.rewrite e.relative text).content = text)
      (holds : after.read e.path = before.read e.path)
      (reported : ⟨e.path, e.relative, .unchanged⟩ ∈ report.outcomes)

def failuresOf (items : List WalkItem) : List DiscoveryError :=
  items.filterMap fun
    | .failed e => some e
    | _ => none

structure Applied (rules : RuleSet) (root : Path) (items : List WalkItem) (before after : Tree)
    (report : Report) : Prop where
  relative : ∀ e ∈ files items, e.relative = .relativeTo root e.path
  fates : ∀ e ∈ files items, Fate rules before after report e
  names : after.blank = before.blank
  others : ∀ l, (∀ e ∈ files items, before.find e.path ≠ .ok l) → after.content? l = before.content? l
  rights : ∀ l, (after.content? l).map Prod.snd = (before.content? l).map Prod.snd
  outcomes : ∃ os : List FileOutcome,
    (os.map fun o => (o.path, o.relative)) = ((files items).map fun e => (e.path, e.relative)) ∧
      report.outcomes.Perm ((failuresOf items).map (walkFailure root) ++ os)
  -- an ignore file above the root may be one of the files below it, by way of a link
  once : ∃ (told : Option DiscoveryError) (os : List FileOutcome),
    report.outcomes.Perm (told.toList.map (walkFailure root) ++ os) ∧
      (os.map FileOutcome.path).Nodup

namespace Migration

variable {rules : RuleSet} {t last : Tree} {root : Path} {items : List WalkItem} {report : Report}
  {e : FileEntry} {m : Migration}

theorem reportedMem (migrated : Migrated m t root (items.filterMap found?) report last)
    (he : e ∈ files items) :
    ⟨e.path, e.relative, m.outcomeOf e.relative (t.read e.path)⟩ ∈ report.outcomes := by
  rw [migrated.report]
  refine (Report.outcomesPerm m.dryRun _).symm.subset ?_
  obtain ⟨found, hf, isOne⟩ := List.mem_filterMap.mp he
  refine List.mem_map.mpr ⟨found, hf, ?_⟩
  cases found with
  | error d => cases isOne
  | ok d =>
    cases isOne
    rfl

theorem readLeft (migrated : Migrated m t root (items.filterMap found?) report last)
    (he : e ∈ files items) :
    last.read e.path = (t.read e.path).map (m.leaves e.relative) := by
  cases found : t.find e.path with
  | error io =>
    have lost := Tree.findSame migrated.after.blank e.path
    rw [found] at lost
    simp [Tree.readOf, Tree.lookOf, found, ← lost, Except.bind, Except.map]
  | ok l =>
    have content := migrated.after.edited e he l found
    have there : last.find e.path = .ok l := (Tree.findSame migrated.after.blank _).symm.trans found
    cases before : t.content? l with
    | some c =>
      have reading := (Tree.readContent found).mpr ⟨c.2, before⟩
      have after : last.content? l = some (m.leaves e.relative c.1, c.2) := by
        rw [content, before]
        rfl
      rw [reading, (Tree.readContent there).mpr ⟨c.2, after⟩]
      rfl
    | none =>
      have same : last.content? l = t.content? l := by
        rw [content, before]
        rfl
      have still : t.read e.path = last.read e.path := by
        refine Tree.readSame migrated.after.blank fun k leads => ?_
        cases found.symm.trans leads
        exact same.symm
      rw [← still]
      cases reading : t.read e.path with
      | error io => rfl
      | ok bytes =>
        obtain ⟨mode, file⟩ := (Tree.readContent found).mp reading
        simp [before] at file

theorem fateOf (migrated : Migrated ⟨rules, false⟩ t root (items.filterMap found?) report last)
    (he : e ∈ files items) :
    Fate rules t last report e := by
  have reported := reportedMem migrated he
  have left := readLeft migrated he
  cases reading : t.read e.path with
  | error io =>
    rw [reading] at reported left
    exact .unread reading (left.trans reading.symm) reported
  | ok bytes =>
    rw [reading] at reported left
    cases decoding : Utf8.decode bytes with
    | error offset =>
      simp only [outcomeOf, decoding] at reported
      refine .garbled reading ?_ ?_ reported
      · rintro text rfl
        rw [Utf8.decodeOf] at decoding
        cases decoding
      · rw [left, reading]
        simp [Except.map, leaves, RuleSet.rewritten, decoding]
    | ok cs =>
      have text : bytes = bytesOf (String.ofList cs).toList := by
        rw [String.toList_ofList, Utf8.decodeEncoded decoding]
      simp only [outcomeOf, decoding, editRewrite] at reported
      have holds : last.read e.path =
          .ok (bytesOf (rules.rewrite e.relative (String.ofList cs)).content.toList) := by
        rw [left]
        simp [Except.map, leaves, RuleSet.rewritten, decoding, editRewrite]
      by_cases same : (rules.rewrite e.relative (String.ofList cs)).content = String.ofList cs
      · rw [if_pos same] at reported
        refine .unchanged (text ▸ reading) same ?_ reported
        rw [holds, same, ← text, reading]
      · rw [if_neg same] at reported
        exact .changed (text ▸ reading) same holds reported

theorem outcomePaths (discovered : Discovered t root items)
    (migrated : Migrated m t root (items.filterMap found?) report last) :
    ∃ (told : Option DiscoveryError) (os : List FileOutcome),
      report.outcomes.Perm (told.toList.map (walkFailure root) ++ os) ∧
        (os.map FileOutcome.path).Nodup := by
  obtain ⟨told, rest, whole, distinct⟩ := discovered.orderly
  refine ⟨told, rest.map (m.outcomeIn t root), ?_, ?_⟩
  · rw [migrated.report, whole, List.map_append, List.map_map]
    exact Report.outcomesPerm m.dryRun _
  · rw [List.map_map, List.Nodup, List.pairwise_map]
    refine distinct.imp ?_
    intro a b different same
    rw [Function.comp_apply, Function.comp_apply, outcomeConcerns, outcomeConcerns] at same
    exact different (congrArg Path.components same)

theorem failuresFound (root : Path) (items : List WalkItem) :
    (items.filterMap found?).filterMap (foundFailure? root) =
      (failuresOf items).map (walkFailure root) := by
  rw [List.filterMap_filterMap, failuresOf, List.map_filterMap]
  congr 1
  funext item
  cases item <;> rfl

theorem applied (discovered : Discovered t root items)
    (migrated : Migrated ⟨rules, false⟩ t root (items.filterMap found?) report last) :
    Applied rules root items t last report := by
  refine ⟨discovered.relative, fun e he => fateOf migrated he, migrated.after.blank.symm,
    migrated.after.kept, ?_, ?_, outcomePaths discovered migrated⟩
  · intro l
    by_cases taken : ∃ e ∈ files items, t.find e.path = .ok l
    · obtain ⟨e, he, found⟩ := taken
      rw [migrated.after.edited e he l found, Option.map_map]
      rfl
    · rw [migrated.after.kept l fun e he found => taken ⟨e, he, found⟩]
  · have perm := drainedPerm (outcomeIn ⟨rules, false⟩ t root) (fun _ => rfl) (items.filterMap found?)
    rw [failuresFound] at perm
    refine ⟨(files items).map fun e => outcomeIn ⟨rules, false⟩ t root (.ok e), ?_, ?_⟩
    · simp [outcomeIn, Function.comp_def]
    · rw [migrated.report]
      exact (Report.outcomesPerm false _).trans perm

end Migration

namespace Execution

theorem okOfOption {ε α : Type} {x : Except ε α} {a : α} (some' : x.toOption = some a) : x = .ok a := by
  cases x with
  | error e => cases some'
  | ok b => exact congrArg Except.ok (Option.some.inj some')

theorem executeRan [Engine] {t last : Tree} {o : RunOptions} {dry : Bool} {c : Config} {report : Report}
    (executed : execute t o dry = .ok ((c, report), last)) :
    ∃ rules, prepare t o.config = .ok (c, rules) ∧
      Migration.migrate ⟨rules, dry⟩ t (rootOf o c) (c.filter.skipFile o.config) (o.jobs != 1) =
        .ok (report, last) := by
  unfold execute at executed
  split at executed
  · contradiction
  · next c' rules prepared =>
    simp only at executed
    split at executed
    · contradiction
    · next report' last' ran =>
      cases executed
      exact ⟨rules, prepared, ran⟩

/-- Either a run that writes ends in an error and the tree is as it was, or it has applied the rules
of its configuration to what its walk has yielded below its root, and to nothing else. That walk is
the one of the tree in the beginning if it ends before the files are touched or reads no ignore
files. -/
theorem applyMeaning [Engine] {t : Tree} (sound : t.Sound) (terminal : Bool) (i : Invocation) (o : RunOptions) :
    match execute t o false with
    | .error e => migration t terminal i o false = (failed e, t)
    | .ok ((c, report), last) =>
      (migration t terminal i o false).2 = last ∧
        ∃ rules items, prepare t o.config = .ok (c, rules) ∧
          Finds ⟨rules, false⟩ t (rootOf o c) (c.filter.skipFile o.config) (o.jobs != 1) items ∧
          Applied rules (rootOf o c) items t last report ∧
          (o.jobs ≠ 1 ∨ c.gitignore = false →
            t.walk (rootOf o c) (c.filter.skipFile o.config) = .ok items) := by
  rcases executed : execute t o false with e | ⟨⟨c, report⟩, last⟩
  · simp only [migration, executed]
  · obtain ⟨rules, prepared, ran⟩ := executeRan executed
    obtain ⟨items, finds, discovered, migrated⟩ := migrateMigrated sound ran
    refine ⟨by simp only [migration, executed], rules, items, prepared, finds,
      applied discovered migrated, ?_⟩
    intro calm
    refine findsWalk sound finds fun one walked walks ignores => ?_
    have single : o.jobs = 1 := by simpa using one
    have off : c.gitignore = false := calm.resolve_left (fun many => many single)
    have on : c.gitignore = true := ignores
    simp [off] at on

def sample : Tree :=
  let config := "[rewire]\nversion = \"1\"\n[[rules]]\npattern = \"foo\"\nreplacement = \"bar\"\n"
  ⟨.dir [("work", .dir [("rewire.toml", .file (bytesOf config.toList) 0o644),
    ("a", .file (bytesOf "foo".toList) 0o600), ("b", .file [0xFF] 0o644),
    ("c", .file (bytesOf "baz".toList) 0o644)])], ["work"]⟩

def sampleRun : RunOptions := ⟨⟨"rewire.toml"⟩, none, none, 1⟩

open Engine in
set_option maxRecDepth 100000 in
theorem applyMeaningSample :
    sample.Sound ∧ ∃ c report last rules items, execute sample sampleRun false = .ok ((c, report), last) ∧
      report.changed = 1 ∧ report.errors = 1 ∧ report.unchanged = 1 ∧
      sample.walk (rootOf sampleRun c) (c.filter.skipFile sampleRun.config) = .ok items ∧
      Applied rules (rootOf sampleRun c) items sample last report := by
  have sound : sample.Sound := by decide +kernel
  have counts : (execute sample sampleRun false).toOption.map
      (fun r => (r.1.1.gitignore, r.1.2.changed, r.1.2.errors, r.1.2.unchanged)) =
        some (false, 1, 1, 1) := by decide +kernel
  have meaning := applyMeaning sound false ⟨.apply sampleRun, none, false⟩ sampleRun
  refine ⟨sound, ?_⟩
  rcases executed : execute sample sampleRun false with e | ⟨⟨c, report⟩, last⟩
  · simp [executed, Except.toOption] at counts
  · simp only [executed] at meaning
    obtain ⟨-, rules, items, -, -, applied, walk⟩ := meaning
    obtain ⟨off, changed, errors, unchanged⟩ : c.gitignore = false ∧ report.changed = 1 ∧
        report.errors = 1 ∧ report.unchanged = 1 := by simpa [executed, Except.toOption] using counts
    exact ⟨c, report, last, rules, items, rfl, changed, errors, unchanged, walk (.inr off), applied⟩

end Execution

end Codemod
