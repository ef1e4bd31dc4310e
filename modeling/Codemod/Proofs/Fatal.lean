import Codemod.Execution
import Codemod.Proofs.Construction
import Codemod.Proofs.Parallel
import Codemod.Proofs.Utf8

/-!
What ends a command before it does anything. A listing of the rules and a run have pipelines of their
own, with failures and exit codes of their own. Still a listing fails if and only if a run with the
same configuration fails before it turns to its root, and then both say the same. A run of rules that
can be listed fails only if its root is no directory.
-/
namespace Codemod

theorem Toml.readPlain {text : String} (plain : text.toList.head? ≠ some '\ufeff') :
    read text = (lines (text.toList.length + 1) .start text.toList).bind Draft.close := by
  unfold read
  split
  · next cs first => simp [first] at plain
  · rfl

theorem Config.describesChars {text : String} {cs : List Char} {c : Config} (chars : text.toList = cs)
    (plain : cs.head? ≠ some '\ufeff')
    (evaluates : ((Toml.lines (cs.length + 1) .start cs).bind Toml.Draft.close).bind
      (fun document => (ofDocument document).toOption) = some c) : Describes text c := by
  subst chars
  rw [← Toml.readPlain plain] at evaluates
  obtain ⟨document, found, shaped⟩ := Option.bind_eq_some_iff.mp evaluates
  refine ⟨document, found, ?_⟩
  cases described : ofDocument document with
  | error e => simp [described, Except.toOption] at shaped
  | ok other => simpa [described, Except.toOption] using shaped

def Invocation.Runs (i : Invocation) (o : RunOptions) : Prop :=
  i.command = .apply o ∨ i.command = .check o

theorem Walk.startListed (t : Tree) (root : Path) (f : Filter) :
    (∃ w, Walk.start t root f = .ok w) ↔ ∃ names, t.list root = .ok names := by
  unfold Walk.start
  cases looked : t.look root with
  | error e => cases e <;> simp [Tree.listOf, looked, Except.bind]
  | ok n => cases n <;> simp [Tree.listOf, looked, Except.bind, Tree.listingOf, Node.isDir]

namespace Execution

variable {t : Tree} {path : Path} {c : Config}

def Holds (t : Tree) (path : Path) (text : String) : Prop := t.read path = .ok (bytesOf text.toList)

def Loads (t : Tree) (path : Path) (c : Config) : Prop :=
  ∃ text, Holds t path text ∧ Config.Describes text c ∧ c.Valid

def Misread (t : Tree) (path : Path) : Prop :=
  ∃ text, Holds t path text ∧ ¬∃ c, Config.Describes text c

theorem holdsUnique {text text' : String} (one : Holds t path text) (other : Holds t path text') :
    text = text' := by
  have same := congrArg Utf8.decode (Except.ok.inj (one.symm.trans other))
  rw [Utf8.decodeOf, Utf8.decodeOf] at same
  exact String.toList_inj.mp (Except.ok.inj same)

theorem Holds.loads {text : String} (held : Holds t path text) :
    Loads t path c ↔ Config.Describes text c ∧ c.Valid := by
  constructor
  · rintro ⟨text', held', described⟩
    cases holdsUnique held held'
    exact described
  · exact fun described => ⟨text, held, described⟩

theorem Holds.misread {text : String} (held : Holds t path text) :
    Misread t path ↔ ¬∃ c, Config.Describes text c := by
  constructor
  · rintro ⟨text', held', undescribed⟩
    cases holdsUnique held held'
    exact undescribed
  · exact fun undescribed => ⟨text, held, undescribed⟩

theorem Loads.valid (loads : Loads t path c) : c.Valid := by
  obtain ⟨_, -, -, valid⟩ := loads
  exact valid

theorem Loads.understood (loads : Loads t path c) : ¬Misread t path := by
  obtain ⟨text, held, described, -⟩ := loads
  rw [held.misread]
  exact not_not_intro ⟨c, described⟩

theorem loadsUnique {d : Config} (one : Loads t path c) (other : Loads t path d) : c = d := by
  obtain ⟨text, held, described, -⟩ := one
  exact Config.describesUnique described (held.loads.mp other).1

theorem loadConfigCases (t : Tree) (path : Path) :
    (∃ text, Holds t path text ∧ loadConfig t path = Config.parse text) ∨
      (¬∃ text, Holds t path text) ∧
        (loadConfig t path = .error (.missing path) ∨ ∃ e, loadConfig t path = .error (.io e)) := by
  unfold loadConfig Config.load
  cases read : t.read path with
  | error e =>
    have unheld : ¬∃ text, Holds t path text := fun ⟨_, held⟩ => nomatch read.symm.trans held
    refine .inr ⟨unheld, ?_⟩
    cases t.has path with
    | false => exact .inl rfl
    | true => exact .inr ⟨e, rfl⟩
  | ok bytes =>
    have present : t.has path = true := by
      rw [Tree.readOf] at read
      unfold Tree.has
      cases looked : t.look path with
      | error e => simp [looked, Except.bind] at read
      | ok n => rfl
    rw [if_pos present]
    cases decoded : Utf8.decode bytes with
    | error e =>
      refine .inr ⟨fun ⟨text, held⟩ => ?_, .inr ⟨.notText, by simp only [decoded]⟩⟩
      cases read.symm.trans held
      cases decoded.symm.trans (Utf8.decodeOf text.toList)
    | ok cs =>
      refine .inl ⟨String.ofList cs, ?_, by simp only [decoded]⟩
      rw [Holds, String.toList_ofList, Utf8.decodeEncoded decoded, read]

theorem loadsCases (t : Tree) (path : Path) :
    (∃ c, Loads t path c ∧ loadConfig t path = .ok c) ∨
      ∃ e, loadConfig t path = .error e ∧ (¬∃ c, Loads t path c) ∧
        (Misread t path ↔ e = .malformed ∨ ∃ s, e = .shape s) := by
  rcases loadConfigCases t path with ⟨text, held, loaded⟩ | ⟨unheld, failed⟩
  · simp only [held.loads, held.misread, loaded]
    rcases Config.parseCases text with
      ⟨undescribed, failed⟩ | ⟨c, described, ⟨valid, parsed⟩ | ⟨invalid, fault, failed⟩⟩
    · have unloaded : ¬∃ c, Config.Describes text c ∧ c.Valid := fun ⟨c, described, _⟩ =>
        undescribed ⟨c, described⟩
      rcases failed with failed | ⟨s, failed⟩
      · exact .inr ⟨_, failed, unloaded, fun _ => .inl rfl, fun _ => undescribed⟩
      · exact .inr ⟨_, failed, unloaded, fun _ => .inr ⟨s, rfl⟩, fun _ => undescribed⟩
    · exact .inl ⟨c, ⟨described, valid⟩, parsed⟩
    · refine .inr ⟨_, failed, ?_, fun undescribed => absurd ⟨c, described⟩ undescribed, by simp⟩
      rintro ⟨d, described', valid⟩
      exact invalid (Config.describesUnique described' described ▸ valid)
  · have unloaded : ¬∃ c, Loads t path c := fun ⟨_, text, held, _⟩ => unheld ⟨text, held⟩
    have unread : ¬Misread t path := fun ⟨text, held, _⟩ => unheld ⟨text, held⟩
    rcases failed with failed | ⟨e, failed⟩
    · exact .inr ⟨_, failed, unloaded, fun misread => absurd misread unread, by simp⟩
    · exact .inr ⟨_, failed, unloaded, fun misread => absurd misread unread, by simp⟩

theorem Loads.loaded (loads : Loads t path c) : loadConfig t path = .ok c := by
  rcases loadsCases t path with ⟨d, other, loaded⟩ | ⟨e, -, unloaded, -⟩
  · rw [loaded, loadsUnique other loads]
  · exact absurd ⟨c, loads⟩ unloaded

def ListFailure.ofRun : ListFailure → Failure
  | .config e => .config e
  | .rule e => .rule e

theorem failedSame (e : ListFailure) : failed e.ofRun = e.reply := by
  cases e with
  | config e => cases e <;> rfl
  | rule e => cases e <;> rfl

theorem exitMisread (e : ConfigError) :
    (ListFailure.config e).reply.exit = Exit.parseError ↔ e = .malformed ∨ ∃ s, e = .shape s := by
  cases e <;> simp [ListFailure.reply, ListFailure.exitCode, Exit.parseError, Exit.error]

theorem exitUsual (e : ListFailure) :
    (∃ location, e = .rule (.noMatcher location) ∧ e.reply.exit = Exit.stopped) ∨
      e.reply.exit = Exit.error ∨ e.reply.exit = Exit.parseError := by
  cases e with
  | rule e => cases e <;> simp [ListFailure.reply, ListFailure.exitCode, stopped]
  | config e => cases e <;> simp [ListFailure.reply, ListFailure.exitCode]

/- Both pipelines get to the rules if and only if the configuration is in order, and otherwise end in
the same failure. Its exit code tells a text that cannot be understood from all else. -/
theorem listedCases [Engine] (t : Tree) (path : Path) :
    (∃ c rules, Loads t path c ∧ c.Compiles ∧ c.Matched ∧ prepare t path = .ok (c, rules) ∧
        listed t path = .ok (Output.Listing.ofRuleSet rules)) ∨
      ∃ e : ListFailure, (¬∃ c, Loads t path c ∧ c.Compiles ∧ c.Matched) ∧
        (e.reply.exit = Exit.parseError ↔ Misread t path) ∧
        (∀ location, e = .rule (.noMatcher location) → ∃ c, Loads t path c ∧ ¬c.Matched) ∧
        prepare t path = .error e.ofRun ∧ listed t path = .error e := by
  unfold listed prepare
  rcases loadsCases t path with ⟨c, loads, loaded⟩ | ⟨e, failed, unloaded, misread⟩
  · rw [loaded]
    have compiles := loads.valid.compiles
    cases compiled : c.ruleSet with
    | error e =>
      refine .inr ⟨.rule e, ?_, ?_, ?_, ?_, ?_⟩
      · rintro ⟨d, other, each⟩
        cases loadsUnique loads other
        simpa [compiled] using compiles.mpr each
      · refine ⟨fun code => ?_, fun misread => absurd misread loads.understood⟩
        cases e <;> cases code
      · rintro location ⟨⟩
        obtain ⟨s, one, unmatched⟩ := RuleSet.compileStopped compiled
        exact ⟨c, loads, fun matched => unmatched (matched s one)⟩
      · simp only [compiled, ListFailure.ofRun]
      · simp [compiled, Except.mapError, bind, Except.bind]
    | ok rules =>
      obtain ⟨each, matched⟩ := compiles.mp ⟨rules, compiled⟩
      refine .inl ⟨c, rules, loads, each, matched, ?_, ?_⟩
      · simp only [compiled]
      · simp [compiled, Except.mapError, bind, Except.bind, pure, Except.pure]
  · rw [failed]
    refine .inr ⟨.config e, fun ⟨c, loads, _⟩ => unloaded ⟨c, loads⟩, ?_, nofun, rfl, rfl⟩
    rw [exitMisread, misread]

theorem performRun [Engine] {i : Invocation} {o : RunOptions} (runs : i.Runs o) (t : Tree) (terminal : Bool) :
    ∃ dry, perform t terminal i = migration t terminal i o dry ∧
      (dry = true → i.command = .check o) := by
  unfold perform
  rcases runs with command | command
  · exact ⟨false, by rw [command], nofun⟩
  · exact ⟨true, by rw [command], fun _ => command⟩

theorem performUnlisted [Engine] {i : Invocation} {o : RunOptions} {e : ListFailure} (runs : i.Runs o)
    (failed : prepare t o.config = .error e.ofRun) (terminal : Bool) :
    perform t terminal i = (e.reply, t) := by
  obtain ⟨dry, same, -⟩ := performRun runs t terminal
  rw [same, ← failedSame]
  simp only [migration, execute, failed]

theorem executeRooted [Engine] {o : RunOptions} {rules : RuleSet}
    (prepared : prepare t o.config = .ok (c, rules)) (dry : Bool) :
    match t.list (rootOf o c) with
    | .ok _ => ∃ report last, execute t o dry = .ok ((c, report), last)
    | .error _ => ∃ e, execute t o dry = .error (.discovery e) := by
  have ran := Migration.migrateResult ⟨rules, dry⟩ t (rootOf o c) (c.filter.skipFile o.config)
    (o.jobs != 1)
  have root := Walk.startListed t (rootOf o c) (c.filter.skipFile o.config)
  cases started : Walk.start t (rootOf o c) (c.filter.skipFile o.config) with
  | error e =>
    cases listed : t.list (rootOf o c) with
    | ok names => simp [started, listed] at root
    | error io =>
      simp only [started] at ran
      exact ⟨e, by simp only [execute, prepared, ran]⟩
  | ok w =>
    cases listed : t.list (rootOf o c) with
    | error io => simp [started, listed] at root
    | ok names =>
      simp only [started] at ran
      obtain ⟨report, last, ran⟩ := ran
      exact ⟨report, last, by simp only [execute, prepared, ran]⟩

theorem migrationRooted [Engine] {o : RunOptions} {rules : RuleSet}
    (prepared : prepare t o.config = .ok (c, rules)) (terminal : Bool) (i : Invocation) (dry : Bool) :
    match t.list (rootOf o c) with
    | .ok _ =>
      (migration t terminal i o dry).1.exit = 0 ∨
        dry = true ∧ (migration t terminal i o dry).1.exit = 1
    | .error _ =>
      ∃ e : DiscoveryError, migration t terminal i o dry =
        ({ exit := 2, err := s!"Error: Discovery error: {e.message}\n" }, t) := by
  have ran := executeRooted prepared dry
  unfold migration
  cases listed : t.list (rootOf o c) with
  | ok names =>
    obtain ⟨report, last, ran⟩ := listed ▸ ran
    simp only [ran, Exit.pending, Exit.success]
    split
    · next changed => exact .inr ⟨(Bool.and_eq_true_iff.mp changed).1, rfl⟩
    · exact .inl rfl
  | error io =>
    obtain ⟨e, ran⟩ := listed ▸ ran
    exact ⟨e, by rw [ran]; rfl⟩

/-- Rules are listed if and only if the configuration can be loaded, all its rules compile and all its
locations have matchers, and the exit code says whether the text was understood. If they are not
listed, any run says the same and leaves the tree as it is; if they are, a run can only fail for its
root. -/
theorem fatalAlike [Engine] (t : Tree) (path : Path) (format : Format) :
    ((listing t path format).exit = 0 ↔ ∃ c, Loads t path c ∧ c.Compiles ∧ c.Matched) ∧
      ((listing t path format).exit = 3 ↔ Misread t path) ∧
      ((∀ c, Loads t path c → c.Matched) → (listing t path format).exit ∈ [0, 2, 3]) ∧
      ∀ (terminal : Bool) (i : Invocation) (o : RunOptions), i.Runs o → o.config = path →
        ((listing t path format).exit ≠ 0 →
          perform t terminal i = (listing t path format, t)) ∧
        ∀ c, Loads t path c → c.Compiles → c.Matched →
          match t.list (rootOf o c) with
          | .ok _ =>
            (perform t terminal i).1.exit = 0 ∨
              i.command = .check o ∧ (perform t terminal i).1.exit = 1
          | .error _ =>
            ∃ e : DiscoveryError, perform t terminal i =
              ({ exit := 2, err := s!"Error: Discovery error: {e.message}\n" }, t) := by
  rcases listedCases t path with
    ⟨c, rules, loads, compiles, matched, prepared, listed⟩ |
      ⟨e, unlisted, misread, unmatched, failed, listed⟩
  · have exit : (listing t path format).exit = 0 := by simp only [listing, listed, Exit.success]
    rw [exit]
    refine ⟨⟨fun _ => ⟨c, loads, compiles, matched⟩, fun _ => rfl⟩,
      ⟨nofun, fun misread => absurd misread loads.understood⟩, by simp, ?_⟩
    rintro terminal i o runs rfl
    refine ⟨fun fails => absurd rfl fails, fun d other _ _ => ?_⟩
    cases loadsUnique loads other
    obtain ⟨dry, same, command⟩ := performRun runs t terminal
    have ends := migrationRooted prepared terminal i dry
    rw [same]
    split at ends
    · exact ends.imp_right fun ⟨checks, pending⟩ => ⟨command checks, pending⟩
    · exact ends
  · have reply : listing t path format = e.reply := by simp only [listing, listed]
    rw [reply]
    refine ⟨⟨fun success => ?_, fun listable => absurd listable unlisted⟩, misread, fun matched => ?_, ?_⟩
    · rcases exitUsual e with ⟨-, -, code⟩ | code | code <;> cases code.symm.trans success
    · rcases exitUsual e with ⟨location, stops, -⟩ | code | code
      · obtain ⟨c, loads, other⟩ := unmatched location stops
        exact absurd (matched c loads) other
      · simp [code, Exit.error]
      · simp [code, Exit.parseError]
    · rintro terminal i o runs rfl
      exact ⟨fun _ => performUnlisted runs failed terminal, fun c loads compiles matched =>
        absurd ⟨c, loads, compiles, matched⟩ unlisted⟩

def threefold : Tree :=
  let rule := "[[rules]]\npattern=\"foo\"\nreplacement=\"bar\"\n"
  let config := "[rewire]\nversion=\"1\"\n" ++ rule
  ⟨.dir [("work", .dir [("a", .file (bytesOf config.toList) 0o644),
    ("b", .file (bytesOf (config ++ "[[rules]]\npattern=\"(\"\nreplacement=\"\"\n").toList) 0o644),
    ("c", .file (bytesOf rule.toList) 0o644)])], ["work"]⟩

def onFile : RunOptions := ⟨⟨"a"⟩, some ⟨"b"⟩, none, 1⟩

def nowhere : RunOptions := ⟨⟨"b"⟩, some ⟨"missing"⟩, none, 4⟩

open Engine in
set_option maxRecDepth 100000 in
theorem fatalAlikeThreefold :
    (listing threefold ⟨"a"⟩ .human).exit = 0 ∧ (listing threefold ⟨"b"⟩ .jsonl).exit = 2 ∧
      Misread threefold ⟨"c"⟩ ∧
      (∃ e : DiscoveryError, perform threefold false ⟨.apply onFile, none, false⟩ =
        ({ exit := 2, err := s!"Error: Discovery error: {e.message}\n" }, threefold)) ∧
      perform threefold true ⟨.check nowhere, none, false⟩ =
        (listing threefold ⟨"b"⟩ .jsonl, threefold) := by
  have codes : (listing threefold ⟨"a"⟩ .human).exit = 0 ∧ (listing threefold ⟨"b"⟩ .jsonl).exit = 2 ∧
      (listing threefold ⟨"c"⟩ .human).exit = 3 := by decide +kernel
  obtain ⟨listed, refused, misread⟩ := codes
  have unrooted : threefold.list ⟨"b"⟩ = .error .notDirectory := by decide +kernel
  obtain ⟨listable, -, -, rooted⟩ := fatalAlike threefold ⟨"a"⟩ .human
  obtain ⟨-, -, -, alike⟩ := fatalAlike threefold ⟨"b"⟩ .jsonl
  obtain ⟨c, loads, compiles, matched⟩ := listable.mp listed
  refine ⟨listed, refused, (fatalAlike threefold ⟨"c"⟩ .human).2.1.mp misread, ?_, ?_⟩
  · have ends := (rooted false ⟨.apply onFile, none, false⟩ onFile (.inl rfl) rfl).2 c loads compiles
      matched
    have root : rootOf onFile c = ⟨"b"⟩ := rfl
    rwa [root, unrooted] at ends
  · refine (alike true ⟨.check nowhere, none, false⟩ nowhere (.inr rfl) rfl).1 ?_
    rw [refused]
    decide

def nestedText : List Char :=
  "[rewire]\nversion=\"1\"\n[[scopes]]\nlocation=\"".toList ++ RuleSet.nestedChars ++
    "\"\n[[scopes.rules]]\npattern=\"x\"\nreplacement=\"y\"\nliteral=true\n".toList

def holding (content : Bytes) : Tree := ⟨.dir [("a", .file content 0o644), ("d", .dir [])], []⟩

theorem readHolding (content : Bytes) : (holding content).read ⟨"a"⟩ = .ok content := rfl

def nestedConfig : Tree := holding (bytesOf nestedText)

def onNested : RunOptions := ⟨⟨"a"⟩, some ⟨"d"⟩, none, 1⟩

set_option maxRecDepth 100000 in
theorem nestedDescribes :
    Config.Describes (String.ofList nestedText) { version := "1", scopes := [RuleSet.nestedScope] } :=
  Config.describesChars String.toList_ofList (by decide +kernel) (by decide +kernel)

theorem nestedHolds : Holds nestedConfig ⟨"a"⟩ (String.ofList nestedText) := by
  rw [Holds, String.toList_ofList]
  exact readHolding (bytesOf nestedText)

theorem nestedValid [Engine] : Config.Valid { version := "1", scopes := [RuleSet.nestedScope] } where
  version := rfl
  rules := .inr ⟨_, List.mem_cons_self, List.cons_ne_nil _ _⟩
  scopes := by
    obtain ⟨g, read, -⟩ := RuleSet.nestedRead
    simpa [RuleSet.nestedScope] using ⟨g, read⟩
  extensions := nofun

theorem stoppedAlike [Engine] {location : String} (loads : Loads t path c)
    (stops : c.ruleSet = .error (.noMatcher location)) (format : Format) :
    (listing t path format).exit = 101 ∧
      ∀ (terminal : Bool) (i : Invocation) (o : RunOptions), i.Runs o → o.config = path →
        (perform t terminal i).1.exit = 101 := by
  have failed : prepare t path = .error (ListFailure.ofRun (.rule (.noMatcher location))) := by
    simp only [prepare, loads.loaded, stops, ListFailure.ofRun]
  have unlisted : listed t path = .error (.rule (.noMatcher location)) := by
    simp [listed, loads.loaded, stops, Except.mapError, bind, Except.bind]
  refine ⟨?_, ?_⟩
  · rw [listing, unlisted]
    rfl
  · rintro terminal i o runs rfl
    rw [performUnlisted runs failed]
    rfl

open Engine in
theorem fatalStoppedNested :
    (∃ c, Loads nestedConfig ⟨"a"⟩ c ∧ c.Compiles) ∧
      (listing nestedConfig ⟨"a"⟩ .human).exit = 101 ∧
      (perform nestedConfig false ⟨.apply onNested, none, false⟩).1.exit = 101 ∧
      (perform nestedConfig false ⟨.check onNested, none, false⟩).1.exit = 101 := by
  have loads : Loads nestedConfig ⟨"a"⟩ { version := "1", scopes := [RuleSet.nestedScope] } :=
    ⟨_, nestedHolds, nestedDescribes, nestedValid⟩
  obtain ⟨unlisted, stopped⟩ := stoppedAlike loads (RuleSet.nestedStops RuleSet.nestedRules) .human
  refine ⟨⟨_, loads, nofun, ?_⟩, unlisted, stopped false _ onNested (.inl rfl) rfl,
    stopped false _ onNested (.inr rfl) rfl⟩
  exact List.forall_mem_singleton.mpr RuleSet.nestedRules

end Execution

end Codemod
