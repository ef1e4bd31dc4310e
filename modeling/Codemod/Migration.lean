import Codemod.Report
import Codemod.Tree.Change
import Codemod.Walk

/-!
Running rules over the files of a tree. Every file is read, edited and, if that changed it, put
back. What goes wrong with one file is recorded, and the others are not affected.
-/
namespace Codemod

structure FileTask where
  entry : FileEntry
  before : String := ""
  after : Option String := none
  replacements : Nat := 0
  changed : Bool := false
  error : Option FileError := none
  deriving DecidableEq, Repr

def RuleSet.editFile (s : RuleSet) (t : Tree) (e : FileEntry) : FileTask :=
  match t.read e.path with
  | .error io => { entry := e, error := some (.read io) }
  | .ok bytes =>
    match Utf8.decode bytes with
    | .error offset => { entry := e, error := some (.decode offset) }
    | .ok cs =>
      let before := String.ofList cs
      let w := s.edit e.relative before
      { entry := e, before, after := some w.content, replacements := w.replacements,
        changed := w.content != before }

structure Migration where
  rules : RuleSet
  dryRun : Bool

namespace Migration

def commit (m : Migration) (t : Tree) (path : Path) (content : String) (replacements : Nat) :
    Outcome × Tree :=
  if m.dryRun then (.changed replacements false, t)
  else match t.replace path (bytesOf content.toList) with
    | .ok t => (.changed replacements true, t)
    | .error e => (.failed (.write e), t)

def settle (m : Migration) (t : Tree) (task : FileTask) : FileOutcome × Tree :=
  let (outcome, t) := match task.error, task.after with
    | some error, _ => (Outcome.failed error, t)
    | none, some content =>
      if task.changed then m.commit t task.entry.path content task.replacements else (.unchanged, t)
    | none, none => (.unchanged, t)
  (⟨task.entry.path, task.entry.relative, outcome⟩, t)

def process (m : Migration) (t : Tree) (e : FileEntry) : FileOutcome × Tree :=
  m.settle t (m.rules.editFile t e)

def processAll (m : Migration) (t : Tree) : List FileEntry → List FileOutcome × Tree
  | [] => ([], t)
  | e :: rest =>
    let (o, t) := m.process t e
    let (os, t) := m.processAll t rest
    (o :: os, t)

def report (m : Migration) (outcomes : List FileOutcome) : Report :=
  Report.ofOutcomes m.dryRun outcomes

def run (m : Migration) (t : Tree) (entries : List FileEntry) : Report × Tree :=
  let (os, t) := m.processAll t entries
  (m.report os, t)

def walkFailure (root : Path) (e : DiscoveryError) : FileOutcome :=
  let path := match e with
    | .walk (some path) _ => path
    | .walk none _ => ⟨""⟩
    | .rootNotFound path | .rootNotDirectory path | .rootUnreadable path _ => path
  ⟨path, RelPath.relativeTo root path, .failed (.discovery e.message)⟩

abbrev Found := Except DiscoveryError FileEntry

def processFound (m : Migration) (root : Path) (t : Tree) : List Found → List FileOutcome × Tree
  | [] => ([], t)
  | found :: rest =>
    let (o, t) := match found with
      | .ok e => m.process t e
      | .error e => (walkFailure root e, t)
    let (os, t) := m.processFound root t rest
    (o :: os, t)

def runFound (m : Migration) (root : Path) (t : Tree) (found : List Found) : Report × Tree :=
  let (os, t) := m.processFound root t found
  (m.report os, t)

def foundFailure? (root : Path) : Found → Option FileOutcome
  | .ok _ => none
  | .error e => some (walkFailure root e)

def foundFile? : Found → Option FileEntry
  | .ok e => some e
  | .error _ => none

/-- Runs over a discovery that has come to its end. The failures are recorded before any file. -/
def runDrained (m : Migration) (root : Path) (t : Tree) (found : List Found) : Report × Tree :=
  let (os, t) := m.processAll t (found.filterMap foundFile?)
  (m.report (found.filterMap (foundFailure? root) ++ os), t)

def found? : WalkItem → Option Found
  | .file e => some (.ok e)
  | .skipped _ _ => none
  | .failed e => some (.error e)

def sweep (m : Migration) (root : Path) : Nat → Tree → Walk → List FileOutcome × Tree
  | 0, t, _ => ([], t)
  | fuel + 1, t, w =>
    match w.next t with
    | none => ([], t)
    | some (item, w) =>
      match found? item with
      | none => m.sweep root fuel t w
      | some (.error e) =>
        let (os, t) := m.sweep root fuel t w
        (walkFailure root e :: os, t)
      | some (.ok e) =>
        let (o, t) := m.process t e
        let (os, t) := m.sweep root fuel t w
        (o :: os, t)

/--
Runs over all files below a root. A run in parallel ends the discovery before it touches any file;
any other takes the files as they are discovered.
-/
def migrate (m : Migration) (t : Tree) (root : Path) (f : Filter) (parallel : Bool) :
    Except DiscoveryError (Report × Tree) := do
  let w ← Walk.start t root f
  if parallel then return m.runDrained root t ((w.items t).filterMap found?)
  else
    let (os, t) := m.sweep root (Walk.limit t) t w
    return (m.report os, t)

end Migration

end Codemod
