import Codemod.Filter
import Codemod.Ignore
import Codemod.Tree.Lookup

/-!
Walking a tree. A walk goes down from a root, every directory before its entries and the entries in
the order of the bytes of their names. It is lazy: a directory is listed when the walk reaches it,
so that what happens to the tree in between is seen. Links are not followed, except the root.
-/
namespace Codemod

structure FileEntry where
  path : Path
  relative : RelPath
  deriving DecidableEq, Repr

def FileEntry.of (root path : Path) : FileEntry := ⟨path, RelPath.relativeTo root path⟩

inductive SkipReason where
  | notAFile
  | extensionNotIncluded
  | skipListed
  deriving DecidableEq, Repr

inductive WalkItem where
  | file (entry : FileEntry)
  | skipped (path : Path) (reason : SkipReason)
  | failed (e : DiscoveryError)
  deriving DecidableEq, Repr

namespace Walk

inductive Visit where
  | above
  | root
  | entry (path : Path) (name : String) (kind : Tree.Kind) (levels : List Ignore.Level)
  | fault (path : Path) (e : IoError)

end Walk

structure Walk where
  root : Path
  filter : Filter
  skipped : List RelPath
  agenda : List Walk.Visit

namespace Walk

def fault (path : Path) (e : IoError) : WalkItem :=
  .failed (.walk (some path) s!"{path.text}: IO error for operation on {path.text}: {e.message}")

def below? (root : Location) (l : Location) : Option RelPath :=
  if root.isPrefixOf l then some (RelPath.ofText ("/".intercalate (l.drop root.length))) else none

def skipList (t : Tree) (root : Path) (f : Filter) : List RelPath :=
  match t.canonical? root with
  | none => []
  | some top => f.skipped.filterMap fun p => (t.canonical? p).bind (below? top)

def start (t : Tree) (root : Path) (f : Filter) : Except DiscoveryError Walk :=
  match t.look root with
  | .error .notFound => .error (.rootNotFound root)
  | .error e => .error (.rootUnreadable root e)
  | .ok n =>
    if !n.isDir then .error (.rootNotDirectory root)
    else match t.list root with
      | .error e => .error (.rootUnreadable root e)
      | .ok _ => .ok ⟨root, f, skipList t root f, [.above, .root]⟩

def ruleFile (t : Tree) (dir file : Path) : Ignore.RuleFile :=
  match t.read file with
  | .ok content => .read dir content
  | .error _ => .read dir []

def ignoreFiles (dir : Path) : List Path :=
  [dir.join ⟨".gitignore"⟩, (dir.join ⟨".git"⟩).join ⟨"info/exclude"⟩]

def level (t : Tree) (dir : Path) : Ignore.Level :=
  ⟨ruleFile t dir (dir.join ⟨".gitignore"⟩), ruleFile t dir ((dir.join ⟨".git"⟩).join ⟨"info/exclude"⟩)⟩

def children (t : Tree) (f : Filter) (dir : Path) (levels : List Ignore.Level) : List Visit :=
  let levels := if f.gitignore then level t dir :: levels else levels
  match t.list dir with
  | .error e => [.fault dir e]
  | .ok es => es.map fun (name, kind) => .entry (dir.join ⟨name⟩) name kind levels

def passesOver (f : Filter) (path : Path) (name : String) (kind : Tree.Kind)
    (levels : List Ignore.Level) : Bool :=
  Ignore.ignores levels path (kind = .dir) || (kind = .dir && f.excludesDir name)

def fileItem (w : Walk) (path : Path) : WalkItem :=
  if !w.filter.includesFile path then .skipped path .extensionNotIncluded
  else
    let entry := FileEntry.of w.root path
    if w.skipped.contains entry.relative then .skipped path .skipListed else .file entry

def filesAbove (t : Tree) (root : Path) : List Path :=
  match t.canonical? root with
  | none => []
  | some top =>
    (List.range top.length).flatMap fun n => ignoreFiles ⟨"/" ++ "/".intercalate (top.take n)⟩

def faultsIn (t : Tree) (file : Path) : List (Path × String) :=
  match t.read file with
  | .ok content => (Ignore.faults file content).map (file, ·)
  | .error _ => []

/-- The ignore files above a root have no say in its walk, but what is wrong with them is told in
front of it, at the first of them that has a fault. -/
def above? (t : Tree) (w : Walk) : Option WalkItem :=
  if w.filter.gitignore && w.root.components != [.name ['-']] && t.hasDir w.root then
    let faults := (filesAbove t w.root).flatMap (faultsIn t)
    faults.head?.map fun (file, _) =>
      .failed (.walk (some file) ("\n".intercalate (faults.map Prod.snd)))
  else none

/-- What has the place of the root. The input stream has a name of its own and cannot be walked. -/
def rootItem (t : Tree) (w : Walk) : WalkItem × List Visit :=
  if w.root.components = [.name ['-']] then (.skipped ⟨"<stdin>"⟩ .notAFile, [])
  else match t.lookLink w.root with
    | .error e => (fault w.root e, [])
    | .ok (.file _ _) => (fileItem w w.root, [])
    | .ok (.link _) =>
      match t.look w.root with
      | .error e => (fault w.root e, [])
      | .ok n => (.skipped w.root .notAFile, if n.isDir then children t w.filter w.root [] else [])
    | .ok _ => (.skipped w.root .notAFile, children t w.filter w.root [])

def nextOf (t : Tree) (w : Walk) : List Visit → Option (WalkItem × List Visit)
  | [] => none
  | .above :: rest =>
    match above? t w with
    | some item => some (item, rest)
    | none => nextOf t w rest
  | .root :: rest =>
    let (item, more) := rootItem t w
    some (item, more ++ rest)
  | .fault path e :: rest => some (fault path e, rest)
  | .entry path name kind levels :: rest =>
    if passesOver w.filter path name kind levels then nextOf t w rest
    else match kind with
      | .dir => some (.skipped path .notAFile, children t w.filter path levels ++ rest)
      | .link => some (.skipped path .notAFile, rest)
      | .file => some (fileItem w path, rest)

def next (t : Tree) (w : Walk) : Option (WalkItem × Walk) :=
  (nextOf t w w.agenda).map fun (item, agenda) => (item, { w with agenda })

/-- No walk of a tree comes upon more items than this: every entry once, every directory once more if
it cannot be listed, and what is told in front. -/
def limit (t : Tree) : Nat := 2 * t.size + 2

def collect (t : Tree) : Nat → Walk → List WalkItem
  | 0, _ => []
  | fuel + 1, w =>
    match w.next t with
    | none => []
    | some (item, w) => item :: collect t fuel w

def items (t : Tree) (w : Walk) : List WalkItem := collect t (limit t) w

end Walk

def Tree.walk (t : Tree) (root : Path) (f : Filter) : Except DiscoveryError (List WalkItem) := do
  return (← Walk.start t root f).items t

end Codemod
