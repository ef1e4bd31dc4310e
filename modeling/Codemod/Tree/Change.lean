import Codemod.Tree.Lookup

/-!
Changes of a tree. Writing goes through links and keeps the access rights of a file that is there.
Replacing puts a new file in the place of whatever has the name, a link included, with the access
rights of the file that the path leads to; a directory cannot be replaced.
-/
namespace Codemod

structure Device where
  room : Option Nat := none
  deriving DecidableEq, Repr

def Device.taken (d : Device) (content : Bytes) : Bytes :=
  match d.room with
  | none => content
  | some n => content.take n

namespace Tree

def defaultMode : Nat := 0o644

def put (t : Tree) (l : Location) (node : Node) : Tree :=
  match l.getLast? with
  | none => { t with root := node }
  | some name => t.insert l.dropLast name node

def refuseSlash (t : Tree) (links : Nat) (here : Location) (cs : List Char) : Except IoError Unit :=
  if endsInSlash cs then do
    let names := (steps cs).dropLast
    match ← resolve t false links (origin cs here) (names.dropLast ++ ["."]) with
    | _ => .error .isDirectory
  else .ok ()

def refuseSlashes (t : Tree) : Nat → Location → List Char → Except IoError Unit
  | 0, here, cs => t.refuseSlash 0 here cs
  | links + 1, here, cs => do
    t.refuseSlash (links + 1) here cs
    match resolve t true (links + 1) (origin cs here) (steps cs) with
    | .ok (.entry l) =>
      match t.get? l with
      | some (.link target) => t.refuseSlashes links l.dropLast target.text.toList
      | _ => .ok ()
    | _ => .ok ()

def write (t : Tree) (p : Path) (content : Bytes) : Except IoError Tree := do
  if p.text.toList.contains '\x00' then throw .nulInPath
  t.refuseSlashes linkLimit t.working p.text.toList
  match ← t.locate p false with
  | .free dir name => return t.insert dir name (.file content defaultMode)
  | .entry l =>
    match ← t.nodeAt l with
    | .file _ mode => return t.put l (.file content mode)
    | .dir _ => throw .isDirectory
    | .closed _ => throw .isDirectory
    | .link _ => throw .tooManyLinks

/-- Writes a file on a device. It is emptied when it is opened, and what there is no room for is
missed only when the rest stands in it. -/
def store (t : Tree) (device : Device) (p : Path) (content : Bytes) : Except IoError Unit × Tree :=
  match t.write p (device.taken content) with
  | .error e => (.error e, t)
  | .ok u => if device.taken content = content then (.ok (), u) else (.error .noSpace, u)

def modeOf : Node → Nat
  | .file _ mode => mode
  | _ => 0o755

def lastName? (cs : List Char) : Option String :=
  (((Path.segments cs).filter (!·.isEmpty)).getLast?).map String.ofList

def replace (t : Tree) (p : Path) (content : Bytes) : Except IoError Tree := do
  let mode := modeOf (← t.look p)
  let cs := p.text.toList
  match lastName? cs with
  | none => throw .busy
  | some name =>
    if name = "." || name = ".." then throw .busy
    if endsInSlash cs then throw .notDirectory
    let l ← t.findLink p
    if (← t.nodeAt l).isDir then throw .isDirectory
    return t.put l (.file content mode)

def makeDirs (t : Tree) (p : Path) : Tree :=
  let cs := p.text.toList
  let names := steps cs
  (List.range names.length).foldl (fun t i =>
    match resolve t false linkLimit (origin cs t.working) (names.take (i + 1)) with
    | .ok (.free dir name) => t.insert dir name (.dir [])
    | _ => t) t

def makeParents (t : Tree) (p : Path) : Tree :=
  match p.parent? with
  | some dir => t.makeDirs dir
  | none => t

def link (t : Tree) (p target : Path) : Except IoError Tree := do
  match ← t.locate p true with
  | .free dir name => return t.insert dir name (.link target)
  | .entry l => return t.put l (.link target)

def setMode (t : Tree) (p : Path) (mode : Nat) : Except IoError Tree := do
  let l ← t.find p
  match ← t.nodeAt l with
  | .file content _ => return t.put l (.file content mode)
  | _ => return t

def remove (t : Tree) (p : Path) : Except IoError Tree := do
  let l ← t.findLink p
  match l.getLast? with
  | some name => return t.erase l.dropLast name
  | none => return { t with root := .dir [] }

inductive Leaf where
  | file (content : Bytes) (mode : Nat)
  | link (target : Path)
  | emptyDir
  deriving DecidableEq, Repr

mutual

def leavesOf (path : String) : Node → List (String × Leaf)
  | .file content mode => [(path, .file content mode)]
  | .link target => [(path, .link target)]
  | .dir [] => [(path, .emptyDir)]
  | .dir (e :: es) => leavesBelow path (e :: es)
  | .closed _ => []

def leavesBelow (path : String) : List (String × Node) → List (String × Leaf)
  | [] => []
  | (name, n) :: rest =>
    leavesOf (if path.isEmpty then name else path ++ "/" ++ name) n ++ leavesBelow path rest

end

def leafLE (a b : String × Leaf) : Bool := (Path.compareText a.1.toList b.1.toList).isLE

def leaves (t : Tree) : List (String × Leaf) :=
  match t.get? t.working with
  | some (.dir es) => (leavesBelow "" es).mergeSort leafLE
  | _ => []

def changesFrom (t old : Tree) : List (String × Bytes) :=
  (leavesOf "" t.root).filterMap fun (path, leaf) =>
    match leaf with
    | .file content _ =>
      match old.look ⟨"/" ++ path⟩ with
      | .ok (.file before _) => if before = content then none else some ("/" ++ path, content)
      | _ => some ("/" ++ path, content)
    | _ => none

def empty : Tree := ⟨.dir [("session", .dir [])], ["session"]⟩

end Tree

end Codemod
