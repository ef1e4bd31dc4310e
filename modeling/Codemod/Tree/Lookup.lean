import Codemod.Failure
import Codemod.Ordered
import Codemod.Tree

/-!
Where a path leads. Links are followed wherever they stand, the last name excepted if so asked, and
no more than forty of them. A path that ends in a slash has to lead to a directory.
-/
namespace Codemod.Tree

inductive Spot where
  | entry (location : Location)
  | free (dir : Location) (name : String)
  deriving DecidableEq, Repr

def endsInSlash (cs : List Char) : Bool := cs.getLast? = some '/'

/-- The names in a path, dots included; a slash at the end counts as a dot. -/
def steps (cs : List Char) : List String :=
  ((Path.segments cs).filter (!·.isEmpty)).map String.ofList ++ if endsInSlash cs then ["."] else []

def origin (cs : List Char) (here : Location) : Location :=
  if cs.head? = some '/' then [] else here

def nameLimit : Nat := 255

def pathLimit : Nat := 4096

def linkLimit : Nat := 40

def takeSteps (t : Tree) (follow : Location → List String → Except IoError Spot)
    (stopAtLink : Bool) (here : Location) : List String → Except IoError Spot
  | [] => .ok (.entry here)
  | step :: rest =>
    match t.get? here with
    | none => .error .notFound
    | some (.dir es) =>
      if step = "." then takeSteps t follow stopAtLink here rest
      else if step = ".." then takeSteps t follow stopAtLink here.dropLast rest
      else if nameLimit < step.utf8ByteSize then .error .nameTooLong
      else match List.lookup step es with
        | none => if rest.isEmpty then .ok (.free here step) else .error .notFound
        | some (.link target) =>
          if rest.isEmpty && stopAtLink then .ok (.entry (here ++ [step]))
          else
            let cs := target.text.toList
            follow (origin cs here) (steps cs ++ rest)
        | some _ => takeSteps t follow stopAtLink (here ++ [step]) rest
    | some (.closed _) => .error .denied
    | some _ => .error .notDirectory

def resolve (t : Tree) (stopAtLink : Bool) :
    Nat → Location → List String → Except IoError Spot
  | 0 => takeSteps t (fun _ _ => .error .tooManyLinks) stopAtLink
  | n + 1 => takeSteps t (resolve t stopAtLink n) stopAtLink

def locate (t : Tree) (p : Path) (stopAtLink : Bool) : Except IoError Spot :=
  let cs := p.text.toList
  if cs.contains '\x00' then .error .nulInPath
  else if cs.isEmpty then .error .notFound
  else if pathLimit ≤ p.text.utf8ByteSize then .error .nameTooLong
  else resolve t stopAtLink linkLimit (origin cs t.working) (steps cs)

def find (t : Tree) (p : Path) : Except IoError Location :=
  match t.locate p false with
  | .ok (.entry l) => .ok l
  | .ok (.free _ _) => .error .notFound
  | .error e => .error e

def findLink (t : Tree) (p : Path) : Except IoError Location :=
  match t.locate p true with
  | .ok (.entry l) => .ok l
  | .ok (.free _ _) => .error .notFound
  | .error e => .error e

mutual

def nearNode (room : Nat) : Node → Node
  | .file content mode => .file content mode
  | .link target => .link target
  | .dir es => .dir (nearEntries room es)
  | .closed es => .closed es

def nearEntries (room : Nat) : Directory → Directory
  | [] => []
  | (name, n) :: rest =>
    if name.utf8ByteSize < room then
      (name, nearNode (room - (name.utf8ByteSize + 1)) n) :: nearEntries room rest
    else nearEntries room rest

end

def near (t : Tree) : Tree := { t with root := nearNode (pathLimit - 1) t.root }

/-- The location that a path leads to, if every entry on the way can be named from the top of the
tree. The path itself may be of any length. -/
def canonical? (t : Tree) (p : Path) : Option Location :=
  let cs := p.text.toList
  if cs.contains '\x00' || cs.isEmpty then none
  else match resolve t.near false linkLimit (origin cs t.working) (steps cs) with
    | .ok (.entry l) => some l
    | _ => none

def nodeAt (t : Tree) (l : Location) : Except IoError Node :=
  match t.get? l with
  | some n => .ok n
  | none => .error .notFound

def look (t : Tree) (p : Path) : Except IoError Node := do t.nodeAt (← t.find p)

def lookLink (t : Tree) (p : Path) : Except IoError Node := do t.nodeAt (← t.findLink p)

def has (t : Tree) (p : Path) : Bool := (t.look p).toBool

def hasDir (t : Tree) (p : Path) : Bool :=
  match t.look p with
  | .ok n => n.isDir
  | .error _ => false

inductive Kind where
  | file
  | link
  | dir
  deriving DecidableEq, Repr

def kindOf : Node → Kind
  | .file _ _ => .file
  | .link _ => .link
  | .dir _ => .dir
  | .closed _ => .dir

def nameLE (a b : String × Kind) : Bool := (Path.compareText a.1.toList b.1.toList).isLE

def list (t : Tree) (p : Path) : Except IoError (List (String × Kind)) := do
  match ← t.look p with
  | .dir es => return Ordered.sort nameLE (es.map fun e => (e.1, kindOf e.2))
  | .closed _ => .error .denied
  | _ => .error .notDirectory

def read (t : Tree) (p : Path) : Except IoError Bytes := do
  match ← t.look p with
  | .file content _ => return content
  | .dir _ => .error .isDirectory
  | .closed _ => .error .denied
  | .link _ => .error .tooManyLinks

end Codemod.Tree
