import Codemod.Path
import Codemod.Utf8

/-!
Trees of files. A location is the list of names from the top of the tree down to an entry; it holds
no links and no dots. Relative paths start from a working directory.
-/
namespace Codemod

/-- An entry: a file with its access rights, a symbolic link, or a directory. One that is closed may be
neither listed nor passed through. -/
inductive Node where
  | file (content : Bytes) (mode : Nat)
  | link (target : Path)
  | dir (entries : List (String × Node))
  | closed (entries : List (String × Node))
  deriving Repr, Inhabited

abbrev Location := List String

abbrev Directory := List (String × Node)

def Directory.put (name : String) (node : Node) : Directory → Directory
  | [] => [(name, node)]
  | (other, n) :: rest =>
    if other = name then (name, node) :: rest else (other, n) :: Directory.put name node rest

def Directory.erase (es : Directory) (name : String) : Directory := es.filter fun e => e.1 != name

namespace Node

def child? (name : String) : Node → Option Node
  | .dir es => List.lookup name es
  | _ => none

def isDir : Node → Bool
  | .dir _ => true
  | .closed _ => true
  | _ => false

def get? (n : Node) : Location → Option Node
  | [] => some n
  | name :: rest => (n.child? name).bind fun c => c.get? rest

def modify (f : Node → Node) (n : Node) : Location → Node
  | [] => f n
  | name :: rest =>
    match n with
    | .dir es =>
      match List.lookup name es with
      | some c => .dir (Directory.put name (c.modify f rest) es)
      | none => n
    | _ => n

def insert (name : String) (node : Node) : Node → Node
  | .dir es => .dir (Directory.put name node es)
  | n => n

def erase (name : String) : Node → Node
  | .dir es => .dir (Directory.erase es name)
  | n => n

mutual

def size : Node → Nat
  | .file _ _ => 1
  | .link _ => 1
  | .dir es => 1 + sizes es
  | .closed _ => 1

def sizes : List (String × Node) → Nat
  | [] => 0
  | (_, n) :: rest => n.size + sizes rest

end

end Node

structure Tree where
  root : Node
  working : Location
  deriving Repr, Inhabited

namespace Tree

def get? (t : Tree) (l : Location) : Option Node := t.root.get? l

def size (t : Tree) : Nat := t.root.size

def insert (t : Tree) (dir : Location) (name : String) (node : Node) : Tree :=
  { t with root := t.root.modify (Node.insert name node) dir }

def erase (t : Tree) (dir : Location) (name : String) : Tree :=
  { t with root := t.root.modify (Node.erase name) dir }

end Tree

end Codemod
