import Codemod.Path

/-!
Paths below a root, in normal form: slashes only, none at the end, no `./` in front, and a single
dot for the root itself.
-/
namespace Codemod

structure RelPath where
  text : String
  deriving DecidableEq, Repr

namespace RelPath

def dropHere : List Char → List Char
  | '.' :: '/' :: rest => dropHere rest
  | cs => cs

def normalize (cs : List Char) : List Char :=
  let slashed := cs.map fun c => if c = '\\' then '/' else c
  match (slashed.reverse.dropWhile (· = '/')).reverse with
  | [] => ['.']
  | trimmed => match dropHere trimmed with
    | [] => ['.']
    | kept => kept

def ofText (text : String) : RelPath := ⟨String.ofList (normalize text.toList)⟩

def relativeTo (root path : Path) : RelPath :=
  ofText ((Path.stripPrefix? root path).getD path).text

def segments (p : RelPath) : List (List Char) := Path.segments p.text.toList

def compare (p q : RelPath) : Ordering := Path.compareText p.text.toList q.text.toList

end RelPath

end Codemod
