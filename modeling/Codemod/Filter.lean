import Codemod.Ordered
import Codemod.RelPath

/-!
Which files a walk yields: by extension, by the names of the directories above them, and one by
one. Without any extension all files are included; directories named `.git` are always left out.
-/
namespace Codemod

structure Filter where
  extensions : List String := []
  excludedDirs : List String := []
  skipped : List Path := []
  gitignore : Bool := false
  deriving DecidableEq, Repr

namespace Filter

def textOrder (a b : String) : Ordering := Path.compareText a.toList b.toList

def includeExtension (f : Filter) (extension : String) : Filter :=
  match extension.toList.dropWhile (· = '.') with
  | [] => f
  | cs => { f with extensions := Ordered.insert textOrder (String.ofList cs) f.extensions }

def isSlash (c : Char) : Bool := c = '/' || c = '\\'

def excludeDir (f : Filter) (name : String) : Filter :=
  match ((name.toList.dropWhile isSlash).reverse.dropWhile isSlash).reverse with
  | [] => f
  | cs => { f with excludedDirs := Ordered.insert textOrder (String.ofList cs) f.excludedDirs }

def skipFile (f : Filter) (path : Path) : Filter :=
  { f with skipped := Ordered.insert Path.compare path f.skipped }

def ofLists (extensions excludedDirs : List String) : Filter :=
  excludedDirs.foldl excludeDir (extensions.foldl includeExtension {})

def includesFile (f : Filter) (path : Path) : Bool :=
  f.extensions.isEmpty || path.extension?.any f.extensions.contains

def excludesDir (f : Filter) (name : String) : Bool :=
  name = ".git" || f.excludedDirs.contains name

def same (f g : Filter) : Bool :=
  f.extensions = g.extensions && f.excludedDirs = g.excludedDirs &&
    f.skipped.map Path.components = g.skipped.map Path.components && f.gitignore = g.gitignore

end Filter

end Codemod
