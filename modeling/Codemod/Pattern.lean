import Codemod.Engine
import Codemod.Pattern.Meaning
import Codemod.Pattern.Search
import Codemod.Template

/-! Compiled patterns: what a pattern means, its program, and the groups that it has. -/
namespace Codemod

structure Pattern where
  expr : Pattern.Expr
  program : Pattern.Program
  deriving DecidableEq, Repr

namespace Pattern

def compile [Engine] (source : List Char) : Except Error Pattern := do
  let e ← Expr.read source
  if Engine.fits source then .ok ⟨e, e.program⟩ else .error .size

/-- The number of groups. The whole match counts as one, and so does every number below the
highest, even where a group of that number was removed with a repetition of zero times. -/
def groupCount (p : Pattern) : Nat :=
  p.expr.groups.foldl (fun n g => max n (g.1 + 1)) 1

def groupNamed? (p : Pattern) (name : String) : Option Nat :=
  (p.expr.groups.find? (·.2 == some name)).map (·.1)

def knows (p : Pattern) : GroupRef → Bool
  | .index n => n < p.groupCount
  | .name s => (p.groupNamed? s).isSome

def groupText (p : Pattern) (text : Haystack) (m : Match) (r : GroupRef) : List Char :=
  let index := match r with
    | .index n => some n
    | .name s => p.groupNamed? s
  match index.bind m.group? with
  | some (a, b) => (text.extract a b).toList
  | none => []

end Pattern

end Codemod
