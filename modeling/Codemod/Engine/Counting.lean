import Codemod.Glob.Matcher
import Codemod.Pattern.Meaning

/-!
An engine that counts the bytes of its states. A state has 32, a way out of it 4, and one with bytes
on it 8. Of sets beyond ASCII, whose states are shared among the encodings of their members, the size
is an estimate.
-/
namespace Codemod

namespace Pattern

/- The states around every pattern: a search for its start, its two ends, and the match. -/
def frameWeight : Nat := 6 * 32 + 2 * 8

namespace Expr

def isChoice : Expr → Bool
  | .alt _ _ => true
  | _ => false

def weight : Expr → Nat
  | .empty => 32
  | .text cs => 32 * (bytesOf cs).length
  | .set s => if s.isAscii then 64 + 8 * s.spans.length else 256 + 64 * s.spans.length
  | .look _ => 32
  | .group _ _ e => e.weight + 64
  | .seq a b => a.weight + b.weight
  | .alt a b => a.weight + b.weight + if b.isChoice then 4 else 72
  | .rep e 0 none _ => if e.minLength = some 0 then e.weight + 112 else e.weight + 40
  | .rep e lo none _ => lo * e.weight + 40
  | .rep e lo (some hi) _ =>
    if lo = hi then lo * e.weight
    else (if lo = 0 && hi != 1 then 32 else 0) + 32 + hi * e.weight + (hi - lo) * 40

end Expr

def Bracket.count : Bracket → Nat
  | .union items => items.length
  | _ => 1

mutual

def Tree.weight : Tree → Nat
  | .empty => 32
  | .dot => 72
  | .bracket negated body => 64 + 8 * (body.count + if negated then 1 else 0)
  | .repeated t _ none _ => t.weight + 40
  | .repeated t _ (some _) _ => t.weight + 72
  | .group _ t => t.weight
  | .choice ts => Tree.weights ts + 64 + 4 * ts.length
  | .sequence ts => Tree.weights ts
  | .flags _ => 0
  | _ => 32

def Tree.weights : List Tree → Nat
  | [] => 0
  | t :: rest => t.weight + Tree.weights rest

end

end Pattern

namespace Engine

scoped instance counting : Engine where
  fits source :=
    match Pattern.Expr.read source with
    | .ok e => e.weight + Pattern.frameWeight ≤ Pattern.sizeLimit
    | .error _ => true
  fitsLocation location :=
    match Glob.read location with
    | .ok g => g.translation.weight + Pattern.frameWeight ≤ Pattern.sizeLimit
    | .error _ => true

end Engine

end Codemod
