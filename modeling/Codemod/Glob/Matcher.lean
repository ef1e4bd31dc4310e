import Codemod.Engine
import Codemod.Glob
import Codemod.Pattern.Tree

/-!
What a glob is matched by: a pattern that it is translated into, one part for each token. A pattern
that is nested too deeply has no matcher, and so has no glob with such a translation, although the
glob itself can be read.
-/
namespace Codemod.Glob

open Pattern (Tree Bracket)

def byteLiteral (b : UInt8) : Pattern.Literal := ⟨Char.ofNat b.toNat, true⟩

def byteItem : UInt8 × UInt8 → Bracket
  | (x, y) => if x = y then .literal (byteLiteral x) else .range (byteLiteral x) (byteLiteral y)

def slashTree : Tree := .literal (byteLiteral slash)

def anyTree (separated : Bool) : Tree :=
  if separated then .bracket true (.literal (byteLiteral slash)) else .dot

def manyTree (t : Tree) : Tree := .repeated t 0 none true

def choiceTree (ts : List Tree) : Tree := .group (.flags []) (Tree.ofChoices ts)

mutual

def Token.trees (separated : Bool) : Token → List Tree
  | .literal c => (String.utf8EncodeChar c).map fun b => .literal (byteLiteral b)
  | .any => [anyTree separated]
  | .star => [manyTree (anyTree separated)]
  | .leadingDirs =>
    [choiceTree [.repeated slashTree 0 (some 1) true, .sequence [manyTree .dot, slashTree]]]
  | .trailingDirs => [slashTree, manyTree .dot]
  | .innerDirs => [choiceTree [slashTree, .sequence [slashTree, manyTree .dot, slashTree]]]
  | .set negated ranges =>
    [.bracket negated (Bracket.ofItems
      (ranges.flatMap fun (lo, hi) => (byteRanges lo hi).map byteItem))]
  | .choice branches =>
    if branchesVoid branches then [] else [choiceTree (branchTrees separated branches)]

def branchTrees (separated : Bool) : List (List Token) → List Tree
  | [] => []
  | b :: rest =>
    (if tokensVoid b then [] else [Tree.ofParts (tokenTrees separated b)]) ++
      branchTrees separated rest

def tokenTrees (separated : Bool) : List Token → List Tree
  | [] => []
  | t :: rest => t.trees separated ++ tokenTrees separated rest

end

def body (g : Glob) : List Tree :=
  match g.tokens with
  | [.leadingDirs] => [manyTree .dot]
  | ts => tokenTrees g.options.separated ts

/-- The pattern that a glob is translated into, from the start of a path to its end and byte by
byte. -/
def translation (g : Glob) : Tree :=
  .sequence ([.flags [.negation, .flag .unicode], .assertion .lineStart] ++ g.body ++
    [.assertion .lineEnd])

def hasMatcher [Engine] (g : Glob) : Bool :=
  g.translation.depth ≤ Pattern.nestLimit && Engine.fitsLocation g.text

end Codemod.Glob
