import Codemod.Glob.Token
import Codemod.Utf8

/-!
Matching of globs against the encoded bytes of a path. A token takes some bytes off the front; what
may be left is kept as the list of all possible rests.
-/
namespace Codemod

structure Glob where
  text : String
  options : Glob.Options
  tokens : List Glob.Token

namespace Glob

def slash : UInt8 := 47

def suffixes : Bytes → List Bytes
  | [] => [[]]
  | b :: rest => (b :: rest) :: suffixes rest

def behindSlashes : Bytes → List Bytes
  | [] => []
  | b :: rest => if b = slash then rest :: behindSlashes rest else behindSlashes rest

def withinSegment : Bytes → List Bytes
  | [] => [[]]
  | b :: rest => if b = slash then [b :: rest] else (b :: rest) :: withinSegment rest

/-- The ranges of bytes that a range of characters stands for: its ends are taken byte by byte, and
only the two bytes next to the hyphen make a range. -/
def byteRanges (lo hi : Char) : List (UInt8 × UInt8) :=
  let a := String.utf8EncodeChar lo
  let b := String.utf8EncodeChar hi
  if lo = hi then a.map fun x => (x, x)
  else
    a.dropLast.map (fun x => (x, x)) ++ b.tail.map (fun x => (x, x)) ++
      match a.getLast?, b.head? with
      | some x, some y => [(x, y)]
      | _, _ => []

def inRanges (ranges : List (Char × Char)) (b : UInt8) : Bool :=
  ranges.any fun (lo, hi) => (byteRanges lo hi).any fun (x, y) => x ≤ b && b ≤ y

def distinct : List Bytes → List Bytes
  | [] => []
  | s :: rest => s :: (distinct rest).filter (·.length != s.length)

mutual

def Token.isVoid : Token → Bool
  | .choice branches => branchesVoid branches
  | _ => false

def tokensVoid : List Token → Bool
  | [] => true
  | t :: rest => t.isVoid && tokensVoid rest

def branchesVoid : List (List Token) → Bool
  | [] => true
  | b :: rest => tokensVoid b && branchesVoid rest

end

mutual

def Token.rests (separated : Bool) (s : Bytes) : Token → List Bytes
  | .literal c =>
    let cs := String.utf8EncodeChar c
    if cs.isPrefixOf s then [s.drop cs.length] else []
  | .any => match s with
    | [] => []
    | b :: rest => if separated && b = slash then [] else [rest]
  | .star => if separated then withinSegment s else suffixes s
  | .leadingDirs => s :: behindSlashes s
  | .trailingDirs => match s with
    | [] => []
    | b :: rest => if b = slash then suffixes rest else []
  | .innerDirs => match s with
    | [] => []
    | b :: rest => if b = slash then rest :: behindSlashes rest else []
  | .set negated ranges => match s with
    | [] => []
    | b :: rest => if inRanges ranges b != negated then [rest] else []
  | .choice branches => if branchesVoid branches then [s] else branchRests separated s branches

/- Empty branches of a choice are not tried. -/
def branchRests (separated : Bool) (s : Bytes) : List (List Token) → List Bytes
  | [] => []
  | b :: rest =>
    (if tokensVoid b then [] else restsAfter separated [s] b) ++ branchRests separated s rest

def restsAfter (separated : Bool) (ss : List Bytes) : List Token → List Bytes
  | [] => ss
  | t :: rest => restsAfter separated (distinct (ss.flatMap fun s => t.rests separated s)) rest

end

def build (options : Options) (text : String) : Except Error Glob := do
  .ok ⟨text, options, ← readTokens options text.toList⟩

def read (text : String) : Except Error Glob := build { separated := true } text

/-- Whether a glob takes the whole of a path. A lone `**` takes any. -/
def matchesBytes (separated : Bool) (ts : List Token) (s : Bytes) : Bool :=
  match ts with
  | [.leadingDirs] => true
  | _ => (restsAfter separated [s] ts).any List.isEmpty

def isMatch (g : Glob) (path : String) : Bool :=
  matchesBytes g.options.separated g.tokens (bytesOf path.toList)

end Glob

end Codemod
