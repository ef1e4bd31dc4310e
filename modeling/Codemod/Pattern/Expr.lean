import Codemod.CharSet

/-!
What a pattern means once flags and classes are resolved. Sequences and choices are built by
`concat` and `choose`, which join literal texts, flatten what is nested, turn a choice of single
characters into a set and share a common beginning of all branches.
-/
namespace Codemod.Pattern

inductive Look where
  | textStart
  | textEnd
  | lineStart
  | lineEnd
  | lineStartCrlf
  | lineEndCrlf
  | boundary (unicode : Bool)
  | notBoundary (unicode : Bool)
  | wordStart (unicode : Bool)
  | wordEnd (unicode : Bool)
  | wordStartHalf (unicode : Bool)
  | wordEndHalf (unicode : Bool)
  deriving DecidableEq, Repr

inductive Expr where
  | empty
  | text (cs : List Char)
  | set (s : CharSet)
  | look (l : Look)
  | group (index : Nat) (name : Option String) (e : Expr)
  | seq (a b : Expr)
  | alt (a b : Expr)
  | rep (e : Expr) (lo : Nat) (hi : Option Nat) (greedy : Bool)
  deriving DecidableEq, Repr

namespace Expr

/-- The fewest characters that a match takes. A part that can never match has no such number, and
nor has any sequence, choice or repetition with such a part. -/
def minLength : Expr → Option Nat
  | .empty => some 0
  | .text cs => some cs.length
  | .set s => if s.isEmpty then none else some 1
  | .look _ => some 0
  | .group _ _ e => e.minLength
  | .seq a b => do some ((← a.minLength) + (← b.minLength))
  | .alt a b => do some (min (← a.minLength) (← b.minLength))
  | .rep e lo _ _ => e.minLength.map (lo * ·)

def onlyEmpty : Expr → Bool
  | .empty => true
  | .text cs => cs.isEmpty
  | .set _ => false
  | .look _ => true
  | .group _ _ e => e.onlyEmpty
  | .seq a b => a.onlyEmpty && b.onlyEmpty
  | .alt a b => a.onlyEmpty && b.onlyEmpty
  | .rep e _ hi _ => hi.isSome && e.onlyEmpty

def groups : Expr → List (Nat × Option String)
  | .group index name e => (index, name) :: e.groups
  | .seq a b => a.groups ++ b.groups
  | .alt a b => a.groups ++ b.groups
  | .rep e _ _ _ => e.groups
  | _ => []

def ofSet (s : CharSet) : Expr :=
  match s.only? with
  | some c => .text [c]
  | none => .set s

def parts : Expr → List Expr
  | .empty => []
  | .seq a b => a.parts ++ b.parts
  | e => [e]

def ofParts : List Expr → Expr
  | [] => .empty
  | [e] => e
  | e :: rest => .seq e (ofParts rest)

def fuse : List Expr → List Expr
  | [] => []
  | e :: rest =>
    match e, fuse rest with
    | .text a, .text b :: more => .text (a ++ b) :: more
    | e, fused => e :: fused

def concat (es : List Expr) : Expr := ofParts (fuse (es.flatMap parts))

def branches : Expr → List Expr
  | .alt a b => a.branches ++ b.branches
  | e => [e]

def ofBranches : List Expr → Expr
  | [] => .set CharSet.empty
  | [e] => e
  | e :: rest => .alt e (ofBranches rest)

def asSet? : Expr → Option CharSet
  | .set s => some s
  | .text [c] => some (CharSet.single c)
  | _ => none

def chooseFlat (es : List Expr) : Expr :=
  match es.flatMap branches with
  | [] => .set CharSet.empty
  | [e] => e
  | bs => match bs.mapM asSet? with
    | some sets => ofSet (CharSet.unions sets)
    | none => ofBranches bs

def commonPrefix : List Expr → List Expr → List Expr
  | a :: as, b :: bs => if a = b then a :: commonPrefix as bs else []
  | _, _ => []

def sharedParts : List Expr → List Expr
  | [] => []
  | [e] => if e.parts.length < 2 then [] else e.parts
  | e :: rest => if e.parts.length < 2 then [] else commonPrefix e.parts (sharedParts rest)

def choose (es : List Expr) : Expr :=
  match chooseFlat es with
  | .alt a b =>
    let bs := (Expr.alt a b).branches
    match sharedParts bs with
    | [] => .alt a b
    | shared =>
      concat (shared ++ [chooseFlat (bs.map fun e => concat (e.parts.drop shared.length))])
  | e => e

def times (e : Expr) (lo : Nat) (hi : Option Nat) (greedy : Bool) : Expr :=
  let lo := if e.onlyEmpty then min lo 1 else lo
  let hi := if e.onlyEmpty then some (min (hi.getD 1) 1) else hi
  if hi = some 0 then .empty
  else if lo = 1 && hi = some 1 then e
  else .rep e lo hi greedy

end Expr

end Codemod.Pattern
