import Codemod.Pattern.Expr

/-!
Programs that look for a match. A program is a list of instructions; each names the address where
matching goes on. The code of an expression starts at its first instruction and leaves only to the
address that it was given, so that the parts of an expression are laid out one after another.
-/
namespace Codemod.Pattern

inductive Instr where
  | char (c : Char) (next : Nat)
  | set (s : CharSet) (next : Nat)
  | look (l : Look) (next : Nat)
  | mark (slot : Nat) (next : Nat)
  | fork (first second : Nat)
  | jump (next : Nat)
  | accept
  deriving DecidableEq, Repr

def Instr.choice (greedy : Bool) (enter leave : Nat) : Instr :=
  if greedy then .fork enter leave else .fork leave enter

def textCode : List Char → (base next : Nat) → List Instr
  | [], _, next => [.jump next]
  | [c], _, next => [.char c next]
  | c :: rest, base, next => .char c (base + 1) :: textCode rest (base + 1) next

def copies (code : Nat → Nat → List Instr) (size n base next : Nat) : List Instr :=
  (List.range n).flatMap fun k =>
    code (base + k * size) (if k + 1 = n then next else base + (k + 1) * size)

def optionals (code : Nat → Nat → List Instr) (size n base next : Nat) (greedy : Bool) :
    List Instr :=
  (List.range n).flatMap fun k =>
    let here := base + k * (size + 1)
    .choice greedy (here + 1) next ::
      code (here + 1) (if k + 1 = n then next else base + (k + 1) * (size + 1))

namespace Expr

def takes (e : Expr) : Bool := e.minLength.any (0 < ·)

def codeSize : Expr → Nat
  | .empty => 1
  | .text cs => max cs.length 1
  | .set _ => 1
  | .look _ => 1
  | .group _ _ e => e.codeSize + 2
  | .seq a b => a.codeSize + b.codeSize
  | .alt a b => a.codeSize + b.codeSize + 1
  | .rep e lo none _ =>
    match lo with
    | 0 => if e.takes then e.codeSize + 1 else e.codeSize + 2
    | n + 1 => (n + 1) * e.codeSize + 1
  | .rep e lo (some hi) _ =>
    if hi ≤ lo then max (lo * e.codeSize) 1
    else lo * e.codeSize + (hi - lo) * (e.codeSize + 1)

/-- The code of an expression, placed at `base` and going on at `next`. An unbounded repetition of
what may take nothing is entered through its first instruction only once, so that an iteration
that takes nothing ends it. -/
def code : Expr → (base next : Nat) → List Instr
  | .empty, _, next => [.jump next]
  | .text cs, base, next => textCode cs base next
  | .set s, _, next => [.set s next]
  | .look l, _, next => [.look l next]
  | .group index _ e, base, next =>
    .mark (2 * index) (base + 1) ::
      (e.code (base + 1) (base + 1 + e.codeSize) ++ [.mark (2 * index + 1) next])
  | .seq a b, base, next =>
    a.code base (base + a.codeSize) ++ b.code (base + a.codeSize) next
  | .alt a b, base, next =>
    .fork (base + 1) (base + 1 + a.codeSize) ::
      (a.code (base + 1) next ++ b.code (base + 1 + a.codeSize) next)
  | .rep e lo none greedy, base, next =>
    match lo with
    | 0 =>
      if e.takes then .choice greedy (base + 1) next :: e.code (base + 1) base
      else
        let last := base + 1 + e.codeSize
        .choice greedy (base + 1) next ::
          (e.code (base + 1) last ++ [.choice greedy (base + 1) next])
    | n + 1 =>
      let last := base + n * e.codeSize
      copies e.code e.codeSize n base last ++
        (e.code last (last + e.codeSize) ++ [.choice greedy last next])
  | .rep e lo (some hi) greedy, base, next =>
    if hi ≤ lo then
      if lo = 0 then [.jump next] else copies e.code e.codeSize lo base next
    else
      let rest := base + lo * e.codeSize
      copies e.code e.codeSize lo base rest ++
        optionals e.code e.codeSize (hi - lo) rest next greedy

end Expr

structure Program where
  code : Array Instr
  deriving DecidableEq, Repr

def Expr.program (e : Expr) : Program := ⟨(e.code 0 e.codeSize ++ [Instr.accept]).toArray⟩

end Codemod.Pattern
