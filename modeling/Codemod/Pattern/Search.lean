import Std.Data.TreeSet
import Codemod.Character.Lookup
import Codemod.Pattern.Program

/-!
The search for matches. Branches are tried in the order of preference, and the first that reaches
the end of the program is the match. A branch that comes to an instruction at a place of the text
where the search has been before is given up: whatever could be found from there has been tried.
-/
namespace Codemod.Pattern

def isAsciiWord (c : Char) : Bool := c.isAlphanum || c = '_'

def isWord (unicode : Bool) (c : Char) : Bool :=
  if unicode then Character.word.contains c else isAsciiWord c

def Look.holds (before after : Option Char) : Look → Bool
  | .textStart => before.isNone
  | .textEnd => after.isNone
  | .lineStart => before.isNone || before = some '\n'
  | .lineEnd => after.isNone || after = some '\n'
  | .lineStartCrlf =>
    before.isNone || before = some '\n' || (before = some '\r' && after != some '\n')
  | .lineEndCrlf =>
    after.isNone || after = some '\r' || (after = some '\n' && before != some '\r')
  | .boundary u => before.any (isWord u) != after.any (isWord u)
  | .notBoundary u => before.any (isWord u) == after.any (isWord u)
  | .wordStart u => !before.any (isWord u) && after.any (isWord u)
  | .wordEnd u => before.any (isWord u) && !after.any (isWord u)
  | .wordStartHalf u => !before.any (isWord u)
  | .wordEndHalf u => !after.any (isWord u)

abbrev Haystack := Array Char

def Haystack.before? (text : Haystack) (i : Nat) : Option Char :=
  if i = 0 then none else text[i - 1]?

structure Branch where
  pc : Nat
  pos : Nat
  marks : List (Nat × Nat)
  deriving DecidableEq, Repr

def Branch.next (text : Haystack) (b : Branch) : Instr → List Branch
  | .char c next => if text[b.pos]? = some c then [⟨next, b.pos + 1, b.marks⟩] else []
  | .set s next =>
    if text[b.pos]?.any s.contains then [⟨next, b.pos + 1, b.marks⟩] else []
  | .look l next =>
    if l.holds (text.before? b.pos) text[b.pos]? then [⟨next, b.pos, b.marks⟩] else []
  | .mark slot next => [⟨next, b.pos, (slot, b.pos) :: b.marks⟩]
  | .fork first second => [⟨first, b.pos, b.marks⟩, ⟨second, b.pos, b.marks⟩]
  | .jump next => [⟨next, b.pos, b.marks⟩]
  | .accept => []

abbrev Visited := Std.TreeSet (Nat × Nat) (compareLex (compareOn Prod.fst) (compareOn Prod.snd))

/-- Tries the waiting branches in order. Gives the first that is accepted, or else where the search
has been. -/
def explore (p : Program) (text : Haystack) :
    Nat → List Branch → Visited → Except Visited Branch
  | 0, _, visited => .error visited
  | _ + 1, [], visited => .error visited
  | n + 1, b :: waiting, visited =>
    if visited.contains (b.pc, b.pos) then explore p text n waiting visited
    else match p.code[b.pc]? with
      | none => explore p text n waiting visited
      | some .accept => .ok b
      | some i =>
        explore p text n (b.next text i ++ waiting) (visited.insert (b.pc, b.pos))

/-- Each instruction is tried at each place at most once, and leaves at most two branches. -/
def Program.bound (p : Program) (text : Haystack) : Nat :=
  2 * p.code.size * (text.size + 1) + 2

structure Match where
  start : Nat
  stop : Nat
  marks : List (Nat × Nat)
  deriving DecidableEq, Repr

/- Tries the `n` places from `start` on. What has been tried from one of them need not be tried
from the next. -/
def searchFrom (p : Program) (text : Haystack) : Nat → Nat → Visited → Option Match
  | 0, _, _ => none
  | n + 1, start, visited =>
    match explore p text (p.bound text) [⟨0, start, []⟩] visited with
    | .ok b => some ⟨start, b.pos, b.marks⟩
    | .error visited => searchFrom p text n (start + 1) visited

def Program.find? (p : Program) (text : Haystack) (start : Nat) : Option Match :=
  searchFrom p text (text.size + 1 - start) start {}

/- The next match. An empty one right behind the match before it does not count. -/
def nextMatch? (p : Program) (text : Haystack) (start : Nat) (last : Option Nat) : Option Match :=
  match p.find? text start with
  | none => none
  | some m =>
    if m.start = m.stop && last = some m.stop then p.find? text (start + 1) else some m

def matchesFrom (p : Program) (text : Haystack) : Nat → Nat → Option Nat → List Match
  | 0, _, _ => []
  | n + 1, start, last =>
    match nextMatch? p text start last with
    | none => []
    | some m => m :: matchesFrom p text n m.stop (some m.stop)

def Program.findAll (p : Program) (text : Haystack) : List Match :=
  matchesFrom p text (text.size + 2) 0 none

def Match.mark? (m : Match) (slot : Nat) : Option Nat :=
  (m.marks.find? (·.1 == slot)).map (·.2)

def Match.group? (m : Match) (index : Nat) : Option (Nat × Nat) :=
  if index = 0 then some (m.start, m.stop)
  else do some (← m.mark? (2 * index), ← m.mark? (2 * index + 1))

end Codemod.Pattern
