import Codemod.Ordered

/-!
Sets of characters, kept as ranges of places. The places number the characters without the gap
that surrogates leave among the code points, so that neighbouring ranges can always be joined.
-/
namespace Codemod

def place (c : Char) : Nat :=
  if c.toNat < 0xD800 then c.toNat else c.toNat - 0x800

def lastPlace : Nat := 0x10F7FF

structure Span where
  lo : Nat
  hi : Nat
  deriving DecidableEq, Repr

def Span.holds (s : Span) (n : Nat) : Bool := s.lo ≤ n && n ≤ s.hi

def Span.meet (s t : Span) : Option Span :=
  if max s.lo t.lo ≤ min s.hi t.hi then some ⟨max s.lo t.lo, min s.hi t.hi⟩ else none

/-- A set of characters. The ranges stand in ascending order and leave a gap between any two. -/
structure CharSet where
  spans : List Span
  deriving DecidableEq, Repr

namespace CharSet

def joinFrom (s : Span) : List Span → List Span
  | [] => [s]
  | t :: rest =>
    if t.lo ≤ s.hi + 1 then joinFrom ⟨s.lo, max s.hi t.hi⟩ rest else s :: joinFrom t rest

def join : List Span → List Span
  | [] => []
  | s :: rest => joinFrom s rest

def ofSpans (spans : List Span) : CharSet :=
  ⟨join (Ordered.sort (fun s t => s.lo ≤ t.lo) (spans.filter fun s => s.lo ≤ s.hi))⟩

def empty : CharSet := ⟨[]⟩

def all : CharSet := ⟨[⟨0, lastPlace⟩]⟩

def single (c : Char) : CharSet := ⟨[⟨place c, place c⟩]⟩

def range (a b : Char) : CharSet := ofSpans [⟨place a, place b⟩]

def isEmpty (s : CharSet) : Bool := s.spans.isEmpty

def contains (s : CharSet) (c : Char) : Bool := s.spans.any fun r => r.holds (place c)

def union (s t : CharSet) : CharSet := ofSpans (s.spans ++ t.spans)

def unions (sets : List CharSet) : CharSet := ofSpans (sets.flatMap spans)

def inter (s t : CharSet) : CharSet :=
  ofSpans (s.spans.flatMap fun r => t.spans.filterMap r.meet)

def gapsFrom (n : Nat) : List Span → List Span
  | [] => if n ≤ lastPlace then [⟨n, lastPlace⟩] else []
  | s :: rest =>
    if n < s.lo then ⟨n, s.lo - 1⟩ :: gapsFrom (s.hi + 1) rest else gapsFrom (s.hi + 1) rest

def compl (s : CharSet) : CharSet := ⟨gapsFrom 0 s.spans⟩

def diff (s t : CharSet) : CharSet := s.inter t.compl

def symmDiff (s t : CharSet) : CharSet := (s.union t).diff (s.inter t)

def only? (s : CharSet) : Option Char :=
  match s.spans with
  | [r] =>
    if r.lo = r.hi then some (Char.ofNat (if r.lo < 0xD800 then r.lo else r.lo + 0x800)) else none
  | _ => none

def isAscii (s : CharSet) : Bool := s.spans.all fun r => r.hi < 128

end CharSet

end Codemod
