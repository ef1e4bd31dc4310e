import Codemod.Pattern.Error

/-!
Patterns as they are written, before flags and classes are resolved. The nesting of a tree is what
the limit on patterns counts: groups, repetitions, brackets, and every sequence or choice of two or
more parts.
-/
namespace Codemod.Pattern

structure Literal where
  char : Char
  isByte : Bool := false
  deriving DecidableEq, Repr

inductive Shorthand where
  | digit
  | space
  | word
  deriving DecidableEq, Repr

inductive Ascii where
  | alnum | alpha | ascii | blank | cntrl | digit | graph | lower | print | punct | space | upper
  | word | xdigit
  deriving DecidableEq, Repr

inductive Property where
  | named (name : String)
  | valued (property value : String)
  deriving DecidableEq, Repr

inductive SetOp where
  | inter
  | diff
  | symmDiff
  deriving DecidableEq, Repr

inductive Bracket where
  | literal (l : Literal)
  | range (lo hi : Literal)
  | ascii (name : Ascii) (negated : Bool)
  | property (p : Property) (negated : Bool)
  | shorthand (s : Shorthand) (negated : Bool)
  | nested (negated : Bool) (body : Bracket)
  | union (items : List Bracket)
  | op (kind : SetOp) (left right : Bracket)

def Bracket.ofItems : List Bracket → Bracket
  | [item] => item
  | items => .union items

inductive Flag where
  | caseInsensitive
  | multiLine
  | dotAll
  | swapGreed
  | unicode
  | crlf
  | verbose
  deriving DecidableEq, Repr

inductive FlagItem where
  | negation
  | flag (f : Flag)
  deriving DecidableEq, Repr

def flagState (f : Flag) : Bool → List FlagItem → Option Bool
  | _, [] => none
  | _, .negation :: rest => flagState f false rest
  | on, .flag g :: rest => if g = f then some on else flagState f on rest

inductive Assertion where
  | lineStart
  | lineEnd
  | textStart
  | textEnd
  | boundary
  | notBoundary
  | wordStart
  | wordEnd
  | wordStartHalf
  | wordEndHalf
  deriving DecidableEq, Repr

inductive GroupKind where
  | capture (index : Nat) (name : Option String)
  | flags (items : List FlagItem)
  deriving DecidableEq, Repr

inductive Tree where
  | empty
  | flags (items : List FlagItem)
  | literal (l : Literal)
  | dot
  | assertion (a : Assertion)
  | property (p : Property) (negated : Bool)
  | shorthand (s : Shorthand) (negated : Bool)
  | bracket (negated : Bool) (body : Bracket)
  | repeated (t : Tree) (lo : Nat) (hi : Option Nat) (greedy : Bool)
  | group (kind : GroupKind) (t : Tree)
  | choice (ts : List Tree)
  | sequence (ts : List Tree)

def Tree.ofParts : List Tree → Tree
  | [] => .empty
  | [t] => t
  | ts => .sequence ts

def Tree.ofChoices : List Tree → Tree
  | [] => .empty
  | [t] => t
  | ts => .choice ts

mutual

def Bracket.depth : Bracket → Nat
  | .nested _ body => body.depth + 1
  | .union [] => 0
  | .union items => Bracket.depths items + 1
  | .op _ left right => max left.depth right.depth + 1
  | _ => 0

def Bracket.depths : List Bracket → Nat
  | [] => 0
  | b :: rest => max b.depth (Bracket.depths rest)

end

mutual

def Tree.depth : Tree → Nat
  | .bracket _ body => body.depth + 1
  | .repeated t _ _ _ => t.depth + 1
  | .group _ t => t.depth + 1
  | .choice ts => Tree.depths ts + 1
  | .sequence ts => Tree.depths ts + 1
  | _ => 0

def Tree.depths : List Tree → Nat
  | [] => 0
  | t :: rest => max t.depth (Tree.depths rest)

end

end Codemod.Pattern
