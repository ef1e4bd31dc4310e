/-!
Paths as they are spelled. Two spellings mean the same when they have the same components: repeated
slashes and single dots vanish, except for a dot at the very beginning.
-/
namespace Codemod

structure Path where
  text : String
  deriving DecidableEq, Repr

namespace Path

inductive Component where
  | root
  | here
  | parent
  | name (cs : List Char)
  deriving DecidableEq, Repr

def segments : List Char → List (List Char)
  | [] => [[]]
  | c :: rest =>
    if c = '/' then [] :: segments rest
    else match segments rest with
      | [] => [[c]]
      | s :: more => (c :: s) :: more

def unsegments : List (List Char) → List Char
  | [] => []
  | [s] => s
  | s :: rest => s ++ '/' :: unsegments rest

theorem segmentsNonempty (cs : List Char) : segments cs ≠ [] := by
  cases cs with
  | nil => simp [segments]
  | cons c rest =>
    simp only [segments]
    split
    · simp
    · split <;> simp

theorem unsegmentsSegments (cs : List Char) : unsegments (segments cs) = cs := by
  induction cs with
  | nil => rfl
  | cons c rest ih =>
    simp only [segments]
    split
    · next slash =>
      cases h : segments rest with
      | nil => exact absurd h (segmentsNonempty rest)
      | cons s more => rw [h] at ih; simp [unsegments, ih, slash]
    · cases h : segments rest with
      | nil => exact absurd h (segmentsNonempty rest)
      | cons s more =>
        rw [h] at ih
        cases more with
        | nil => simpa [unsegments] using ih
        | cons t more => simpa [unsegments] using ih

def isVoid (s : List Char) : Bool := s = [] || s = ['.']

def component? (s : List Char) : Option Component :=
  if isVoid s then none else if s = ['.', '.'] then some .parent else some (.name s)

def front (cs : List Char) : Option Component × List Char :=
  match cs with
  | '/' :: rest => (some .root, rest)
  | ['.'] => (some .here, [])
  | '.' :: '/' :: rest => (some .here, '/' :: rest)
  | _ => (none, cs)

def frontText : Option Component → List Char
  | some .root => ['/']
  | some .here => ['.']
  | _ => []

def componentsOf (cs : List Char) : List Component :=
  (front cs).1.toList ++ (segments (front cs).2).filterMap component?

def components (p : Path) : List Component := componentsOf p.text.toList

def trimEnd (ss : List (List Char)) : List (List Char) := (ss.reverse.dropWhile isVoid).reverse

def dropComponents : Nat → List (List Char) → List (List Char)
  | 0, ss => ss
  | _ + 1, [] => []
  | n + 1, s :: rest => if isVoid s then dropComponents (n + 1) rest else dropComponents n rest

def stripPrefixOf? (root path : List Char) : Option (List Char) :=
  let n := (componentsOf root).length
  if (componentsOf root).isPrefixOf (componentsOf path) then
    let (head, body) := front path
    if n = 0 then some (frontText head ++ unsegments (trimEnd (segments body)))
    else
      let rest := dropComponents (n - head.toList.length) (segments body)
      some (unsegments (trimEnd (rest.dropWhile isVoid)))
  else none

/-- What is left of a path below a root, spelled as in the path but without anything void at its
ends. -/
def stripPrefix? (root path : Path) : Option Path :=
  (stripPrefixOf? root.text.toList path.text.toList).map fun cs => ⟨String.ofList cs⟩

def isAbsolute (p : Path) : Bool := p.text.toList.head? = some '/'

def joinOf (base path : List Char) : List Char :=
  if path.head? = some '/' || base.isEmpty then path
  else if base.getLast? = some '/' then base ++ path
  else base ++ '/' :: path

def join (base path : Path) : Path :=
  ⟨String.ofList (joinOf base.text.toList path.text.toList)⟩

def parentOf? (cs : List Char) : Option (List Char) :=
  let (head, body) := front cs
  match trimEnd (segments body) with
  | [] => if head = some .here then some [] else none
  | ss => some (frontText head ++ unsegments (trimEnd ss.dropLast))

def parent? (p : Path) : Option Path :=
  (parentOf? p.text.toList).map fun cs => ⟨String.ofList cs⟩

def fileName? (p : Path) : Option (List Char) :=
  match p.components.getLast? with
  | some (.name cs) => some cs
  | _ => none

def extensionOf? (name : List Char) : Option (List Char) :=
  let after := (name.reverse.takeWhile (· != '.')).reverse
  if name.length ≤ after.length + 1 then none else some after

def extension? (p : Path) : Option String :=
  (p.fileName?.bind extensionOf?).map String.ofList

def Component.rank : Component → Nat
  | .root => 0
  | .here => 1
  | .parent => 2
  | .name _ => 3

/- Texts are ordered by their encoded bytes, which is the order of their characters. -/
def compareText : List Char → List Char → Ordering
  | [], [] => .eq
  | [], _ :: _ => .lt
  | _ :: _, [] => .gt
  | a :: as, b :: bs => (compare a.toNat b.toNat).then (compareText as bs)

def Component.compare : Component → Component → Ordering
  | .name a, .name b => compareText a b
  | a, b => Ord.compare a.rank b.rank

def compareComponents : List Component → List Component → Ordering
  | [], [] => .eq
  | [], _ :: _ => .lt
  | _ :: _, [] => .gt
  | a :: as, b :: bs => (a.compare b).then (compareComponents as bs)

def compare (p q : Path) : Ordering := compareComponents p.components q.components

end Path

end Codemod
