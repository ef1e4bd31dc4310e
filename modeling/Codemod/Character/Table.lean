import Codemod.CharSet

/-!
How tables of characters are written down. A table is text: words of hexadecimal code points, each
a single code point `41`, a range `41-5A`, or a range in steps `100-12E/2`.
-/
namespace Codemod.Character

structure Row where
  names : String
  members : String

def hexDigit (c : Char) : Nat :=
  if '0' ≤ c && c ≤ '9' then c.toNat - '0'.toNat
  else if 'A' ≤ c && c ≤ 'F' then c.toNat - 'A'.toNat + 10
  else c.toNat - 'a'.toNat + 10

def hexNumber (digits : List Char) : Nat := digits.foldl (fun n c => 16 * n + hexDigit c) 0

def placeOf (code : Nat) : Nat := if code < 0xD800 then code else code - 0x800

def cut (mark : Char) (cs : List Char) : List Char × List Char :=
  (cs.takeWhile (· != mark), (cs.dropWhile (· != mark)).drop 1)

/-- The code points that a word lists: first, last and step, where step zero means all between. -/
structure Word where
  first : Nat
  last : Nat
  step : Nat

def Word.read (text : List Char) : Word :=
  let (ends, step) := cut '/' text
  let (first, last) := cut '-' ends
  let lo := hexNumber first
  ⟨lo, if last.isEmpty then lo else hexNumber last, hexNumber step⟩

def Word.codes (w : Word) : List Nat :=
  let step := max w.step 1
  (List.range ((w.last - w.first) / step + 1)).map fun k => w.first + k * step

def Word.spans (w : Word) : List Span :=
  if w.step ≤ 1 then [⟨placeOf w.first, placeOf w.last⟩]
  else w.codes.map fun n => ⟨placeOf n, placeOf n⟩

def wordsFrom (word : List Char) : List Char → List (List Char)
  | [] => if word.isEmpty then [] else [word.reverse]
  | c :: rest =>
    if c = ' ' || c = '\n' then
      if word.isEmpty then wordsFrom [] rest else word.reverse :: wordsFrom [] rest
    else wordsFrom (c :: word) rest

def wordsOf (text : String) : List (List Char) := wordsFrom [] text.toList

def setOf (text : String) : CharSet :=
  CharSet.ofSpans ((wordsOf text).flatMap fun w => (Word.read w).spans)

def Row.isNamed (row : Row) (name : String) : Bool := (wordsOf row.names).contains name.toList

def find? (rows : List Row) (name : String) : Option CharSet :=
  (rows.find? (·.isNamed name)).map fun row => setOf row.members

end Codemod.Character
