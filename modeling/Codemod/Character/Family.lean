import Codemod.Character.Casing

/-! Families of characters that differ only in case, and sets closed under them. -/
namespace Codemod.Character

def pairsOf (text : List Char) : List (List Nat) :=
  let (listed, distance) := cut '+' text
  (Word.read listed).codes.map fun n => [n, n + hexNumber distance]

def caseOrbits : List (List Nat) :=
  ((wordsOf casePairs).flatMap pairsOf ++
    caseFamilies.map fun family => (wordsOf family).map hexNumber).map fun codes =>
      codes.map placeOf

def closeCase (s : CharSet) : CharSet :=
  CharSet.ofSpans (s.spans ++ (caseOrbits.filter fun orbit =>
    orbit.any fun n => s.spans.any (·.holds n)).flatten.map fun n => ⟨n, n⟩)

def closeAsciiCase (s : CharSet) : CharSet :=
  let upper : CharSet := ⟨[⟨65, 90⟩]⟩
  let lower : CharSet := ⟨[⟨97, 122⟩]⟩
  CharSet.ofSpans (s.spans
    ++ (s.inter upper).spans.map (fun r => ⟨r.lo + 32, r.hi + 32⟩)
    ++ (s.inter lower).spans.map (fun r => ⟨r.lo - 32, r.hi - 32⟩))

end Codemod.Character
