/-!
What the engine behind patterns and locations decides by itself. It builds an automaton for each and
refuses one that is too large; how it counts states is no matter of patterns or globs, so nothing is
known of it here but the answer.
-/
namespace Codemod

class Engine where
  fits : List Char → Bool
  fitsLocation : String → Bool

end Codemod
