import Codemod.Proofs.Descent

/-!
Roots in every spelling. The components of a root are taken off the path of an entry below it, and
the rest is cut out of the text of that path, wherever slashes and dots without meaning stand. What is
left are the names on the way down; nothing is left of the root itself.
-/
namespace Codemod

namespace Path

theorem ofCharacters {p q : Path} (same : p.text.toList = q.text.toList) : p = q :=
  congrArg Path.mk (String.toList_injective same)

theorem joinNothing (p : Path) : join ⟨""⟩ p = p := by
  simp [join, joinOf, String.ofList_toList]

theorem namesHead {ns : List (List Char)} (proper : ∀ n ∈ ns, IsName n) :
    (unsegments ns).head? ≠ some '/' := by
  intro slash
  obtain ⟨rest, text⟩ := List.head?_eq_some_iff.mp slash
  have down : ns ≠ [] := by
    rintro rfl
    simp [unsegments] at text
  have parts : segments (unsegments ns) = ns :=
    segmentsUnsegments down (fun n hn => (proper n hn).noSlash)
  rw [text] at parts
  have first : ([] : List Char) ∈ ns := by rw [← parts]; simp [segments]
  exact (proper [] first).nonempty rfl

theorem joinNames (root : Path) {names : List String} (down : names ≠ [])
    (proper : ∀ n ∈ names, IsName n.toList) :
    root.join ⟨"/".intercalate names⟩ = root.descend names := by
  rw [← RelPath.joinedNames]
  by_cases given : root.text.toList = []
  · obtain rfl : root = ⟨""⟩ := ofCharacters given
    obtain ⟨n, rest, rfl⟩ := List.exists_cons_of_ne_nil down
    have name := proper n (by simp)
    rw [joinNothing, descendCons, joinNothing]
    by_cases last : rest = []
    · simp [last, unsegments, String.ofList_toList]
    · have text : ((⟨n⟩ : Path).descend rest).text.toList = _ :=
        descendText name.nonempty last fun x hx => proper x (List.mem_cons_of_mem _ hx)
      have closed : base n.toList = n.toList := by
        have noSlash : n.toList.getLast? ≠ some '/' := fun same =>
          name.noSlash (List.mem_of_getLast? same)
        rw [base, if_neg noSlash]
      refine ofCharacters ?_
      rw [text, closed, String.toList_ofList, List.map_cons, unsegmentsCons _ (by simpa using last)]
  · refine ofCharacters ?_
    rw [descendText given down proper, join, String.toList_ofList, String.toList_ofList]
    exact joinRelative given (namesHead (by simpa using proper))

theorem frontNames {ns : List (List Char)} (down : ns ≠ []) (proper : ∀ n ∈ ns, IsName n) :
    front (unsegments ns) = (none, unsegments ns) := by
  have parts : segments (unsegments ns) = ns :=
    segmentsUnsegments down (fun n hn => (proper n hn).noSlash)
  have noDot : ['.'] ∉ ns := fun dot => (proper _ dot).notHere rfl
  unfold front
  split
  · next rest text => exact absurd (by simp [text]) (namesHead proper)
  · next text =>
    rw [text] at parts
    exact absurd (by rw [← parts]; simp [segments]) noDot
  · next rest text =>
    rw [text] at parts
    exact absurd (by rw [← parts]; simp [segments]) noDot
  · rfl

theorem stripNothing {ns : List (List Char)} (down : ns ≠ []) (proper : ∀ n ∈ ns, IsName n) :
    stripPrefixOf? [] (unsegments ns) = some (unsegments ns) := by
  have parts : segments (unsegments ns) = ns :=
    segmentsUnsegments down (fun n hn => (proper n hn).noSlash)
  have none' : componentsOf [] = [] := rfl
  simp [stripPrefixOf?, none', frontNames down proper, frontText, parts, trimEndNames proper]

theorem stripSelf (cs : List Char) : stripPrefixOf? cs cs = some [] := by
  by_cases given : cs = []
  · subst given
    rfl
  · have inside : (componentsOf cs).isPrefixOf (componentsOf cs) := by simp
    have nothing : ∀ n ∈ ([] : List (List Char)), IsName n := by simp
    have parts : segments (front cs).2 = segments (front cs).2 ++ [] := (List.append_nil _).symm
    have start : front cs = ((front cs).1, (front cs).2) := rfl
    refine stripParts given nothing inside start parts ?_
    rw [componentsOf, List.length_append, solidLength]

end Path

namespace RelPath

theorem relativeToSpelled (root : Path) {names : List String} (down : names ≠ [])
    (proper : ∀ n ∈ names, Path.IsName n.toList) :
    relativeTo root (root.descend names) = ofText ("/".intercalate names) := by
  by_cases given : root.text.toList = []
  · obtain rfl : root = ⟨""⟩ := Path.ofCharacters given
    have whole := Path.stripNothing (by simpa using down : names.map String.toList ≠ [])
      (by simpa using proper)
    have strip : Path.stripPrefix? ⟨""⟩ ⟨"/".intercalate names⟩ = some ⟨"/".intercalate names⟩ := by
      rw [← joinedNames, Path.stripPrefix?]
      simp [whole]
    rw [← Path.joinNames _ down proper, Path.joinNothing, relativeTo, strip, Option.getD_some]
  · exact relativeToNames given down proper

theorem relativeToSelf (root : Path) : relativeTo root root = ⟨"."⟩ := by
  simp only [relativeTo, Path.stripPrefix?, Path.stripSelf]
  rfl

/-- However a root is spelled, the place of what lies below it is the names on the way down, be they
joined to the root one by one or all at once; the root itself has a single dot for its place. -/
theorem rootSpelled (root : Path) :
    (∀ names : List String, names ≠ [] →
      (∀ n ∈ names, Path.IsName n.toList ∧ '\\' ∉ n.toList) →
        root.join ⟨"/".intercalate names⟩ = root.descend names ∧
          relativeTo root (root.descend names) = ⟨"/".intercalate names⟩) ∧
      relativeTo root root = ⟨"."⟩ := by
  refine ⟨fun names down plain => ?_, relativeToSelf root⟩
  have proper : ∀ n ∈ names, Path.IsName n.toList := fun n hn => (plain n hn).1
  refine ⟨Path.joinNames root down proper, ?_⟩
  rw [relativeToSpelled root down proper, ofNames down proper fun n hn => (plain n hn).2]

theorem rootSpelledWinding :
    (∀ n ∈ ["..a", "b c.rs"], Path.IsName n.toList ∧ '\\' ∉ n.toList) ∧
      Path.join ⟨"./x\\y//../."⟩ ⟨"..a/b c.rs"⟩ = ⟨"./x\\y//.././..a/b c.rs"⟩ ∧
      relativeTo ⟨"./x\\y//../."⟩ ⟨"./x\\y//.././..a/b c.rs"⟩ = ⟨"..a/b c.rs"⟩ ∧
      relativeTo ⟨""⟩ ⟨"..a/b c.rs"⟩ = ⟨"..a/b c.rs"⟩ := by
  have plain : ∀ n ∈ ["..a", "b c.rs"], Path.IsName n.toList ∧ '\\' ∉ n.toList := by
    decide
  obtain ⟨once, below⟩ := (rootSpelled ⟨"./x\\y//../."⟩).1 _ (by simp) plain
  have bare := ((rootSpelled ⟨""⟩).1 _ (by simp) plain).2
  exact ⟨plain, once, below, bare⟩

end RelPath

end Codemod
