import Codemod.Proofs.Canonical
import Codemod.Proofs.Walk

/-!
Which files a filter selects. The extension of a file is what follows the last dot of its name,
unless the name begins with that dot. A file is on the skip list if its location is the canonical one
of a listed path, however that path is spelled.
-/
namespace Codemod

namespace Node

mutual

def names : Node → List String
  | .file _ _ => []
  | .link _ => []
  | .dir es => namesIn es
  | .closed es => namesIn es

def namesIn : Directory → List String
  | [] => []
  | (name, n) :: rest => name :: n.names ++ namesIn rest

end

theorem namesMem {es : Directory} {name : String} {c : Node} (mem : (name, c) ∈ es) :
    name ∈ namesIn es ∧ ∀ x ∈ c.names, x ∈ namesIn es := by
  induction es with
  | nil => simp at mem
  | cons e rest ih =>
    obtain ⟨other, n⟩ := e
    simp only [namesIn, List.cons_append, List.mem_cons, List.mem_append]
    rcases List.mem_cons.mp mem with same | later
    · cases same
      exact ⟨.inl rfl, fun x hx => .inr (.inl hx)⟩
    · obtain ⟨here, inside⟩ := ih later
      exact ⟨.inr (.inr here), fun x hx => .inr (.inr (inside x hx))⟩

theorem namesGet {n m : Node} {l : Location} (found : n.get? l = some m) :
    ∀ name ∈ l, name ∈ n.names := by
  induction l generalizing n with
  | nil => simp
  | cons name rest ih =>
    obtain ⟨c, child, below⟩ := Option.bind_eq_some_iff.mp found
    obtain ⟨es, rfl, entry⟩ := childDir child
    obtain ⟨here, inside⟩ := namesMem (lookupMem entry)
    intro x hx
    rcases List.mem_cons.mp hx with rfl | later
    · exact here
    · exact inside x (ih below x later)

end Node

def HasExtension (name extension : String) : Prop :=
  '.' ∉ extension.toList ∧ ∃ stem, stem ≠ [] ∧ name.toList = stem ++ '.' :: extension.toList

namespace Path

theorem extensionSplit {name x : List Char} (found : extensionOf? name = some x) :
    '.' ∉ x ∧ ∃ stem, stem ≠ [] ∧ name = stem ++ '.' :: x := by
  have whole := List.takeWhile_append_dropWhile (p := (· != '.')) (l := name.reverse)
  have plain : ∀ c ∈ name.reverse.takeWhile (· != '.'), (c != '.') = true :=
    List.all_eq_true.mp List.all_takeWhile
  simp only [extensionOf?] at found
  split at found
  · contradiction
  next long =>
  cases found
  refine ⟨fun dot => by simpa using plain '.' (List.mem_reverse.mp dot), ?_⟩
  cases left : name.reverse.dropWhile (· != '.') with
  | nil =>
    rw [left, List.append_nil] at whole
    simp [whole] at long
  | cons c stem =>
    obtain rfl : c = '.' := by simpa [left] using List.head?_dropWhile_not (· != '.') name.reverse
    rw [left] at whole
    have split := congrArg List.reverse whole
    simp only [List.reverse_append, List.reverse_cons, List.reverse_reverse, List.append_assoc,
      List.singleton_append] at split
    refine ⟨stem.reverse, ?_, split.symm⟩
    rintro nothing
    rw [nothing] at split
    have size := congrArg List.length split
    simp only [List.length_append, List.length_cons, List.length_nil, List.length_reverse] at size long
    omega

theorem extensionJoined {stem x : List Char} (some' : stem ≠ []) (plain : '.' ∉ x) :
    extensionOf? (stem ++ '.' :: x) = some x := by
  have after : ((stem ++ '.' :: x).reverse.takeWhile (· != '.')).reverse = x := by
    rw [List.reverse_append, List.reverse_cons, List.append_assoc, List.singleton_append,
      List.takeWhile_append_of_pos]
    · simp
    · intro c mem
      have different : c ≠ '.' := by
        rintro rfl
        exact plain (List.mem_reverse.mp mem)
      simpa using different
  have size := List.length_pos_iff.mpr some'
  simp only [extensionOf?, after]
  rw [if_neg]
  simp only [List.length_append, List.length_cons]
  omega

theorem extensionSome {name x : List Char} :
    extensionOf? name = some x ↔ '.' ∉ x ∧ ∃ stem, stem ≠ [] ∧ name = stem ++ '.' :: x := by
  refine ⟨extensionSplit, ?_⟩
  rintro ⟨plain, stem, some', rfl⟩
  exact extensionJoined some' plain

theorem descendExtension {root : Path} {above : List String} {name : String}
    (given : root.text.toList ≠ []) (proper : ∀ n ∈ above ++ [name], IsName n.toList) :
    (root.descend (above ++ [name])).extension? = (extensionOf? name.toList).map String.ofList := by
  simp [extension?, fileName?, descendComponents given proper]

end Path

theorem Filter.includesDescend {f : Filter} {root : Path} {above : List String} {name : String}
    (given : root.text.toList ≠ []) (proper : ∀ n ∈ above ++ [name], Path.IsName n.toList) :
    f.includesFile (root.descend (above ++ [name])) = true ↔
      f.extensions = [] ∨ ∃ x ∈ f.extensions, HasExtension name x := by
  simp only [includesFile, Path.descendExtension given proper, Bool.or_eq_true, List.isEmpty_iff]
  refine or_congr .rfl ?_
  cases found : Path.extensionOf? name.toList with
  | none =>
    constructor
    · simp
    · rintro ⟨x, -, has⟩
      rw [Path.extensionSome.mpr has] at found
      cases found
  | some cs =>
    constructor
    · intro listed
      refine ⟨String.ofList cs, by simpa using listed, ?_⟩
      rw [HasExtension, String.toList_ofList]
      exact Path.extensionSome.mp found
    · rintro ⟨x, listed, has⟩
      cases found.symm.trans (Path.extensionSome.mpr has)
      simpa using listed

theorem Filter.includesNames {f : Filter} {root : Path} {ns : List String}
    (given : root.text.toList ≠ []) (down : ns ≠ []) (proper : ∀ n ∈ ns, Path.IsName n.toList) :
    f.includesFile (root.descend ns) = true ↔
      f.extensions = [] ∨ ∃ name, ns.getLast? = some name ∧ ∃ x ∈ f.extensions, HasExtension name x := by
  have split := List.dropLast_concat_getLast down
  have includes := includesDescend given (split ▸ proper) (f := f)
  rw [split] at includes
  rw [includes, List.getLast?_eq_some_getLast down]
  simp

theorem RelPath.joinedInjective {ns ms : List String} (down : ns ≠ []) (below : ms ≠ [])
    (proper : ∀ n ∈ ns, '/' ∉ n.toList) (others : ∀ n ∈ ms, '/' ∉ n.toList)
    (same : "/".intercalate ns = "/".intercalate ms) : ns = ms := by
  rw [← joinedNames, ← joinedNames] at same
  have texts := congrArg (Path.segments ∘ String.toList) same
  simp only [Function.comp_apply, String.toList_ofList] at texts
  rw [Path.segmentsUnsegments (by simpa using down) (by simpa using proper),
    Path.segmentsUnsegments (by simpa using below) (by simpa using others)] at texts
  exact (List.map_inj_right fun _ _ => String.toList_injective).mp texts

theorem RelPath.placeInjective {ns ms : List String} (down : ns ≠ [])
    (proper : ∀ n ∈ ns, Path.IsName n.toList) (others : ∀ n ∈ ms, Path.IsName n.toList)
    (straight : ∀ n ∈ ns, '\\' ∉ n.toList) (plain : ∀ n ∈ ms, '\\' ∉ n.toList)
    (same : ofText ("/".intercalate ns) = ofText ("/".intercalate ms)) : ns = ms := by
  rw [ofNames down proper straight] at same
  by_cases below : ms = []
  · -- the root itself has a place that no name can have
    subst below
    have text : "/".intercalate ns = "/".intercalate ["."] := congrArg RelPath.text same
    have dot := joinedInjective down (by simp) (fun n hn => (proper n hn).noSlash) (by simp) text
    exact absurd rfl (proper "." (by simp [dot])).notHere
  · rw [ofNames below others plain] at same
    exact joinedInjective down below (fun n hn => (proper n hn).noSlash)
      (fun n hn => (others n hn).noSlash) (congrArg RelPath.text same)

namespace Walk

variable {t : Tree} {root : Path} {top : Location}

/-- No name below the root has a backslash, which would be taken for a slash. -/
def Straight (t : Tree) (top : Location) : Prop :=
  ∀ ns node, t.get? (top ++ ns) = some node → ∀ n ∈ ns, '\\' ∉ n.toList

theorem straightBelow {node : Node} (here : t.get? top = some node)
    (straight : ∀ name ∈ node.names, '\\' ∉ name.toList) : Straight t top := by
  intro ns below there n hn
  rw [Tree.get?, Node.getAppend, show t.root.get? top = some node from here] at there
  exact straight n (Node.namesGet there n hn)

theorem entryOf {ns : List String} {node : Node} (sound : t.Sound) (straight : Straight t top)
    (found : t.find root = .ok top) (down : ns ≠ []) (there : t.get? (top ++ ns) = some node) :
    FileEntry.of root (root.descend ns) = ⟨root.descend ns, ⟨"/".intercalate ns⟩⟩ := by
  rw [FileEntry.of, RelPath.relativeToDescend (Tree.findLeads found).given down
    (belowProper sound there) (straight ns node there)]

theorem belowSome {l : Location} {place : RelPath} :
    below? top l = some place ↔ ∃ ms, l = top ++ ms ∧ place = RelPath.ofText ("/".intercalate ms) := by
  unfold below?
  constructor
  · intro found
    split at found
    · next inside =>
      cases found
      obtain ⟨ms, rfl⟩ := List.isPrefixOf_iff_prefix.mp inside
      exact ⟨ms, rfl, by simp⟩
    · contradiction
  · rintro ⟨ms, rfl, rfl⟩
    simp

theorem skipListPlace {f : Filter} {place : RelPath} :
    place ∈ skipList t root f ↔ ∃ top, t.canonical? root = some top ∧
      ∃ p ∈ f.skipped, ∃ ms, t.canonical? p = some (top ++ ms) ∧
        place = RelPath.ofText ("/".intercalate ms) := by
  unfold skipList
  cases t.canonical? root with
  | none => simp
  | some top =>
    simp only [List.mem_filterMap, Option.bind_eq_some_iff, belowSome, Option.some.injEq,
      exists_eq_left']
    refine exists_congr fun p => and_congr_right fun _ => ⟨?_, ?_⟩
    · rintro ⟨_, leads, ms, rfl, same⟩
      exact ⟨ms, leads, same⟩
    · rintro ⟨ms, leads, same⟩
      exact ⟨_, leads, ms, rfl, same⟩

theorem skipListed {f : Filter} {ns : List String} {node : Node} (sound : t.Sound)
    (straight : Straight t top) (found : t.find root = .ok top) (down : ns ≠ [])
    (there : t.get? (top ++ ns) = some node) :
    (⟨"/".intercalate ns⟩ : RelPath) ∈ skipList t root f ↔
      t.canonical? root = some top ∧ ∃ p ∈ f.skipped, t.canonical? p = some (top ++ ns) := by
  have proper := belowProper sound there
  have own := RelPath.ofNames down proper (straight ns node there)
  rw [skipListPlace]
  constructor
  · rintro ⟨l, canonical, p, hp, ms, leads, same⟩
    obtain rfl := Tree.canonicalFind canonical found
    obtain ⟨other, stands⟩ := Tree.canonicalStands leads
    obtain rfl := RelPath.placeInjective down proper (belowProper sound stands)
      (straight ns node there) (straight ms other stands) (own.trans same)
    exact ⟨canonical, p, hp, leads⟩
  · rintro ⟨canonical, p, hp, leads⟩
    exact ⟨top, canonical, p, hp, ns, leads, own.symm⟩

end Walk

end Codemod
