import Codemod.RelPath

/-!
Paths that lead down from a root by names. However the root is spelled, such a path has the
components of the root and then the names, and its place below the root is the names with slashes
between them.
-/
namespace Codemod

namespace Path

structure IsName (cs : List Char) : Prop where
  nonempty : cs ≠ []
  notHere : cs ≠ ['.']
  notParent : cs ≠ ['.', '.']
  noSlash : '/' ∉ cs

instance (cs : List Char) : Decidable (IsName cs) :=
  decidable_of_iff (cs ≠ [] ∧ cs ≠ ['.'] ∧ cs ≠ ['.', '.'] ∧ '/' ∉ cs)
    ⟨fun h => ⟨h.1, h.2.1, h.2.2.1, h.2.2.2⟩, fun h => ⟨h.nonempty, h.notHere, h.notParent, h.noSlash⟩⟩

theorem IsName.notVoid {cs : List Char} (name : IsName cs) : isVoid cs = false := by
  simp [isVoid, name.nonempty, name.notHere]

theorem IsName.component {cs : List Char} (name : IsName cs) : component? cs = some (.name cs) := by
  simp [component?, name.notVoid, name.notParent]

theorem segmentsAppend (a b : List Char) : segments (a ++ '/' :: b) = segments a ++ segments b := by
  induction a with
  | nil => simp [segments]
  | cons c rest ih =>
    by_cases slash : c = '/'
    · simp [segments, slash, ih]
    · obtain ⟨s, more, h⟩ := List.exists_cons_of_ne_nil (segmentsNonempty rest)
      simp [segments, slash, ih, h]

theorem segmentsPlain {a : List Char} (plain : '/' ∉ a) : segments a = [a] := by
  induction a with
  | nil => rfl
  | cons c rest ih =>
    simp only [List.mem_cons, not_or] at plain
    simp [segments, ih plain.2, Ne.symm plain.1]

theorem segmentsUnsegments {ss : List (List Char)} (nonempty : ss ≠ [])
    (plain : ∀ s ∈ ss, '/' ∉ s) : segments (unsegments ss) = ss := by
  induction ss with
  | nil => exact absurd rfl nonempty
  | cons s rest ih =>
    cases rest with
    | nil => exact segmentsPlain (plain s (by simp))
    | cons u more =>
      have tail := ih (by simp) (fun x hx => plain x (List.mem_cons_of_mem _ hx))
      rw [unsegments, segmentsAppend, segmentsPlain (plain s (by simp)), tail]
      · rfl
      · simp

theorem unsegmentsCons (s : List Char) {rest : List (List Char)} (more : rest ≠ []) :
    unsegments (s :: rest) = s ++ '/' :: unsegments rest := by
  cases rest with
  | nil => exact absurd rfl more
  | cons u rest => rfl

def descend (root : Path) (names : List String) : Path := names.foldl (fun p n => p.join ⟨n⟩) root

@[simp] theorem descendNil (root : Path) : root.descend [] = root := rfl

theorem descendCons (root : Path) (n : String) (names : List String) :
    root.descend (n :: names) = (root.join ⟨n⟩).descend names := rfl

theorem descendSnoc (root : Path) (names : List String) (n : String) :
    root.descend (names ++ [n]) = (root.descend names).join ⟨n⟩ := by
  simp [descend]

def base (cs : List Char) : List Char := if cs.getLast? = some '/' then cs.dropLast else cs

theorem baseSpelled (cs : List Char) : cs = base cs ∨ cs = base cs ++ ['/'] := by
  by_cases last : cs.getLast? = some '/'
  · obtain ⟨b, rfl⟩ := List.getLast?_eq_some_iff.mp last
    exact .inr (by simp [base])
  · exact .inl (by simp [base, last])

theorem joinRelative {cs p : List Char} (given : cs ≠ []) (relative : p.head? ≠ some '/') :
    joinOf cs p = base cs ++ '/' :: p := by
  by_cases last : cs.getLast? = some '/'
  · obtain ⟨b, rfl⟩ := List.getLast?_eq_some_iff.mp last
    simp [joinOf, base, relative]
  · simp [joinOf, base, relative, last, given]

theorem IsName.relative {n : List Char} (name : IsName n) : n.head? ≠ some '/' := fun same =>
  name.noSlash (List.mem_of_mem_head? same)

theorem baseName (b : List Char) {n : List Char} (name : IsName n) :
    base (b ++ '/' :: n) = b ++ '/' :: n := by
  have last : (b ++ '/' :: n).getLast? ≠ some '/' := by
    intro same
    obtain ⟨c, rest, rfl⟩ := List.exists_cons_of_ne_nil name.nonempty
    have inside : (c :: rest).getLast? = some '/' := by simpa using same
    exact name.noSlash (List.mem_of_getLast? inside)
  rw [base, if_neg last]

theorem joinText {root : Path} {n : String} (given : root.text.toList ≠ [])
    (name : IsName n.toList) :
    (root.join ⟨n⟩).text.toList = base root.text.toList ++ '/' :: n.toList := by
  simp only [join, String.toList_ofList]
  exact joinRelative given name.relative

theorem descendText {root : Path} {names : List String} (given : root.text.toList ≠ [])
    (down : names ≠ []) (proper : ∀ n ∈ names, IsName n.toList) :
    (root.descend names).text.toList =
      base root.text.toList ++ '/' :: unsegments (names.map String.toList) := by
  induction names generalizing root with
  | nil => exact absurd rfl down
  | cons n rest ih =>
    have name : IsName n.toList := proper n (by simp)
    cases rest with
    | nil => exact joinText given name
    | cons m more =>
      have below : (root.join ⟨n⟩).text.toList ≠ [] := by simp [joinText given name]
      rw [descendCons, ih below (by simp) (fun x hx => proper x (List.mem_cons_of_mem _ hx)),
        joinText given name, baseName _ name]
      simp [unsegments]

theorem frontSlash {b : List Char} (given : b ≠ []) (rest : List Char) :
    front (b ++ '/' :: rest) = ((front b).1, (front b).2 ++ '/' :: rest) := by
  obtain ⟨c, more, rfl⟩ := List.exists_cons_of_ne_nil given
  by_cases slash : c = '/'
  · simp [front, slash]
  by_cases dot : c = '.'
  · subst dot
    cases more with
    | nil => simp [front]
    | cons d more =>
      by_cases next : d = '/'
      · simp [front, next]
      · simp [front, next]
  · cases more with
    | nil => simp [front, slash, dot]
    | cons d more => simp [front, slash, dot]

theorem componentsSlash {b : List Char} (given : b ≠ []) (rest : List Char) :
    componentsOf (b ++ '/' :: rest) = componentsOf b ++ (segments rest).filterMap component? := by
  simp [componentsOf, frontSlash given, segmentsAppend]

theorem componentsBase {cs : List Char} (given : base cs ≠ []) :
    componentsOf cs = componentsOf (base cs) := by
  rcases baseSpelled cs with same | slash
  · rw [← same]
  · have trailing := componentsSlash given []
    rw [← slash] at trailing
    simpa [segments, component?, isVoid] using trailing

theorem baseEmpty {cs : List Char} (given : cs ≠ []) (nothing : base cs = []) : cs = ['/'] := by
  rcases baseSpelled cs with same | slash
  · exact absurd (same.trans nothing) given
  · rw [nothing] at slash
    exact slash

theorem namesComponents {ns : List (List Char)} (proper : ∀ n ∈ ns, IsName n) :
    ns.filterMap component? = ns.map Component.name := by
  induction ns with
  | nil => rfl
  | cons n rest ih =>
    have tail := ih (fun x hx => proper x (List.mem_cons_of_mem _ hx))
    simp [(proper n (by simp)).component, tail]

theorem componentsBelow {cs : List Char} (given : cs ≠ []) {ns : List (List Char)} (down : ns ≠ [])
    (proper : ∀ n ∈ ns, IsName n) :
    componentsOf (base cs ++ '/' :: unsegments ns) = componentsOf cs ++ ns.map .name := by
  have segs : segments (unsegments ns) = ns := segmentsUnsegments down (fun n hn => (proper n hn).noSlash)
  by_cases nothing : base cs = []
  · rw [nothing, baseEmpty given nothing]
    simp [componentsOf, front, segs, namesComponents proper, segments, component?, isVoid]
  · rw [componentsSlash nothing, segs, namesComponents proper, componentsBase nothing]

theorem descendComponents {root : Path} {names : List String} (given : root.text.toList ≠ [])
    (proper : ∀ n ∈ names, IsName n.toList) :
    (root.descend names).components =
      root.components ++ names.map fun n => .name n.toList := by
  by_cases down : names = []
  · simp [down]
  · have below := componentsBelow given (by simpa using down : names.map String.toList ≠ [])
      (by simpa using proper)
    simpa [components, descendText given down proper, Function.comp_def] using below

theorem descendNames {root : Path} {ns ms : List String} (given : root.text.toList ≠ [])
    (proper : ∀ n ∈ ns, IsName n.toList) (others : ∀ n ∈ ms, IsName n.toList)
    (same : (root.descend ns).components = (root.descend ms).components) : ns = ms := by
  rw [descendComponents given proper, descendComponents given others] at same
  refine (List.map_inj_right ?_).mp (List.append_cancel_left same)
  intro n m text
  exact String.toList_injective (Component.name.inj text)

def solid (ss : List (List Char)) : List (List Char) := ss.filter (!isVoid ·)

theorem componentOfSolid {s : List Char} (solid : isVoid s = false) : ∃ c, component? s = some c := by
  rw [component?, if_neg (by simp [solid])]
  split <;> exact ⟨_, rfl⟩

theorem solidLength (ss : List (List Char)) : (ss.filterMap component?).length = (solid ss).length := by
  induction ss with
  | nil => rfl
  | cons s rest ih =>
    by_cases void : isVoid s
    · simpa [solid, component?, void] using ih
    · obtain ⟨c, hc⟩ := componentOfSolid (by simpa using void)
      simpa [solid, hc, void] using ih

theorem dropComponentsAppend (above below : List (List Char)) :
    ∃ void, (∀ s ∈ void, isVoid s) ∧
      dropComponents (solid above).length (above ++ below) = void ++ below := by
  induction above with
  | nil => exact ⟨[], by simp, by simp [solid, dropComponents]⟩
  | cons s rest ih =>
    obtain ⟨void, allVoid, drop⟩ := ih
    by_cases hs : isVoid s
    · cases count : (solid rest).length with
      | zero =>
        have restVoid : ∀ x ∈ rest, isVoid x := by simpa [solid] using count
        have none : (solid (s :: rest)).length = 0 := by simpa [solid, hs] using count
        refine ⟨s :: rest, ?_, by rw [none, dropComponents]⟩
        intro x hx
        rcases List.mem_cons.mp hx with rfl | inside
        · exact hs
        · exact restVoid x inside
      | succ k =>
        rw [count] at drop
        refine ⟨void, allVoid, ?_⟩
        have same : (solid (s :: rest)).length = k + 1 := by simpa [solid, hs] using count
        simp [same, dropComponents, hs, drop]
    · refine ⟨void, allVoid, ?_⟩
      have same : (solid (s :: rest)).length = (solid rest).length + 1 := by simp [solid, hs]
      simp [same, dropComponents, hs, drop]

theorem segmentsFirst {c : Char} (plain : c ≠ '/') (rest : List Char) :
    ∃ s more, segments (c :: rest) = (c :: s) :: more := by
  obtain ⟨s, more, parts⟩ := List.exists_cons_of_ne_nil (segmentsNonempty rest)
  exact ⟨s, more, by simp [segments, plain, parts]⟩

theorem componentsNonempty {cs : List Char} (given : cs ≠ []) : componentsOf cs ≠ [] := by
  obtain ⟨c, rest, rfl⟩ := List.exists_cons_of_ne_nil given
  by_cases slash : c = '/'
  · simp [componentsOf, front, slash]
  by_cases dot : c = '.'
  · subst dot
    cases rest with
    | nil => simp [componentsOf, front]
    | cons d rest =>
      by_cases next : d = '/'
      · simp [componentsOf, front, next]
      · obtain ⟨s, more, parts⟩ := segmentsFirst next rest
        obtain ⟨k, hk⟩ : ∃ k, component? ('.' :: d :: s) = some k := componentOfSolid (by simp [isVoid])
        have whole : segments ('.' :: d :: rest) = ('.' :: d :: s) :: more := by
          rw [segments, if_neg (by decide), parts]
        simp [componentsOf, front, next, whole, hk]
  · obtain ⟨s, more, parts⟩ := segmentsFirst slash rest
    obtain ⟨k, hk⟩ : ∃ k, component? (c :: s) = some k := componentOfSolid (by simp [isVoid, dot])
    have plain : front (c :: rest) = (none, c :: rest) := by
      cases rest <;> simp [front, slash, dot]
    simp [componentsOf, plain, parts, hk]

theorem trimEndNames {ns : List (List Char)} (proper : ∀ n ∈ ns, IsName n) : trimEnd ns = ns := by
  cases h : ns.reverse with
  | nil => simp [trimEnd, List.reverse_eq_nil_iff.mp h]
  | cons n rest =>
    have last : IsName n := proper n (by rw [← List.mem_reverse, h]; simp)
    rw [trimEnd, h, List.dropWhile_cons_of_neg (by simp [last.notVoid]), ← h, List.reverse_reverse]

theorem trimVoid {void ns : List (List Char)} (allVoid : ∀ s ∈ void, isVoid s)
    (proper : ∀ n ∈ ns, IsName n) :
    trimEnd ((void ++ ns).dropWhile isVoid) = ns := by
  have front : ns.dropWhile isVoid = ns := by
    cases ns with
    | nil => rfl
    | cons n rest => exact List.dropWhile_cons_of_neg (by simp [(proper n (by simp)).notVoid])
  rw [List.dropWhile_append_of_pos (by simpa using allVoid), front, trimEndNames proper]

theorem stripParts {cs path body : List Char} {head : Option Component} {above ns : List (List Char)}
    (given : cs ≠ []) (proper : ∀ n ∈ ns, IsName n)
    (inside : (componentsOf cs).isPrefixOf (componentsOf path)) (start : front path = (head, body))
    (parts : segments body = above ++ ns)
    (count : (componentsOf cs).length = head.toList.length + (solid above).length) :
    stripPrefixOf? cs path = some (unsegments ns) := by
  have counted : (componentsOf cs).length ≠ 0 := by simpa using componentsNonempty given
  obtain ⟨void, allVoid, drop⟩ := dropComponentsAppend above ns
  have left : (componentsOf cs).length - head.toList.length = (solid above).length := by omega
  simp only [stripPrefixOf?, inside, if_true, start, counted, if_false, left, parts, drop,
    trimVoid allVoid proper]

theorem stripBelow {cs : List Char} (given : cs ≠ []) {ns : List (List Char)} (down : ns ≠ [])
    (proper : ∀ n ∈ ns, IsName n) :
    stripPrefixOf? cs (base cs ++ '/' :: unsegments ns) = some (unsegments ns) := by
  have parts : segments (unsegments ns) = ns :=
    segmentsUnsegments down (fun n hn => (proper n hn).noSlash)
  have inside : (componentsOf cs).isPrefixOf (componentsOf (base cs ++ '/' :: unsegments ns)) := by
    simp [componentsBelow given down proper]
  by_cases nothing : base cs = []
  · have top := baseEmpty given nothing
    have start : front (base cs ++ '/' :: unsegments ns) = (some .root, unsegments ns) := by
      simp [nothing, front]
    refine stripParts given proper inside start (parts.trans (List.nil_append ns).symm) ?_
    simp [top, componentsOf, front, segments, component?, isVoid, solid]
  · refine stripParts given proper inside (frontSlash nothing _) (by rw [segmentsAppend, parts]) ?_
    rw [componentsBase nothing, componentsOf, List.length_append, solidLength]

theorem descendStrip {root : Path} {names : List String} (given : root.text.toList ≠ [])
    (down : names ≠ []) (proper : ∀ n ∈ names, IsName n.toList) :
    stripPrefix? root (root.descend names) =
      some ⟨String.ofList (unsegments (names.map String.toList))⟩ := by
  rw [stripPrefix?, descendText given down proper,
    stripBelow given (by simpa using down) (by simpa using proper)]
  rfl

end Path

namespace RelPath
open Codemod.Path

theorem memUnsegments {c : Char} {ns : List (List Char)} (mem : c ∈ unsegments ns) :
    c = '/' ∨ ∃ n ∈ ns, c ∈ n := by
  induction ns with
  | nil => simp [unsegments] at mem
  | cons n rest ih =>
    cases rest with
    | nil => exact .inr ⟨n, by simp, by simpa [unsegments] using mem⟩
    | cons m more =>
      rw [unsegmentsCons n (by simp), List.mem_append, List.mem_cons] at mem
      rcases mem with own | slash | later
      · exact .inr ⟨n, by simp, own⟩
      · exact .inl slash
      · rcases ih later with slash | ⟨x, hx, inside⟩
        · exact .inl slash
        · exact .inr ⟨x, List.mem_cons_of_mem _ hx, inside⟩

theorem unsegmentsLast {ns : List (List Char)} (down : ns ≠ []) (proper : ∀ n ∈ ns, IsName n) :
    ∃ c, c ≠ '/' ∧ (unsegments ns).getLast? = some c := by
  induction ns with
  | nil => exact absurd rfl down
  | cons n rest ih =>
    cases rest with
    | nil =>
      have name := proper n (by simp)
      refine ⟨n.getLast name.nonempty, ?_, List.getLast?_eq_some_getLast name.nonempty⟩
      intro same
      exact name.noSlash (same ▸ List.getLast_mem name.nonempty)
    | cons m more =>
      obtain ⟨c, plain, last⟩ := ih (by simp) (fun x hx => proper x (List.mem_cons_of_mem _ hx))
      refine ⟨c, plain, ?_⟩
      rw [unsegmentsCons n (by simp), List.getLast?_append, List.getLast?_cons, last]
      rfl

theorem dropHereNames {ns : List (List Char)} (down : ns ≠ []) (proper : ∀ n ∈ ns, IsName n) :
    dropHere (unsegments ns) = unsegments ns := by
  have parts : Path.segments (unsegments ns) = ns :=
    segmentsUnsegments down (fun n hn => (proper n hn).noSlash)
  unfold dropHere
  split
  · next rest text =>
    rw [text] at parts
    have first : (['.'] : List Char) ∈ ns := by rw [← parts]; simp [Path.segments]
    exact absurd rfl (proper _ first).notHere
  · rfl

theorem normalizeNames {ns : List (List Char)} (down : ns ≠ []) (proper : ∀ n ∈ ns, IsName n)
    (straight : ∀ n ∈ ns, '\\' ∉ n) : normalize (unsegments ns) = unsegments ns := by
  have same : (unsegments ns).map (fun c => if c = '\\' then '/' else c) = unsegments ns := by
    refine (List.map_congr_left fun c mem => ?_).trans (List.map_id _)
    rw [if_neg]
    · rfl
    · rintro rfl
      rcases memUnsegments mem with slash | ⟨n, hn, inside⟩
      · exact absurd slash (by decide)
      · exact straight n hn inside
  obtain ⟨c, plain, last⟩ := unsegmentsLast down proper
  obtain ⟨front, text⟩ := List.getLast?_eq_some_iff.mp last
  have trimmed : ((unsegments ns).reverse.dropWhile (· = '/')).reverse = unsegments ns := by
    rw [text, List.reverse_append]
    simp [plain]
  have kept := dropHereNames down proper
  simp only [normalize, same, trimmed]
  split
  · next nothing => simp [nothing] at last
  · split
    · next nothing => rw [kept] at nothing; simp [nothing] at last
    · exact kept

theorem joinedNames (names : List String) :
    String.ofList (unsegments (names.map String.toList)) = "/".intercalate names := by
  have text : unsegments (names.map String.toList) = ("/".intercalate names).toList := by
    induction names with
    | nil => rfl
    | cons n rest ih =>
      cases rest with
      | nil => simp [unsegments]
      | cons m more => simpa [unsegments] using ih
  rw [text, String.ofList_toList]

theorem ofNames {names : List String} (down : names ≠ []) (proper : ∀ n ∈ names, IsName n.toList)
    (straight : ∀ n ∈ names, '\\' ∉ n.toList) :
    ofText ("/".intercalate names) = ⟨"/".intercalate names⟩ := by
  rw [ofText, ← joinedNames, String.toList_ofList,
    normalizeNames (by simpa using down) (by simpa using proper) (by simpa using straight)]

theorem relativeToNames {root : Path} {names : List String} (given : root.text.toList ≠ [])
    (down : names ≠ []) (proper : ∀ n ∈ names, IsName n.toList) :
    relativeTo root (root.descend names) = ofText ("/".intercalate names) := by
  rw [relativeTo, descendStrip given down proper, Option.getD_some, joinedNames]

theorem relativeToDescend {root : Path} {names : List String} (given : root.text.toList ≠ [])
    (down : names ≠ []) (proper : ∀ n ∈ names, IsName n.toList)
    (straight : ∀ n ∈ names, '\\' ∉ n.toList) :
    relativeTo root (root.descend names) = ⟨"/".intercalate names⟩ := by
  rw [relativeToNames given down proper, ofNames down proper straight]

end RelPath

end Codemod
