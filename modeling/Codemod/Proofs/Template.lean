import Codemod.Engine.Counting
import Codemod.Rule
import Mathlib.Data.List.Forall2
import Mathlib.Data.List.TakeWhile

/-!
What templates mean. Every template is read in one way, as characters and references, and by two
readers of their own: the one that checks a rule before it is used, and the one that puts in the
text of the groups. Both find the same references, so that no reference of a rule that was accepted
is left without a group.
-/
namespace Codemod

namespace Template

inductive Piece where
  | char (c : Char)
  | group (r : GroupRef)
  deriving DecidableEq, Repr

def Lone (rest : List Char) : Prop :=
  ∀ c ∈ rest.head?, c ≠ '$' ∧ isReferenceChar c = false ∧ (c = '\x7b' → '\x7d' ∉ rest)

/-- How a template is read. A name without braces is as long as it can be. -/
inductive Reads : List Char → List Piece → Prop where
  | nil : Reads [] []
  | plain {c : Char} {rest : List Char} {ps : List Piece} (other : c ≠ '$') (onward : Reads rest ps) :
      Reads (c :: rest) (.char c :: ps)
  | doubled {rest : List Char} {ps : List Piece} (onward : Reads rest ps) :
      Reads ('$' :: '$' :: rest) (.char '$' :: ps)
  | braced {name rest : List Char} {ps : List Piece} (inside : '\x7d' ∉ name)
      (onward : Reads rest ps) :
      Reads ('$' :: '\x7b' :: (name ++ '\x7d' :: rest)) (.group (.ofName name) :: ps)
  | bare {name rest : List Char} {ps : List Piece} (nonempty : name ≠ [])
      (letters : ∀ c ∈ name, isReferenceChar c = true)
      (ends : ∀ c ∈ rest.head?, isReferenceChar c = false) (onward : Reads rest ps) :
      Reads ('$' :: (name ++ rest)) (.group (.ofName name) :: ps)
  | lone {rest : List Char} {ps : List Piece} (alone : Lone rest) (onward : Reads rest ps) :
      Reads ('$' :: rest) (.char '$' :: ps)

section Cuts

variable {name rest : List Char}

theorem cutBrace (inside : '\x7d' ∉ name) (rest : List Char) :
    (name ++ '\x7d' :: rest).takeWhile (· != '\x7d') = name ∧
      (name ++ '\x7d' :: rest).dropWhile (· != '\x7d') = '\x7d' :: rest := by
  have before : ∀ c ∈ name, (c != '\x7d') = true := by
    intro c mem
    simp only [bne_iff_ne, ne_eq]
    rintro rfl
    exact inside mem
  rw [List.takeWhile_append_of_pos before, List.dropWhile_append_of_pos before]
  simp

theorem openBrace (inside : '\x7d' ∉ rest) : rest.dropWhile (· != '\x7d') = [] := by
  rw [List.dropWhile_eq_nil_iff]
  intro c mem
  simp only [bne_iff_ne, ne_eq]
  rintro rfl
  exact inside mem

theorem cutName (letters : ∀ c ∈ name, isReferenceChar c = true)
    (ends : ∀ c ∈ rest.head?, isReferenceChar c = false) :
    (name ++ rest).takeWhile isReferenceChar = name ∧
      (name ++ rest).dropWhile isReferenceChar = rest := by
  rw [List.takeWhile_append_of_pos letters, List.dropWhile_append_of_pos letters]
  cases rest with
  | nil => simp
  | cons c more => simp [ends c (by simp)]

theorem nameHead {d : Char} {more : List Char} (letters : ∀ c ∈ d :: more, isReferenceChar c = true) :
    d ≠ '$' ∧ d ≠ '\x7b' := by
  have letter := letters d (by simp)
  constructor <;> rintro rfl <;> exact absurd letter (by decide)

end Cuts

section Reference

variable {name rest : List Char}

theorem referenceBraced (inside : '\x7d' ∉ name) (rest : List Char) :
    reference? ('\x7b' :: (name ++ '\x7d' :: rest)) = some (.ofName name, rest) := by
  obtain ⟨front, behind⟩ := cutBrace inside rest
  simp [reference?, front, behind]

theorem referenceBare (nonempty : name ≠ []) (letters : ∀ c ∈ name, isReferenceChar c = true)
    (ends : ∀ c ∈ rest.head?, isReferenceChar c = false) :
    reference? (name ++ rest) = some (.ofName name, rest) := by
  obtain ⟨front, behind⟩ := cutName letters ends
  obtain ⟨d, more, rfl⟩ := List.exists_cons_of_ne_nil nonempty
  obtain ⟨-, brace⟩ := nameHead letters
  unfold reference?
  split
  · next same => exact absurd (List.cons.inj same).1 brace
  · rw [front, behind]

theorem referenceLone (alone : Lone rest) : reference? rest = none := by
  cases rest with
  | nil => rfl
  | cons c more =>
    obtain ⟨-, letter, brace⟩ := alone c rfl
    unfold reference?
    split
    · next same =>
      obtain ⟨rfl, rfl⟩ := List.cons.inj same
      have unclosed : '\x7d' ∉ more := fun mem => brace rfl (List.mem_cons_of_mem _ mem)
      rw [openBrace unclosed]
    · simp [letter]

end Reference

section Interpolation

variable {β : Type} (copy : Char → List β) (refer : GroupRef → List β)

def behindDollar (rest : List Char) : List β :=
  if rest.head? = some '$' then copy '$' ++ interpolate copy refer rest.tail
  else match reference? rest with
    | some (r, after) => refer r ++ interpolate copy refer after
    | none => copy '$' ++ interpolate copy refer rest

theorem interpolateCut (cs : List Char) :
    interpolate copy refer cs =
      match cs.dropWhile (· != '$') with
      | [] => cs.flatMap copy
      | _ :: rest => (cs.takeWhile (· != '$')).flatMap copy ++ behindDollar copy refer rest := by
  rw [interpolate]
  split
  · next nothing => rw [nothing]
  · next rest found =>
    simp only [found, behindDollar]
    split
    · rfl
    · split <;> simp_all

theorem interpolateDollar (rest : List Char) :
    interpolate copy refer ('$' :: rest) = behindDollar copy refer rest := by
  rw [interpolateCut]
  simp

theorem interpolatePlain {c : Char} (other : c ≠ '$') (rest : List Char) :
    interpolate copy refer (c :: rest) = copy c ++ interpolate copy refer rest := by
  have passes : (c != '$') = true := by simpa using other
  rw [interpolateCut, interpolateCut copy refer rest, List.dropWhile_cons, List.takeWhile_cons,
    if_pos passes, if_pos passes]
  split <;> simp

def Piece.into : Piece → List β
  | .char c => copy c
  | .group r => refer r

theorem interpolateReads {cs : List Char} {ps : List Piece} (reads : Reads cs ps) :
    interpolate copy refer cs = ps.flatMap (Piece.into copy refer) := by
  induction reads with
  | nil => simp [interpolate]
  | plain other onward ih => simp [interpolatePlain copy refer other, ih, Piece.into]
  | doubled onward ih => simp [interpolateDollar, behindDollar, ih, Piece.into]
  | braced inside onward ih =>
    simp [interpolateDollar, behindDollar, referenceBraced inside, ih, Piece.into]
  | @bare name rest ps nonempty letters ends onward ih =>
    have found := referenceBare nonempty letters ends
    obtain ⟨d, more, rfl⟩ := List.exists_cons_of_ne_nil nonempty
    obtain ⟨dollar, -⟩ := nameHead letters
    rw [interpolateDollar, behindDollar, found]
    simp [dollar, ih, Piece.into]
  | @lone rest ps alone onward ih =>
    have single : rest.head? ≠ some '$' := fun first => (alone '$' first).1 rfl
    simp [interpolateDollar, behindDollar, single, referenceLone alone, ih, Piece.into]

end Interpolation

def lookups (cs : List Char) : List GroupRef := interpolate (fun _ => []) (fun r => [r]) cs

theorem referencesPlain {c : Char} (other : c ≠ '$') (rest : List Char) :
    references (c :: rest) = references rest := by
  rw [references.eq_def]
  simp [other]

theorem referenceName {d : Char} {more : List Char} (other : d ≠ '\x7b') :
    reference? (d :: more) =
      match (d :: more).takeWhile isReferenceChar with
      | [] => none
      | name => some (GroupRef.ofName name, (d :: more).dropWhile isReferenceChar) := by
  unfold reference?
  split
  · next same => exact absurd (List.cons.inj same).1 other
  · rfl

/- The check of a rule takes apart what stands behind a dollar sign in its own way. -/
theorem referencesDollar (rest : List Char) :
    references ('$' :: rest) =
      if rest.head? = some '$' then references rest.tail
      else match reference? rest with
        | some (r, after) => r :: references after
        | none => references rest := by
  rw [references.eq_def]
  simp only [if_true]
  split
  · simp [reference?, references]
  · simp
  · next inner =>
    split
    · next unclosed => simp [reference?, unclosed]
    · next after closed => simp [reference?, closed]
  · next d more dollar brace =>
    have single : d ≠ '$' := dollar
    rw [referenceName brace]
    cases letter : isReferenceChar d with
    | true => simp [letter, single]
    | false => simp [letter, single]

theorem referencesReads {cs : List Char} {ps : List Piece} (reads : Reads cs ps) :
    references cs = ps.flatMap (Piece.into (fun _ => []) fun r => [r]) := by
  induction reads with
  | nil => simp [references]
  | plain other onward ih => simp [referencesPlain other, ih, Piece.into]
  | doubled onward ih => simp [referencesDollar, ih, Piece.into]
  | braced inside onward ih => simp [referencesDollar, referenceBraced inside, ih, Piece.into]
  | @bare name rest ps nonempty letters ends onward ih =>
    have found := referenceBare nonempty letters ends
    obtain ⟨d, more, rfl⟩ := List.exists_cons_of_ne_nil nonempty
    obtain ⟨dollar, -⟩ := nameHead letters
    rw [referencesDollar, found]
    simp [dollar, ih, Piece.into]
  | @lone rest ps alone onward ih =>
    have single : rest.head? ≠ some '$' := fun first => (alone '$' first).1 rfl
    simp [referencesDollar, single, referenceLone alone, ih, Piece.into]

theorem readsBehindDollar (rest : List Char)
    (shorter : ∀ cs : List Char, cs.length ≤ rest.length → ∃ ps, Reads cs ps) :
    ∃ ps, Reads ('$' :: rest) ps := by
  have single (alone : Lone rest) : ∃ ps, Reads ('$' :: rest) ps := by
    obtain ⟨ps, onward⟩ := shorter rest (Nat.le_refl _)
    exact ⟨_, .lone alone onward⟩
  cases rest with
  | nil => exact single (by simp [Lone])
  | cons d more =>
    by_cases dollar : d = '$'
    · subst dollar
      obtain ⟨ps, onward⟩ := shorter more (by simp)
      exact ⟨_, .doubled onward⟩
    cases letter : isReferenceChar d with
    | true =>
      have short := (List.dropWhile_suffix isReferenceChar (l := d :: more)).length_le
      obtain ⟨ps, onward⟩ := shorter _ short
      have whole := List.takeWhile_append_dropWhile (p := isReferenceChar) (l := d :: more)
      rw [← whole]
      refine ⟨_, .bare (by simp [letter]) (fun c mem => List.mem_takeWhile_imp mem) ?_ onward⟩
      intro c first
      simpa [Option.mem_def.mp first] using List.head?_dropWhile_not isReferenceChar (d :: more)
    | false =>
      by_cases closed : d = '\x7b' ∧ '\x7d' ∈ more
      · obtain ⟨rfl, mem⟩ := closed
        obtain ⟨name, after, rfl, inside⟩ := List.eq_append_cons_of_mem mem
        obtain ⟨ps, onward⟩ := shorter after (by simp; omega)
        exact ⟨_, .braced inside onward⟩
      · refine single fun c first => ?_
        cases first
        refine ⟨dollar, letter, ?_⟩
        rintro rfl mem
        exact closed ⟨rfl, by simpa using mem⟩

theorem readsExists (cs : List Char) : ∃ ps, Reads cs ps := by
  induction length : cs.length using Nat.strongRecOn generalizing cs with
  | ind n ih =>
    cases cs with
    | nil => exact ⟨[], .nil⟩
    | cons c rest =>
      by_cases dollar : c = '$'
      · subst dollar
        refine readsBehindDollar rest fun cs short => ih cs.length ?_ cs rfl
        rw [← length, List.length_cons]
        omega
      · obtain ⟨ps, onward⟩ := ih rest.length (by rw [← length, List.length_cons]; omega) rest rfl
        exact ⟨_, .plain dollar onward⟩

theorem Reads.unique {cs : List Char} {ps qs : List Piece} (one : Reads cs ps) (two : Reads cs qs) :
    ps = qs := by
  have parts : ∀ ps : List Piece,
      ps.flatMap (Piece.into (fun c => [.char c]) fun r => [.group r]) = ps := by
    intro ps
    induction ps with
    | nil => rfl
    | cons p rest ih => cases p <;> simp [Piece.into, ih]
  rw [← parts ps, ← parts qs, ← interpolateReads _ _ one, ← interpolateReads _ _ two]

theorem referencesLookups (cs : List Char) : references cs = lookups cs := by
  obtain ⟨ps, reads⟩ := readsExists cs
  rw [referencesReads reads, lookups, interpolateReads _ _ reads]

end Template

namespace Pattern

def Denotes (p : Pattern) (n : Nat) : GroupRef → Prop
  | .index k => k = n ∧ (n = 0 ∨ ∃ g ∈ p.expr.groups, n ≤ g.1)
  | .name s => (n, some s) ∈ p.expr.groups

def Has (p : Pattern) (r : GroupRef) : Prop := ∃ n, p.Denotes n r

theorem groupCountFrom (gs : List (Nat × Option String)) (start n : Nat) :
    n < gs.foldl (fun n g => max n (g.1 + 1)) start ↔ n < start ∨ ∃ g ∈ gs, n ≤ g.1 := by
  induction gs generalizing start with
  | nil => simp
  | cons g rest ih =>
    have first : n < max start (g.1 + 1) ↔ n < start ∨ n ≤ g.1 := by omega
    rw [List.foldl_cons, ih, first, or_assoc]
    simp

theorem groupNamedMem {p : Pattern} {s : String} {n : Nat} (named : p.groupNamed? s = some n) :
    (n, some s) ∈ p.expr.groups := by
  obtain ⟨g, found, rfl⟩ := Option.map_eq_some_iff.mp named
  have same : g.2 = some s := by simpa using List.find?_some found
  rw [← same]
  exact List.mem_of_find?_eq_some found

theorem knowsHas (p : Pattern) (r : GroupRef) : p.knows r = true ↔ p.Has r := by
  cases r with
  | index k =>
    simp only [knows, groupCount, decide_eq_true_eq, groupCountFrom, Has, Denotes, Nat.lt_one_iff]
    constructor
    · exact fun there => ⟨k, rfl, there⟩
    · rintro ⟨n, rfl, there⟩
      exact there
  | name s =>
    simp only [knows, Has, Denotes]
    constructor
    · intro named
      obtain ⟨n, named⟩ := Option.isSome_iff_exists.mp named
      exact ⟨n, groupNamedMem named⟩
    · rintro ⟨n, there⟩
      simpa [groupNamed?] using ⟨n, there⟩

def Match.taken (text : Haystack) (m : Match) (n : Nat) : List Char :=
  match m.group? n with
  | some (a, b) => (text.extract a b).toList
  | none => []

theorem groupTextTaken {p : Pattern} {r : GroupRef} (has : p.Has r) (text : Haystack) (m : Match) :
    ∃ n, p.Denotes n r ∧ p.groupText text m r = m.taken text n := by
  cases r with
  | index k =>
    obtain ⟨n, rfl, there⟩ := has
    exact ⟨k, ⟨rfl, there⟩, rfl⟩
  | name s =>
    obtain ⟨n, named⟩ := Option.isSome_iff_exists.mp ((knowsHas p (.name s)).mpr has)
    refine ⟨n, groupNamedMem named, ?_⟩
    simp only [groupText, named, Option.bind_some]
    rfl

inductive Renders (p : Pattern) (text : Haystack) (m : Match) :
    List Template.Piece → List Char → Prop where
  | nil : Renders p text m [] []
  | char {c : Char} {ps : List Template.Piece} {out : List Char} (onward : Renders p text m ps out) :
      Renders p text m (.char c :: ps) (c :: out)
  | group {r : GroupRef} {n : Nat} {ps : List Template.Piece} {out : List Char}
      (denotes : p.Denotes n r) (onward : Renders p text m ps out) :
      Renders p text m (.group r :: ps) (m.taken text n ++ out)

theorem rendersPieces {p : Pattern} {ps : List Template.Piece}
    (has : ∀ r, .group r ∈ ps → p.Has r) (text : Haystack) (m : Match) :
    Renders p text m ps (ps.flatMap (Template.Piece.into (fun c => [c]) (p.groupText text m))) := by
  induction ps with
  | nil => exact .nil
  | cons piece rest ih =>
    have onward := ih fun r mem => has r (List.mem_cons_of_mem _ mem)
    cases piece with
    | char c => exact .char onward
    | group r =>
      obtain ⟨n, denotes, same⟩ := groupTextTaken (has r (by simp)) text m
      rw [List.flatMap_cons, Template.Piece.into, same]
      exact .group denotes onward

theorem extractDrop {text : Haystack} {i j : Nat} (order : i ≤ j) :
    (text.extract i j).toList ++ text.toList.drop j = text.toList.drop i := by
  obtain ⟨k, rfl⟩ := Nat.exists_eq_add_of_le order
  rw [Array.toList_extract, List.extract_eq_take_drop, Nat.add_sub_cancel_left, ← List.drop_drop,
    List.take_append_drop]

theorem extractRest (text : Haystack) (i : Nat) :
    (text.extract i text.size).toList = text.toList.drop i := by
  rw [Array.toList_extract, List.extract_eq_take_drop, List.take_of_length_le]
  rw [List.length_drop, Array.length_toList]

end Pattern

namespace Rule

open Pattern Template

variable {d : RuleDef} {p : Pattern} {r : Rule}

def weave (text : Haystack) (last : Nat) : List (Match × List Char) → List Char
  | [] => (text.extract last text.size).toList
  | (m, put) :: rest => (text.extract last m.start).toList ++ put ++ weave text m.stop rest

theorem replaceWoven (r : Rule) (text : Haystack) (last : Nat) (found : List Match) :
    r.replaceFrom text last found =
      weave text last (found.zip (found.map (r.replacementFor text))) := by
  induction found generalizing last with
  | nil => rfl
  | cons m rest ih => simp [replaceFrom, weave, ih]

theorem applyFound (r : Rule) (content : String) :
    let text := content.toList.toArray
    let found := r.pattern.program.findAll text
    r.apply content = (String.ofList (r.replaceFrom text 0 found), found.length) := by
  simp only [apply]
  split
  · next nothing =>
    rw [List.isEmpty_iff.mp nothing]
    simp [replaceFrom]
  · rfl

theorem applyWoven (r : Rule) (content : String) :
    let text := content.toList.toArray
    let found := r.pattern.program.findAll text
    r.apply content =
      (String.ofList (weave text 0 (found.zip (found.map (r.replacementFor text)))),
        found.length) := by
  simp only [applyFound, replaceWoven]

theorem sourceRegex (regex : d.literal = false) : source d = d.pattern.toList :=
  if_neg (by simp [regex])

theorem compileRead [Engine] {e : Expr} (reads : Expr.read (source d) = .ok e) :
    compile d =
      if Engine.fits (source d) = false then .error (.pattern .size)
      else if e.minLength = some 0 then .error .matchesEmpty
      else if d.literal then .ok ⟨d, e, e.program⟩
      else match (references d.replacement.toList).find?
          (!(⟨e, e.program⟩ : Pattern).knows ·) with
        | some g => .error (.unknownGroup d.replacement g)
        | none => .ok ⟨d, e, e.program⟩ := by
  have compiled : Pattern.compile (source d) =
      if Engine.fits (source d) = true then .ok ⟨e, e.program⟩ else .error .size := by
    rw [Pattern.compile, reads]
    rfl
  cases fits : Engine.fits (source d) with
  | false =>
    rw [fits, if_neg (by simp)] at compiled
    simp only [compile, compiled, if_true]
  | true =>
    rw [fits, if_pos rfl] at compiled
    rewrite [compile, compiled, if_neg (by simp)]
    rfl

theorem okOfMap {ε α β : Type} {x : Except ε α} {f : α → β} {b : β}
    (evaluates : x.toOption.map f = some b) : ∃ a, x = .ok a ∧ f a = b := by
  cases x with
  | error fault => cases evaluates
  | ok a => exact ⟨a, rfl, Option.some.inj evaluates⟩

theorem compileRegex [Engine] (regex : d.literal = false) (compiled : Pattern.compile d.pattern.toList = .ok p)
    (solid : p.expr.minLength ≠ some 0) :
    compile d = match (references d.replacement.toList).find? (!p.knows ·) with
      | some r => .error (.unknownGroup d.replacement r)
      | none => .ok ⟨d, p⟩ := by
  unfold compile
  rw [sourceRegex regex, compiled]
  exact (if_neg solid).trans (if_neg (by simp [regex]))

theorem compileFault [Engine] (regex : d.literal = false) (compiled : Pattern.compile d.pattern.toList = .ok p)
    (solid : p.expr.minLength ≠ some 0) {fault : RuleFault} (refused : compile d = .error fault) :
    ∃ before g after, lookups d.replacement.toList = before ++ g :: after ∧
      (∀ b ∈ before, p.Has b) ∧ ¬ p.Has g ∧ fault = .unknownGroup d.replacement g := by
  rw [compileRegex regex compiled solid, referencesLookups] at refused
  cases found : (lookups d.replacement.toList).find? (!p.knows ·) with
  | none => simp [found] at refused
  | some g =>
    obtain ⟨unknown, before, after, whole, known⟩ := List.find?_eq_some_iff_append.mp found
    simp only [found, Except.error.injEq] at refused
    refine ⟨before, g, after, whole, ?_, ?_, refused.symm⟩
    · intro b mem
      exact (knowsHas p b).mp (by simpa using known b mem)
    · rw [← knowsHas]
      simpa using unknown

theorem compileAccepted [Engine] (regex : d.literal = false)
    (compiled : Pattern.compile d.pattern.toList = .ok p) (solid : p.expr.minLength ≠ some 0) :
    compile d = .ok r ↔ r = ⟨d, p⟩ ∧ ∀ g ∈ lookups d.replacement.toList, p.Has g := by
  rw [compileRegex regex compiled solid, referencesLookups]
  cases found : (lookups d.replacement.toList).find? (!p.knows ·) with
  | none =>
    have known : ∀ g ∈ lookups d.replacement.toList, p.Has g := fun g mem =>
      (knowsHas p g).mp (by simpa using List.find?_eq_none.mp found g mem)
    exact ⟨fun same => ⟨(Except.ok.inj same).symm, known⟩, fun same => same.1 ▸ rfl⟩
  | some g =>
    have unknown : ¬ p.Has g := by
      rw [← knowsHas]
      simpa using List.find?_some found
    simp only [reduceCtorEq, false_iff, not_and]
    exact fun _ all => unknown (all g (List.mem_of_find?_eq_some found))

theorem replacementRenders {ps : List Piece} (regex : d.literal = false)
    (reads : Reads d.replacement.toList ps) (known : ∀ g ∈ lookups d.replacement.toList, p.Has g)
    (text : Haystack) (m : Match) :
    Renders p text m ps (replacementFor ⟨d, p⟩ text m) := by
  have groups : ∀ g, .group g ∈ ps → p.Has g := by
    intro g mem
    refine known g ?_
    rw [lookups, interpolateReads _ _ reads, List.mem_flatMap]
    exact ⟨_, mem, by simp [Piece.into]⟩
  simp only [replacementFor, regex, Bool.false_eq_true, if_false, expand, interpolateReads _ _ reads]
  exact rendersPieces groups text m

/-- A template is accepted if and only if every group that its expansion asks for is one of the
pattern's; otherwise the first that is not is reported. A template is read in one way, and what an
accepted rule puts in for each match is what the template says, with the text of a group for every
reference. -/
theorem templateFaithful [Engine] (regex : d.literal = false)
    (compiled : Pattern.compile d.pattern.toList = .ok p) (solid : p.expr.minLength ≠ some 0) :
    ((∃ r, compile d = .ok r) ↔ ∀ g ∈ lookups d.replacement.toList, p.Has g) ∧
      (∀ fault, compile d = .error fault →
        ∃ before g after, lookups d.replacement.toList = before ++ g :: after ∧
          (∀ b ∈ before, p.Has b) ∧ ¬ p.Has g ∧
          fault.message = "replacement '" ++ d.replacement ++
            "' references unknown capture group " ++ g.text) ∧
      ∀ r, compile d = .ok r → ∀ content : String,
        ∃ (ps : List Piece) (inserted : List (List Char)),
          (∀ qs, Reads d.replacement.toList qs ↔ qs = ps) ∧
            List.Forall₂ (fun m out => Renders p content.toList.toArray m ps out)
              (p.program.findAll content.toList.toArray) inserted ∧
            r.apply content =
              (String.ofList (weave content.toList.toArray 0
                ((p.program.findAll content.toList.toArray).zip inserted)), inserted.length) := by
  refine ⟨?_, ?_, ?_⟩
  · simp [compileAccepted regex compiled solid]
  · intro fault refused
    obtain ⟨before, g, after, whole, known, unknown, rfl⟩ := compileFault regex compiled solid refused
    exact ⟨before, g, after, whole, known, unknown, rfl⟩
  · intro r accepted content
    obtain ⟨rfl, known⟩ := (compileAccepted regex compiled solid).mp accepted
    obtain ⟨ps, reads⟩ := readsExists d.replacement.toList
    refine ⟨ps, (p.program.findAll content.toList.toArray).map
      (replacementFor ⟨d, p⟩ content.toList.toArray), ?_, ?_, ?_⟩
    · intro qs
      exact ⟨fun other => other.unique reads, fun same => same ▸ reads⟩
    · rw [List.forall₂_map_right_iff, List.forall₂_same]
      exact fun m _ => replacementRenders regex reads known _ m
    · rw [List.length_map]
      exact applyWoven ⟨d, p⟩ content

def mixed : RuleDef := ⟨"(?P<_>a)(b)?", "$$1 $\x7b+1\x7d$_-$\x7b2\x7d$é$\x7b", false⟩

open Engine in
set_option maxRecDepth 100000 in
theorem templateFaithfulMixed :
    ∃ p r ps inserted, mixed.literal = false ∧ Pattern.compile mixed.pattern.toList = .ok p ∧
      p.expr.minLength ≠ some 0 ∧ compile mixed = .ok r ∧
      lookups mixed.replacement.toList = [.index 1, .name "_", .index 2] ∧
      (∀ g ∈ lookups mixed.replacement.toList, p.Has g) ∧
      Reads mixed.replacement.toList ps ∧
      List.Forall₂ (fun m out => Renders p "ab a".toList.toArray m ps out)
        (p.program.findAll "ab a".toList.toArray) inserted ∧
      r.apply "ab a" = ("$1 aa-b$é$\x7b $1 aa-$é$\x7b", 2) := by
  have asked : lookups mixed.replacement.toList = [.index 1, .name "_", .index 2] := by decide +kernel
  have solid : (Pattern.compile mixed.pattern.toList).toOption.map (·.expr.minLength) =
      some (some 1) := by decide +kernel
  have applied : (compile mixed).toOption.map (·.apply "ab a") =
      some ("$1 aa-b$é$\x7b $1 aa-$é$\x7b", 2) := by decide +kernel
  cases compiled : Pattern.compile mixed.pattern.toList with
  | error e => simp [compiled, Except.toOption] at solid
  | ok p =>
    have minimum : p.expr.minLength ≠ some 0 := by
      have one : p.expr.minLength = some 1 := by simpa [compiled, Except.toOption] using solid
      simp [one]
    obtain ⟨accepts, -, means⟩ := templateFaithful (d := mixed) rfl compiled minimum
    cases accepted : compile mixed with
    | error e => simp [accepted, Except.toOption] at applied
    | ok r =>
      obtain ⟨ps, inserted, reads, renders, -⟩ := means r accepted "ab a"
      refine ⟨p, r, ps, inserted, rfl, rfl, minimum, rfl, asked, accepts.mp ⟨r, accepted⟩,
        (reads ps).mpr rfl, renders, ?_⟩
      simpa [accepted, Except.toOption] using applied

end Rule

end Codemod
