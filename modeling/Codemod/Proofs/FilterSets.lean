import Codemod.Proofs.Filter
import Codemod.Proofs.Sealing
import Mathlib.Data.List.DropRight
import Mathlib.Data.List.Induction
import Mathlib.Data.List.Sort

/-!
The sets of a filter, built up step by step. Each is kept as an ascending list, and what it holds is
told by the steps alone: an extension or a directory counts without what is trimmed off it, and of
paths with the same components the one that came first stays. So the order of the steps, and how
often one is taken, shows in nothing but the spelling of a path.
-/
namespace Codemod

namespace Ordered

variable {α : Type} {order : α → α → Ordering}

theorem ofListSnoc (xs : List α) (x : α) :
    ofList order (xs ++ [x]) = insert order x (ofList order xs) := by
  simp [ofList]

theorem ofListKeys {β : Type} (key : β → α) (xs : List β) :
    (ofList (fun a b => order (key a) (key b)) xs).map key = ofList order (xs.map key) := by
  have inserted : ∀ (x : β) (set : List β),
      (insert (fun a b => order (key a) (key b)) x set).map key =
        insert order (key x) (set.map key) := by
    intro x set
    induction set with
    | nil => rfl
    | cons y rest ih =>
      unfold insert
      split <;> simp_all
  induction xs using List.reverseRecOn with
  | nil => rfl
  | append_singleton xs x ih =>
    rw [ofListSnoc, inserted, ih, List.map_append, List.map_singleton, ofListSnoc]

section

variable [Std.TransCmp order] {x y : α} {xs : List α}

theorem memInsertFresh (ascending : xs.Pairwise (order · · = .lt)) :
    y ∈ insert order x xs ↔ y ∈ xs ∨ y = x ∧ ∀ z ∈ xs, order z x ≠ .eq := by
  induction xs with
  | nil => simp [insert]
  | cons first rest ih =>
    obtain ⟨below, later⟩ := List.pairwise_cons.mp ascending
    unfold insert
    split
    · next before =>
      have fresh : ∀ z ∈ first :: rest, order z x ≠ .eq := by
        intro z member same
        have above : order x z = .lt := by
          rcases List.mem_cons.mp member with rfl | inside
          · exact before
          · exact Std.TransCmp.lt_trans before (below z inside)
        rw [Std.OrientedCmp.eq_symm same] at above
        contradiction
      rw [List.mem_cons, or_comm, and_iff_left fresh]
    · next same =>
      have taken : ¬∀ z ∈ first :: rest, order z x ≠ .eq := fun fresh =>
        fresh first List.mem_cons_self (Std.OrientedCmp.eq_symm same)
      simp only [taken, and_false, or_false]
    · next behind =>
      have other : order first x ≠ .eq := by simp [Std.OrientedCmp.lt_of_gt behind]
      rw [List.mem_cons, ih later, List.mem_cons, List.forall_mem_cons, and_iff_right other, or_assoc]

theorem insertAscending (x : α) (ascending : xs.Pairwise (order · · = .lt)) :
    (insert order x xs).Pairwise (order · · = .lt) := by
  induction xs with
  | nil => simp [insert]
  | cons first rest ih =>
    obtain ⟨below, later⟩ := List.pairwise_cons.mp ascending
    unfold insert
    split
    · next before =>
      refine List.pairwise_cons.mpr ⟨?_, ascending⟩
      intro z member
      rcases List.mem_cons.mp member with rfl | inside
      · exact before
      · exact Std.TransCmp.lt_trans before (below z inside)
    · exact ascending
    · next behind =>
      refine List.pairwise_cons.mpr ⟨?_, ih later⟩
      intro z member
      rcases (memInsertFresh later).mp member with inside | ⟨rfl, -⟩
      · exact below z inside
      · exact Std.OrientedCmp.lt_of_gt behind

variable (order)

theorem ofListAscending (xs : List α) : (ofList order xs).Pairwise (order · · = .lt) := by
  induction xs using List.reverseRecOn with
  | nil => exact .nil
  | append_singleton xs x ih =>
    rw [ofListSnoc]
    exact insertAscending x ih

theorem ofListSubset (xs : List α) : ofList order xs ⊆ xs := by
  induction xs using List.reverseRecOn with
  | nil => exact List.Subset.refl _
  | append_singleton xs x ih =>
    intro y member
    rw [ofListSnoc, memInsertFresh (ofListAscending order xs)] at member
    rcases member with old | ⟨rfl, -⟩
    · exact List.mem_append_left _ (ih old)
    · simp

theorem ofListCovers (member : x ∈ xs) : ∃ y ∈ ofList order xs, order y x = .eq := by
  induction xs using List.reverseRecOn with
  | nil => simp at member
  | append_singleton xs last ih =>
    simp only [ofListSnoc, memInsertFresh (ofListAscending order xs)]
    rcases List.mem_append.mp member with earlier | final
    · obtain ⟨y, held, same⟩ := ih earlier
      exact ⟨y, .inl held, same⟩
    · obtain rfl := List.mem_singleton.mp final
      -- The last one goes in, unless an earlier one has its rank and keeps the place.
      by_cases taken : ∃ z ∈ ofList order xs, order z x = .eq
      · obtain ⟨z, held, same⟩ := taken
        exact ⟨z, .inl held, same⟩
      · refine ⟨x, .inr ⟨rfl, ?_⟩, Std.ReflCmp.compare_self⟩
        intro z held same
        exact taken ⟨z, held, same⟩

variable {order}

theorem memOfList : y ∈ ofList order xs ↔ xs.find? (order · y = .eq) = some y := by
  induction xs using List.reverseRecOn with
  | nil => simp [ofList]
  | append_singleton xs x ih =>
    have untaken : (∀ z ∈ ofList order xs, order z x ≠ .eq) ↔ xs.find? (order · x = .eq) = none := by
      rw [List.find?_eq_none]
      constructor
      · intro fresh z member same
        obtain ⟨w, held, rank⟩ := ofListCovers order member
        exact fresh w held (Std.TransCmp.eq_trans rank (of_decide_eq_true same))
      · intro fresh z held same
        exact fresh z (ofListSubset order xs held) (decide_eq_true same)
    rw [ofListSnoc, memInsertFresh (ofListAscending order xs), ih, untaken, List.find?_append,
      Option.or_eq_some_iff]
    refine or_congr_right ⟨?_, ?_⟩
    · rintro ⟨rfl, none⟩
      exact ⟨none, by simp [Std.ReflCmp.compare_self]⟩
    · rintro ⟨none, last⟩
      obtain rfl : y = x := by simpa using List.mem_of_find?_eq_some last
      exact ⟨rfl, none⟩

instance ascendingIrrefl : Std.Irrefl fun a b => order a b = .lt where
  irrefl _ less := Std.OrientedCmp.not_lt_of_lt less less

instance ascendingAntisymm : Std.Antisymm fun a b => order a b = .lt where
  antisymm _ _ less greater := absurd greater (Std.OrientedCmp.not_lt_of_lt less)

theorem ofListRank (order : α → α → Ordering) [Std.TransCmp order] (x : α) (xs : List α) :
    (ofList order xs).filter (order · x = .eq) = (xs.find? (order · x = .eq)).toList := by
  have least : ((xs.find? (order · x = .eq)).toList).Pairwise (order · · = .lt) := by
    cases xs.find? (order · x = .eq) <;> simp
  refine ((ofListAscending order xs).filter _).eq_of_mem_iff least ?_
  intro y
  rw [List.mem_filter, decide_eq_true_iff, Option.mem_toList, memOfList]
  constructor
  · intro ⟨first, same⟩
    simpa only [Std.TransCmp.congr_right same] using first
  · intro first
    have same : order y x = .eq := by simpa using List.find?_some first
    exact ⟨by simpa only [Std.TransCmp.congr_right same] using first, same⟩

theorem memOfListExact [Std.LawfulEqCmp order] : y ∈ ofList order xs ↔ y ∈ xs := by
  refine ⟨fun held => ofListSubset order xs held, fun member => ?_⟩
  obtain ⟨z, held, same⟩ := ofListCovers order member
  obtain rfl : z = y := Std.LawfulEqCmp.eq_of_compare same
  exact held

theorem ofListExt [Std.LawfulEqCmp order] {ys : List α} (members : ∀ x, x ∈ xs ↔ x ∈ ys) :
    ofList order xs = ofList order ys := by
  refine (ofListAscending order xs).eq_of_mem_iff (ofListAscending order ys) ?_
  intro x
  rw [memOfListExact, memOfListExact, members]

end

end Ordered

namespace Filter

instance : Std.TransCmp textOrder := orderedBy String.toList

instance : Std.TransCmp Path.compare := orderedBy Path.components

inductive Step where
  | includeExtension (extension : String)
  | excludeDir (name : String)
  | skipFile (path : Path)
  deriving DecidableEq, Repr

def take (f : Filter) : Step → Filter
  | .includeExtension extension => f.includeExtension extension
  | .excludeDir name => f.excludeDir name
  | .skipFile path => f.skipFile path

def gathered (steps : List Step) : Filter := steps.foldl take {}

def inner (name : String) : String :=
  String.ofList ((name.toList.dropWhile isSlash).rdropWhile isSlash)

theorem excludeDirOf (f : Filter) (x : String) :
    f.excludeDir x =
      if inner x = "" then f
      else { f with excludedDirs := Ordered.insert textOrder (inner x) f.excludedDirs } := by
  unfold excludeDir inner List.rdropWhile
  split
  · next nothing => simp [nothing]
  · next cs filled => rw [if_neg]; simpa using filled

def counted (text : String) : Option String := if text = "" then none else some text

theorem countedIff {text x : String} : counted text = some x ↔ x ≠ "" ∧ text = x := by
  unfold counted
  split
  · next empty =>
    exact ⟨fun none => by contradiction, fun same => absurd (same.2.symm.trans empty) same.1⟩
  · next filled =>
    rw [Option.some.injEq]
    exact ⟨fun same => ⟨same ▸ filled, same⟩, And.right⟩

namespace Step

def extension? : Step → Option String
  | .includeExtension extension => counted (bare extension)
  | _ => none

def dir? : Step → Option String
  | .excludeDir name => counted (inner name)
  | _ => none

def path? : Step → Option Path
  | .skipFile path => some path
  | _ => none

end Step

theorem takeAdds (f : Filter) (s : Step) :
    f.take s =
      { extensions := s.extension?.elim f.extensions (Ordered.insert textOrder · f.extensions)
        excludedDirs := s.dir?.elim f.excludedDirs (Ordered.insert textOrder · f.excludedDirs)
        skipped := s.path?.elim f.skipped (Ordered.insert Path.compare · f.skipped)
        gitignore := f.gitignore } := by
  cases s with
  | includeExtension x =>
    rw [take, includeExtensionOf, Step.extension?, counted]
    split <;> rfl
  | excludeDir x =>
    rw [take, excludeDirOf, Step.dir?, counted]
    split <;> rfl
  | skipFile p => rfl

theorem gatheredSets (steps : List Step) :
    gathered steps =
      { extensions := Ordered.ofList textOrder (steps.filterMap Step.extension?)
        excludedDirs := Ordered.ofList textOrder (steps.filterMap Step.dir?)
        skipped := Ordered.ofList Path.compare (steps.filterMap Step.path?) } := by
  have grown : ∀ {α : Type} (order : α → α → Ordering) (pick : Step → Option α) (steps : List Step)
      (s : Step), Ordered.ofList order ((steps ++ [s]).filterMap pick) =
        (pick s).elim (Ordered.ofList order (steps.filterMap pick))
          (Ordered.insert order · (Ordered.ofList order (steps.filterMap pick))) := by
    intro α order pick steps s
    cases picked : pick s <;> simp [List.filterMap_append, picked, Ordered.ofListSnoc]
  induction steps using List.reverseRecOn with
  | nil => rfl
  | append_singleton steps s ih =>
    rw [grown, grown, grown]
    calc gathered (steps ++ [s])
      _ = (gathered steps).take s := by simp [gathered]
      _ = _ := by rw [ih, takeAdds]

def Undotted (text rest : String) : Prop :=
  ∃ dots, text.toList = dots ++ rest.toList ∧ (∀ c ∈ dots, c = '.') ∧ rest.toList.head? ≠ some '.'

def Unslashed (text rest : String) : Prop :=
  ∃ front back, text.toList = front ++ rest.toList ++ back ∧
    (∀ c ∈ front ++ back, c = '/' ∨ c = '\\') ∧
    ∀ c, rest.toList.head? = some c ∨ rest.toList.getLast? = some c → c ≠ '/' ∧ c ≠ '\\'

theorem dropWhileIff {p : Char → Bool} {cs rest : List Char} :
    cs.dropWhile p = rest ↔
      ∃ front, cs = front ++ rest ∧ (∀ c ∈ front, p c = true) ∧
        ∀ c, rest.head? = some c → p c = false := by
  constructor
  · intro dropped
    refine ⟨cs.takeWhile p, ?_, ?_, ?_⟩
    · rw [← dropped, List.takeWhile_append_dropWhile]
    · exact List.all_eq_true.mp List.all_takeWhile
    · intro c first
      simpa [dropped, first] using List.head?_dropWhile_not p cs
  · intro ⟨front, whole, skipped, stops⟩
    rw [whole, List.dropWhile_append_of_pos skipped]
    cases rest with
    | nil => rfl
    | cons c rest => exact List.dropWhile_cons_of_neg (by simp [stops c rfl])

theorem rdropWhileIff {p : Char → Bool} {cs rest : List Char} :
    cs.rdropWhile p = rest ↔
      ∃ back, cs = rest ++ back ∧ (∀ c ∈ back, p c = true) ∧
        ∀ c, rest.getLast? = some c → p c = false := by
  rw [List.rdropWhile, List.reverse_eq_iff, dropWhileIff]
  constructor
  · intro ⟨front, whole, skipped, stops⟩
    refine ⟨front.reverse, by simpa using congrArg List.reverse whole, by simpa using skipped, ?_⟩
    simpa using stops
  · intro ⟨back, whole, skipped, stops⟩
    exact ⟨back.reverse, by simp [whole], by simpa using skipped, by simpa using stops⟩

theorem bareUndotted {text rest : String} : bare text = rest ↔ Undotted text rest := by
  have first : rest.toList.head? ≠ some '.' ↔ ∀ c, rest.toList.head? = some c → c ≠ '.' :=
    ⟨fun other c head dot => other (dot ▸ head), fun other dot => other _ dot rfl⟩
  rw [bare, ← String.toList_inj, String.toList_ofList, dropWhileIff, Undotted, first]
  simp

theorem slashIff {c : Char} : isSlash c = true ↔ c = '/' ∨ c = '\\' := by
  simp [isSlash]

theorem plainIff {c : Char} : isSlash c = false ↔ c ≠ '/' ∧ c ≠ '\\' := by
  simp [isSlash]

theorem innerUnslashed {text rest : String} (filled : rest ≠ "") :
    inner text = rest ↔ Unslashed text rest := by
  have first : ∀ back, (rest.toList ++ back).head? = rest.toList.head? := by
    intro back
    exact List.head?_append_of_ne_nil _ (by simpa using filled)
  rw [inner, ← String.toList_inj, String.toList_ofList, rdropWhileIff]
  constructor
  · intro ⟨back, trimmed, behind, last⟩
    obtain ⟨front, whole, before, head⟩ := dropWhileIff.mp trimmed
    rw [first] at head
    refine ⟨front, back, by rw [whole, List.append_assoc], ?_, ?_⟩
    · intro c around
      exact slashIff.mp ((List.mem_append.mp around).elim (before c) (behind c))
    · intro c outer
      exact plainIff.mp (outer.elim (head c) (last c))
  · intro ⟨front, back, whole, around, outer⟩
    refine ⟨back, dropWhileIff.mpr ⟨front, by rw [whole, List.append_assoc], ?_, ?_⟩, ?_, ?_⟩
    · intro c before
      exact slashIff.mpr (around c (List.mem_append_left _ before))
    · intro c head
      exact plainIff.mpr (outer c (.inl (by rwa [first] at head)))
    · intro c behind
      exact slashIff.mpr (around c (List.mem_append_right _ behind))
    · intro c last
      exact plainIff.mpr (outer c (.inr last))

theorem memExtensions {steps : List Step} {x : String} :
    x ∈ steps.filterMap Step.extension? ↔
      x ≠ "" ∧ ∃ y, .includeExtension y ∈ steps ∧ Undotted y x := by
  rw [List.mem_filterMap]
  constructor
  · intro ⟨s, taken, picked⟩
    cases s with
    | includeExtension y =>
      obtain ⟨filled, trimmed⟩ := countedIff.mp picked
      exact ⟨filled, y, taken, bareUndotted.mp trimmed⟩
    | excludeDir y => simp [Step.extension?] at picked
    | skipFile p => simp [Step.extension?] at picked
  · intro ⟨filled, y, taken, trimmed⟩
    exact ⟨_, taken, countedIff.mpr ⟨filled, bareUndotted.mpr trimmed⟩⟩

theorem memDirs {steps : List Step} {x : String} :
    x ∈ steps.filterMap Step.dir? ↔ x ≠ "" ∧ ∃ y, .excludeDir y ∈ steps ∧ Unslashed y x := by
  rw [List.mem_filterMap]
  constructor
  · intro ⟨s, taken, picked⟩
    cases s with
    | includeExtension y => simp [Step.dir?] at picked
    | excludeDir y =>
      obtain ⟨filled, trimmed⟩ := countedIff.mp picked
      exact ⟨filled, y, taken, (innerUnslashed filled).mp trimmed⟩
    | skipFile p => simp [Step.dir?] at picked
  · intro ⟨filled, y, taken, trimmed⟩
    exact ⟨_, taken, countedIff.mpr ⟨filled, (innerUnslashed filled).mpr trimmed⟩⟩

theorem comparePaths {p q : Path} : p.compare q = .eq ↔ p.components = q.components := by
  rw [Path.compare, Std.LawfulEqCmp.compare_eq_iff_eq]

theorem textsAscending (xs : List String) :
    (Ordered.ofList textOrder xs).Pairwise fun a b => bytesOf a.toList < bytesOf b.toList := by
  have ascending := Ordered.ofListAscending textOrder xs
  exact ascending.imp Path.compareTextLt.mp

theorem skippedFirst {ps : List Path} {p : Path} (member : p ∈ ps) :
    ∃ m, ps.find? (·.components = p.components) = some m ∧
      (Ordered.ofList Path.compare ps).filter (·.components = p.components) = [m] := by
  have ranked := Ordered.ofListRank Path.compare p ps
  simp only [comparePaths] at ranked
  cases first : ps.find? (·.components = p.components) with
  | none => simpa using List.find?_eq_none.mp first p member
  | some m => exact ⟨m, rfl, by rw [ranked, first, Option.toList_some]⟩

theorem gatheredAlike {steps others : List Step} (taken : ∀ s, s ∈ others ↔ s ∈ steps) :
    (gathered others).extensions = (gathered steps).extensions ∧
      (gathered others).excludedDirs = (gathered steps).excludedDirs ∧
      (gathered others).skipped.map Path.components = (gathered steps).skipped.map Path.components := by
  have picked : ∀ {α : Type} (pick : Step → Option α) (x : α),
      x ∈ others.filterMap pick ↔ x ∈ steps.filterMap pick := by
    intro α pick x
    simp only [List.mem_filterMap, taken]
  have keyed : ∀ ps : List Path, (Ordered.ofList Path.compare ps).map Path.components =
      Ordered.ofList Path.compareComponents (ps.map Path.components) :=
    Ordered.ofListKeys Path.components
  simp only [gatheredSets, keyed]
  refine ⟨Ordered.ofListExt (picked _), Ordered.ofListExt (picked _), Ordered.ofListExt ?_⟩
  intro c
  simp only [List.mem_map, picked]

/-- The sets of a filter are told by the steps that built it. Extensions and directories ascend by
their bytes and are what is left of the texts that were asked for, unless nothing is. The paths to be
skipped ascend by their components, no two with the same; for each that was asked for there is one,
spelled as it was at first. Other steps of which the same are taken, in any order and any number of
times, lead to an equal filter that answers alike. -/
theorem setsCanonical (steps : List Step) :
    let f := gathered steps
    let paths := steps.filterMap Step.path?
    (f.extensions.Pairwise (fun a b => bytesOf a.toList < bytesOf b.toList) ∧
        ∀ x, x ∈ f.extensions ↔ x ≠ "" ∧ ∃ y, .includeExtension y ∈ steps ∧ Undotted y x) ∧
      (f.excludedDirs.Pairwise (fun a b => bytesOf a.toList < bytesOf b.toList) ∧
        ∀ x, x ∈ f.excludedDirs ↔ x ≠ "" ∧ ∃ y, .excludeDir y ∈ steps ∧ Unslashed y x) ∧
      (f.skipped.Pairwise Path.Before ∧
        f.skipped.Pairwise (fun p q => p.components ≠ q.components) ∧
        (∀ p ∈ paths, ∃ m, paths.find? (·.components = p.components) = some m ∧
          f.skipped.filter (·.components = p.components) = [m]) ∧
        f.skipped ⊆ paths) ∧
      ∀ others : List Step, (∀ s, s ∈ others ↔ s ∈ steps) →
        (∀ path, (gathered others).includesFile path = f.includesFile path) ∧
          (∀ name, (gathered others).excludesDir name = f.excludesDir name) ∧
          (gathered others).same f = true := by
  intro f paths
  have sets : f = _ := gatheredSets steps
  refine ⟨?_, ?_, ?_, ?_⟩
  · rw [sets]
    refine ⟨textsAscending _, fun x => ?_⟩
    rw [Ordered.memOfListExact, memExtensions]
  · rw [sets]
    refine ⟨textsAscending _, fun x => ?_⟩
    rw [Ordered.memOfListExact, memDirs]
  · rw [sets]
    have ascending := Ordered.ofListAscending Path.compare paths
    refine ⟨ascending.imp Path.compareComponentsLt.mp, ascending.imp ?_, fun p => skippedFirst,
      Ordered.ofListSubset Path.compare paths⟩
    intro p q less same
    rw [comparePaths.mpr same] at less
    contradiction
  · intro others taken
    obtain ⟨extensions, dirs, skipped⟩ := gatheredAlike taken
    refine ⟨fun path => ?_, fun name => ?_, ?_⟩
    · rw [includesFile, extensions, includesFile]
    · rw [excludesDir, dirs, excludesDir]
    · have unread : ∀ steps, (gathered steps).gitignore = false := fun steps => by rw [gatheredSets]
      simp [same, extensions, dirs, skipped, unread, f]

def mixed : List Step :=
  [.includeExtension "..dart", .skipFile ⟨"a//b"⟩, .excludeDir "\\build/", .includeExtension "...",
    .skipFile ⟨"a.b"⟩, .skipFile ⟨"a/./b/"⟩, .includeExtension "dart", .skipFile ⟨"./a/b"⟩,
    .includeExtension "c.", .excludeDir "/\\"]

theorem setsCanonicalMixed :
    (∀ s, s ∈ mixed.reverse ++ mixed ↔ s ∈ mixed) ∧
      (gathered (mixed.reverse ++ mixed)).same (gathered mixed) = true ∧
      (gathered mixed).skipped = [⟨"./a/b"⟩, ⟨"a//b"⟩, ⟨"a.b"⟩] ∧
      (gathered (mixed.reverse ++ mixed)).skipped = [⟨"./a/b"⟩, ⟨"a/./b/"⟩, ⟨"a.b"⟩] := by
  have taken : ∀ s, s ∈ mixed.reverse ++ mixed ↔ s ∈ mixed := by simp
  exact ⟨taken, ((setsCanonical mixed).2.2.2 _ taken).2.2, by decide +kernel, by decide +kernel⟩

end Filter

end Codemod
