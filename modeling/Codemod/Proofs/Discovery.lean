import Codemod.Proofs.Course
import Codemod.Proofs.Report
import Mathlib.Data.List.Basic

/-!
What a discovery yields. All its files are regular ones and lie at different places, and no two of
its outcomes are for the same path, except for what is told in front of the root. So neither the
order in which the files are taken up nor the order in which outcomes are recorded can show.
-/
namespace Codemod

namespace Migration

open Walk

def files (items : List WalkItem) : List FileEntry := (items.filterMap found?).filterMap foundFile?

@[simp] theorem filesNil : files [] = [] := rfl

@[simp] theorem filesFile (e : FileEntry) (items : List WalkItem) :
    files (.file e :: items) = e :: files items := rfl

@[simp] theorem filesSkipped (path : Path) (reason : SkipReason) (items : List WalkItem) :
    files (.skipped path reason :: items) = files items := rfl

@[simp] theorem filesFailed (e : DiscoveryError) (items : List WalkItem) :
    files (.failed e :: items) = files items := rfl

@[simp] theorem filesAppend (items more : List WalkItem) :
    files (items ++ more) = files items ++ files more := by
  rw [files, List.filterMap_append, List.filterMap_append]
  rfl

theorem memFiles {e : FileEntry} {items : List WalkItem} : e ∈ files items ↔ .file e ∈ items := by
  induction items with
  | nil => simp
  | cons item rest ih => cases item <;> simp [ih]

def outcomeIn (m : Migration) (t : Tree) (root : Path) : Found → FileOutcome
  | .ok e => ⟨e.path, e.relative, m.outcomeOf e.relative (t.read e.path)⟩
  | .error e => walkFailure root e

def concerns (root : Path) : Found → Path
  | .ok e => e.path
  | .error e => (walkFailure root e).path

theorem outcomeConcerns (m : Migration) (t : Tree) (root : Path) (found : Found) :
    (m.outcomeIn t root found).path = concerns root found := by
  cases found <;> rfl

def Distinct (root : Path) (found : List Found) : Prop :=
  found.Pairwise fun a b => (concerns root a).components ≠ (concerns root b).components

theorem Distinct.outcomes {root : Path} {found : List Found} (distinct : Distinct root found)
    (m : Migration) (t : Tree) :
    (found.map (m.outcomeIn t root)).Pairwise fun a b => FileOutcome.compare a b ≠ .eq := by
  refine FileOutcome.pairwiseOfPaths ?_
  simpa [List.pairwise_map, outcomeConcerns, Distinct] using distinct

/-- One failure may be told in front. Of the rest no two concern the same path. -/
def Orderly (root : Path) (found : List Found) : Prop :=
  ∃ (told : Option DiscoveryError) (rest : List Found),
    found = told.toList.map .error ++ rest ∧ Distinct root rest

theorem Distinct.orderly {root : Path} {found : List Found} (distinct : Distinct root found) :
    Orderly root found :=
  ⟨none, found, rfl, distinct⟩

theorem Orderly.front {root : Path} {found more : List Found} (orderly : Orderly root (found ++ more)) :
    Orderly root found := by
  obtain ⟨told, rest, same, distinct⟩ := orderly
  cases told with
  | none =>
    obtain rfl : found ++ more = rest := same
    exact Distinct.orderly (List.pairwise_append.mp distinct).1
  | some e =>
    cases found with
    | nil => exact ⟨none, [], rfl, .nil⟩
    | cons one found =>
      obtain ⟨rfl, rfl⟩ : one = .error e ∧ found ++ more = rest := by simpa using same
      exact ⟨some e, found, rfl, (List.pairwise_append.mp distinct).1⟩

/-- Files that are no links and of which no two are the same file, and failures. -/
structure Stream (t : Tree) (root : Path) (found : List Found) : Prop where
  direct : ∀ e ∈ found.filterMap foundFile?, t.Direct e.path
  apart : (found.filterMap foundFile?).Pairwise fun d e => t.Apart d.path e.path
  orderly : Orderly root found

structure Discovered (t : Tree) (root : Path) (items : List WalkItem) : Prop extends
    Stream t root (items.filterMap found?) where
  relative : ∀ e ∈ files items, e.relative = RelPath.relativeTo root e.path

variable {m : Migration} {w : Walk} {t u last : Tree} {root : Path} {top : Location}
  {items : List WalkItem}

theorem foundFilter (items : List WalkItem) :
    (items.filter isFound).filterMap found? = items.filterMap found? := by
  rw [List.filterMap_filter]
  congr 1
  funext item
  cases item <;> rfl

theorem shownNames {item : WalkItem} {ns : List String} (sound : t.Sound)
    (shown : Shown t root top item ns) : ∀ n ∈ ns, Path.IsName n.toList := by
  cases shown with
  | file down there => exact belowProper sound there
  | failed there => exact belowProper sound there

theorem fileApart {ns ms : List String} {c d : Bytes} {r q : Nat} (sound : t.Sound)
    (found : t.find root = .ok top) (one : t.get? (top ++ ns) = some (.file c r))
    (other : t.get? (top ++ ms) = some (.file d q)) (different : ns ≠ ms) :
    t.Apart (root.descend ns) (root.descend ms) := by
  intro l
  rw [Tree.findDescend sound found one (by simp [Tree.kindOf]),
    Tree.findDescend sound found other (by simp [Tree.kindOf])]
  intro here there
  split at here <;> try contradiction
  split at there <;> try contradiction
  rw [← Except.ok.inj there] at here
  exact different (List.append_cancel_left (Except.ok.inj here))

theorem shownConcerns {item : WalkItem} {ns : List String} (shown : Shown t root top item ns) :
    ∃ found, found? item = some found ∧ concerns root found = root.descend ns := by
  cases shown with
  | file down there => exact ⟨_, rfl, rfl⟩
  | failed there => exact ⟨_, rfl, rfl⟩

theorem shownFile {item : WalkItem} {ns : List String} {e : FileEntry}
    (shown : Shown t root top item ns) (isOne : (found? item).bind foundFile? = some e) :
    ns ≠ [] ∧ e = .of root (root.descend ns) ∧
      ∃ content mode, t.get? (top ++ ns) = some (.file content mode) := by
  cases shown with
  | file down there => exact ⟨down, (Option.some.inj isOne).symm, _, _, there⟩
  | failed there => cases isOne

theorem Sighted.listed {shown : List (WalkItem × List String)}
    (sighted : Sighted t root top items shown) :
    items.filterMap found? = shown.filterMap fun s => found? s.1 := by
  rw [← foundFilter, ← sighted.same, List.filterMap_map]
  rfl

theorem Sighted.entries {shown : List (WalkItem × List String)}
    (sighted : Sighted t root top items shown) :
    ∃ named : List (List String), files items = named.map (fun ns => .of root (root.descend ns)) ∧
      named.Pairwise Before ∧
      ∀ ns ∈ named, ns ≠ [] ∧ ∃ content mode, t.get? (top ++ ns) = some (.file content mode) := by
  refine ⟨shown.filterMap fun s => ((found? s.1).bind foundFile?).map fun _ => s.2, ?_, ?_, ?_⟩
  · rw [files, sighted.listed, List.filterMap_filterMap, List.map_filterMap]
    refine List.filterMap_congr fun s hs => ?_
    cases isOne : (found? s.1).bind foundFile? with
    | none => rfl
    | some e => simp [(shownFile (sighted.each s hs) isOne).2.1]
  · refine List.pairwise_filterMap.mpr (sighted.ordered.imp ?_)
    intro s r before ns hn ms hm
    obtain ⟨-, -, rfl⟩ := Option.map_eq_some_iff.mp hn
    obtain ⟨-, -, rfl⟩ := Option.map_eq_some_iff.mp hm
    exact before
  · intro ns hn
    obtain ⟨s, hs, isNamed⟩ := List.mem_filterMap.mp hn
    obtain ⟨e, isOne, rfl⟩ := Option.map_eq_some_iff.mp isNamed
    obtain ⟨down, -, file⟩ := shownFile (sighted.each s hs) isOne
    exact ⟨down, file⟩

theorem Sighted.distinct {shown : List (WalkItem × List String)} (sound : t.Sound)
    (found : t.find root = .ok top) (sighted : Sighted t root top items shown) :
    Distinct root (items.filterMap found?) := by
  rw [Distinct, sighted.listed, List.pairwise_filterMap]
  refine sighted.ordered.imp_of_mem ?_
  intro s r hs hr before a ha b hb same
  have one := sighted.each s hs
  have two := sighted.each r hr
  obtain ⟨x, hx, here⟩ := shownConcerns one
  obtain ⟨y, hy, there⟩ := shownConcerns two
  cases ha.symm.trans hx
  cases hb.symm.trans hy
  rw [here, there] at same
  exact before.ne (Path.descendNames (Tree.findLeads found).given (shownNames sound one)
    (shownNames sound two) same)

theorem filesBehind (t : Tree) (w : Walk) (items : List WalkItem) :
    files ((above? t w).toList ++ items) = files items := by
  cases told : above? t w with
  | none => rfl
  | some item =>
    obtain ⟨e, rfl⟩ := aboveFailed told
    rfl

theorem orderlyAbove (t : Tree) (w : Walk) (distinct : Distinct root (items.filterMap found?)) :
    Orderly root (((above? t w).toList ++ items).filterMap found?) := by
  cases told : above? t w with
  | none => exact distinct.orderly
  | some item =>
    obtain ⟨e, rfl⟩ := aboveFailed told
    exact ⟨some e, _, rfl, distinct⟩

theorem Sighted.discovered {shown : List (WalkItem × List String)} (sound : t.Sound)
    (found : t.find root = .ok top) (sighted : Sighted t root top items shown) :
    Discovered t root ((above? t w).toList ++ items) := by
  obtain ⟨named, entries, ordered, each⟩ := sighted.entries
  rw [← filesBehind t w] at entries
  refine ⟨⟨?_, ?_, orderlyAbove t w (sighted.distinct sound found)⟩, ?_⟩
  · intro e he
    rw [← files, entries] at he
    obtain ⟨ns, hn, rfl⟩ := List.mem_map.mp he
    obtain ⟨down, content, mode, there⟩ := each ns hn
    exact fileDirect sound found down there
  · rw [← files, entries, List.pairwise_map]
    refine ordered.imp_of_mem ?_
    intro ns ms hn hm before
    obtain ⟨-, _, _, one⟩ := each ns hn
    obtain ⟨-, _, _, other⟩ := each ms hm
    exact fileApart sound found one other before.ne
  · intro e he
    rw [entries] at he
    obtain ⟨ns, -, rfl⟩ := List.mem_map.mp he
    rfl

theorem courseSighted {es : Directory} {os : List FileOutcome} (sound : t.Sound)
    (found : t.find root = .ok top) (dir : t.get? top = some (.dir es)) (own : w.root = root)
    (course : Course m w t [.root] items os last) :
    ∃ shown, Sighted t root top items shown := by
  have planned : Planned t root top [(.root, [])] := ⟨by simpa using .root, by simp⟩
  obtain ⟨shown, sighted, -⟩ := course.shown sound found dir own rfl planned rfl
  exact ⟨shown, sighted⟩

def Admits (w : Walk) (e : FileEntry) : Prop :=
  w.filter.includesFile e.path = true ∧ e.relative ∉ w.skipped

theorem fileItemAdmits {path : Path} {e : FileEntry} (shown : fileItem w path = .file e) :
    Admits w e := by
  simp only [fileItem] at shown
  split at shown
  · contradiction
  next included =>
  split at shown
  · contradiction
  next unlisted =>
  cases shown
  exact ⟨by simpa [FileEntry.of] using included, by simpa using unlisted⟩

theorem visitAdmits {v : Visit} {more : List Visit} {e : FileEntry}
    (visited : visit t w v = (some (.file e), more)) : Admits w e := by
  cases v with
  | above =>
    obtain ⟨d, other⟩ := aboveFailed (congrArg Prod.fst visited)
    cases other
  | root =>
    have shown : (rootItem t w).1 = .file e := Option.some.inj (congrArg Prod.fst visited)
    unfold rootItem at shown
    split at shown
    · contradiction
    split at shown <;> try contradiction
    · exact fileItemAdmits shown
    · split at shown <;> contradiction
  | fault path io => simp [visit, fault] at visited
  | entry path name kind levels =>
    rcases visitEntry visited with ⟨-, none', -⟩ | ⟨-, ⟨-, dir, -⟩ | ⟨-, link, -⟩ | ⟨-, file, -⟩⟩
    · contradiction
    · cases dir
    · cases link
    · exact fileItemAdmits (Option.some.inj file).symm

theorem Course.admits {agenda : List Visit} {os : List FileOutcome}
    (course : Course m w t agenda items os last) : ∀ e ∈ files items, Admits w e := by
  induction course with
  | done t => simp
  | @visit t u last v rest more item? items os outcomes visited taken next ih =>
    intro e he
    rw [filesAppend] at he
    rcases List.mem_append.mp he with own | later
    · cases item? with
      | none => simp at own
      | some item =>
        cases item with
        | skipped path reason => simp at own
        | failed d => simp at own
        | file d =>
          obtain rfl : e = d := by simpa using own
          exact visitAdmits visited
    · exact ih e later

theorem courseDiscovered {f : Filter} {os : List FileOutcome} (sound : t.Sound)
    (started : Walk.start t root f = .ok w) (course : Course m w t w.agenda items os last) :
    Discovered t root items := by
  obtain ⟨rfl, top, es, found, dir⟩ := startFrom started
  obtain ⟨items, ps, below, rfl⟩ := course.behind
  obtain ⟨shown, sighted⟩ := courseSighted sound found dir rfl below
  exact sighted.discovered sound found

end Migration

end Codemod
