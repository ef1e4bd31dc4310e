import Codemod.Proofs.Lookup
import Codemod.Proofs.Order
import Codemod.Proofs.Utf8
import Codemod.Walk

/-!
One visit of a walk. What is to be visited stands for an entry below the root and is known by the
names on the way down to it. The visit of a directory puts its entries in its place, in the order of
the bytes of their names, so that whatever is shown later stands behind what is shown now.
-/
namespace Codemod

/-- The order of a walk: at the first names that differ the bytes decide. -/
def Before (a b : List String) : Prop :=
  ∃ above x y u v, a = above ++ x :: u ∧ b = above ++ y :: v ∧ bytesOf x.toList < bytesOf y.toList

namespace Before

variable {a b : List String}

theorem deeper (before : Before a b) (c d : List String) : Before (a ++ c) (b ++ d) := by
  obtain ⟨above, x, y, u, v, rfl, rfl, less⟩ := before
  exact ⟨above, x, y, u ++ c, v ++ d, by simp, by simp, less⟩

theorem ne (before : Before a b) : a ≠ b := by
  obtain ⟨above, x, y, u, v, rfl, rfl, less⟩ := before
  intro same
  have names : x = y ∧ u = v := by simpa using same
  rw [names.1] at less
  exact List.lt_irrefl _ less

theorem siblings (above : List String) {x y : String} (less : bytesOf x.toList < bytesOf y.toList) :
    Before (above ++ [x]) (above ++ [y]) := ⟨above, x, y, [], [], rfl, rfl, less⟩

end Before

namespace Tree

variable {es : Directory}

theorem lookupUnique {name : String} {node : Node} (unique : (es.map Prod.fst).Nodup)
    (mem : (name, node) ∈ es) : List.lookup name es = some node := by
  induction es with
  | nil => simp at mem
  | cons d rest ih =>
    obtain ⟨other, n⟩ := d
    simp only [List.map_cons, List.nodup_cons] at unique
    rw [Node.lookupCons]
    rcases List.mem_cons.mp mem with same | later
    · cases same
      simp
    · rw [if_neg, ih unique.2 later]
      rintro rfl
      exact unique.1 (List.mem_map_of_mem later)

theorem listingMem {x : String × Kind} (unique : (es.map Prod.fst).Nodup)
    (mem : x ∈ Ordered.sort nameLE (es.map fun e => (e.1, kindOf e.2))) :
    ∃ node, List.lookup x.1 es = some node ∧ kindOf node = x.2 := by
  rw [Ordered.sortInsertion, List.mem_insertionSort] at mem
  obtain ⟨e, he, rfl⟩ := List.mem_map.mp mem
  exact ⟨e.2, lookupUnique unique he, rfl⟩

theorem memListing {name : String} {node : Node} (found : List.lookup name es = some node) :
    (name, kindOf node) ∈ Ordered.sort nameLE (es.map fun e => (e.1, kindOf e.2)) := by
  rw [Ordered.sortInsertion, List.mem_insertionSort]
  exact List.mem_map.mpr ⟨_, Node.lookupMem found, rfl⟩

theorem listingOrder (unique : (es.map Prod.fst).Nodup) :
    (Ordered.sort nameLE (es.map fun e => (e.1, kindOf e.2))).Pairwise fun x y =>
      bytesOf x.1.toList < bytesOf y.1.toList := by
  have order : Std.TransCmp Path.compareText := inferInstance
  have trans : IsTrans (String × Kind) (nameLE · ·) := ⟨fun _ _ _ ab bc => order.isLE_trans ab bc⟩
  have total : Std.Total fun a b : String × Kind => nameLE a b = true := by
    refine ⟨fun a b => ?_⟩
    have swap : Path.compareText b.1.toList a.1.toList =
        (Path.compareText a.1.toList b.1.toList).swap := Std.OrientedCmp.eq_swap
    simp only [nameLE, swap]
    cases Path.compareText a.1.toList b.1.toList <;> simp
  rw [Ordered.sortInsertion]
  have sorted := List.pairwise_insertionSort (nameLE · ·) (es.map fun e => (e.1, kindOf e.2))
  have names := ((List.perm_insertionSort (nameLE · ·) (es.map fun e => (e.1, kindOf e.2))).map
    Prod.fst).nodup_iff.mpr (by simpa [Function.comp_def] using unique)
  refine (sorted.and (List.pairwise_map.mp names)).imp ?_
  rintro x y ⟨le, different⟩
  refine textBytesLt ?_
  cases first : Path.compareText x.1.toList y.1.toList with
  | lt => rfl
  | eq => exact absurd (String.toList_injective (Std.LawfulEqCmp.eq_of_compare first)) different
  | gt => simp [nameLE, first] at le

end Tree

namespace Walk

def visit (t : Tree) (w : Walk) : Visit → Option WalkItem × List Visit
  | .above => (above? t w, [])
  | .root => (some (rootItem t w).1, (rootItem t w).2)
  | .fault path e => (some (fault path e), [])
  | .entry path name kind levels =>
    if passesOver w.filter path name kind levels then (none, [])
    else match kind with
      | .dir => (some (.skipped path .notAFile), children t w.filter path levels)
      | .link => (some (.skipped path .notAFile), [])
      | .file => (some (fileItem w path), [])

theorem nextOfVisit (t : Tree) (w : Walk) (v : Visit) (rest : List Visit) :
    nextOf t w (v :: rest) =
      match visit t w v with
      | (none, more) => nextOf t w (more ++ rest)
      | (some item, more) => some (item, more ++ rest) := by
  cases v with
  | above =>
    simp only [nextOf, visit]
    cases above? t w <;> rfl
  | root => rfl
  | fault path e => rfl
  | entry path name kind levels =>
    simp only [nextOf, visit]
    split
    · rfl
    · cases kind <;> rfl

/-- The walk of a root before its first visit. -/
abbrev fresh (t : Tree) (root : Path) (f : Filter) : Walk :=
  ⟨root, f, skipList t root f, [.above, .root]⟩

theorem aboveFailed {t : Tree} {w : Walk} {item : WalkItem} (told : above? t w = some item) :
    ∃ e, item = .failed e := by
  unfold above? at told
  split at told
  · obtain ⟨x, -, rfl⟩ := Option.map_eq_some_iff.mp told
    exact ⟨_, rfl⟩
  · contradiction

theorem aboveOff {t : Tree} {w : Walk} (off : w.filter.gitignore = false) : above? t w = none := by
  simp [above?, off]

theorem visitEntry {t : Tree} {w : Walk} {path : Path} {name : String} {kind : Tree.Kind}
    {levels : List Ignore.Level} {item? : Option WalkItem} {more : List Visit}
    (visited : visit t w (.entry path name kind levels) = (item?, more)) :
    (passesOver w.filter path name kind levels = true ∧ item? = none ∧ more = []) ∨
      passesOver w.filter path name kind levels = false ∧
        ((kind = .dir ∧ item? = some (.skipped path .notAFile) ∧
            more = children t w.filter path levels) ∨
          (kind = .link ∧ item? = some (.skipped path .notAFile) ∧ more = []) ∨
          (kind = .file ∧ item? = some (fileItem w path) ∧ more = [])) := by
  cases passed : passesOver w.filter path name kind levels with
  | true =>
    simp only [visit, passed, if_true, Prod.mk.injEq] at visited
    exact .inl ⟨rfl, visited.1.symm, visited.2.symm⟩
  | false =>
    refine .inr ⟨rfl, ?_⟩
    simp only [visit, passed, Bool.false_eq_true, if_false] at visited
    cases kind <;> cases visited <;> simp

def inner (t : Tree) (f : Filter) (dir : Path) (levels : List Ignore.Level) : List Ignore.Level :=
  if f.gitignore then level t dir :: levels else levels

theorem childrenOf (t : Tree) (f : Filter) (dir : Path) (levels : List Ignore.Level) :
    children t f dir levels =
      match t.list dir with
      | .error e => [.fault dir e]
      | .ok es => es.map fun x => .entry (dir.join ⟨x.1⟩) x.1 x.2 (inner t f dir levels) := rfl

theorem childrenBelow {t : Tree} {f : Filter} {dir : Path} {levels : List Ignore.Level} :
    ∀ v ∈ children t f dir levels, v ≠ .above ∧ v ≠ .root := by
  rw [childrenOf]
  intro v hv
  split at hv
  · rw [List.mem_singleton.mp hv]
    simp
  · obtain ⟨x, -, rfl⟩ := List.mem_map.mp hv
    simp

theorem rootBelow {t : Tree} {w : Walk} : ∀ v ∈ (rootItem t w).2, v ≠ .above ∧ v ≠ .root := by
  unfold rootItem
  split
  · simp
  split
  · simp
  · simp
  · split
    · simp
    · split
      · exact childrenBelow
      · simp
  · exact childrenBelow

theorem visitBelow {t : Tree} {w : Walk} {v : Visit} {more : List Visit} {item? : Option WalkItem}
    (visited : visit t w v = (item?, more)) : ∀ x ∈ more, x ≠ .above ∧ x ≠ .root := by
  cases v with
  | above =>
    cases visited
    simp
  | root =>
    cases visited
    exact rootBelow
  | fault path e =>
    cases visited
    simp
  | entry path name kind levels =>
    rcases visitEntry visited with ⟨-, -, rfl⟩ | ⟨-, ⟨-, -, rfl⟩ | ⟨-, -, rfl⟩ | ⟨-, -, rfl⟩⟩
    · simp
    · exact childrenBelow
    · simp
    · simp

/-- A visit and the names on the way down from the root to what it stands for. -/
inductive Stands (t : Tree) (root : Path) (top : Location) : Visit → List String → Prop where
  | root : Stands t root top .root []
  | entry {ns : List String} {name : String} {node : Node} {levels : List Ignore.Level}
      (there : t.get? (top ++ (ns ++ [name])) = some node) :
      Stands t root top (.entry (root.descend (ns ++ [name])) name (Tree.kindOf node) levels)
        (ns ++ [name])
  | fault {ns : List String} {node : Node} {e : IoError}
      (there : t.get? (top ++ ns) = some node) (folder : Tree.kindOf node = .dir) :
      Stands t root top (.fault (root.descend ns) e) ns

inductive Shown (t : Tree) (root : Path) (top : Location) : WalkItem → List String → Prop where
  | file {ns : List String} {content : Bytes} {mode : Nat} (down : ns ≠ [])
      (there : t.get? (top ++ ns) = some (.file content mode)) :
      Shown t root top (.file (.of root (root.descend ns))) ns
  | failed {ns : List String} {node : Node} {e : IoError}
      (there : t.get? (top ++ ns) = some node) (folder : Tree.kindOf node = .dir) :
      Shown t root top (fault (root.descend ns) e) ns

structure Planned (t : Tree) (root : Path) (top : Location) (stops : List (Visit × List String)) :
    Prop where
  stands : ∀ s ∈ stops, Stands t root top s.1 s.2
  ordered : stops.Pairwise fun s r => Before s.2 r.2

section Visits

variable {t u : Tree} {root : Path} {top : Location} {w : Walk}

theorem beforeBelow {a b c d : List String} (before : Before a b) (left : a <+: c) (right : b <+: d) :
    Before c d := by
  obtain ⟨more, rfl⟩ := left
  obtain ⟨rest, rfl⟩ := right
  exact before.deeper more rest

theorem Planned.replace {v : Visit} {a : List String} {inside rest : List (Visit × List String)}
    (planned : Planned t root top ((v, a) :: rest)) (within : Planned t root top inside)
    (below : ∀ s ∈ inside, a <+: s.2) : Planned t root top (inside ++ rest) := by
  obtain ⟨first, later⟩ := List.pairwise_cons.mp planned.ordered
  refine ⟨?_, List.pairwise_append.mpr ⟨within.ordered, later, ?_⟩⟩
  · intro s hs
    rcases List.mem_append.mp hs with own | behind
    · exact within.stands s own
    · exact planned.stands s (List.mem_cons_of_mem _ behind)
  · intro s hs r hr
    exact beforeBelow (first r hr) (below s hs) (List.prefix_refl _)

theorem listDescend {ns : List String} {es : Directory} (sound : t.Sound)
    (found : t.find root = .ok top) (dir : t.get? (top ++ ns) = some (.dir es)) :
    t.list (root.descend ns) =
      if Tree.pathLimit ≤ (root.descend ns).text.utf8ByteSize then .error .nameTooLong
      else .ok (Ordered.sort Tree.nameLE (es.map fun e => (e.1, Tree.kindOf e.2))) := by
  rw [Tree.listOf, Tree.lookOf, Tree.findDescend sound found dir (by simp [Tree.kindOf])]
  split
  · rfl
  · simp [Except.bind, Tree.nodeAt, dir, Tree.listingOf]

theorem listClosed {ns : List String} {es : Directory} (sound : t.Sound)
    (found : t.find root = .ok top) (closed : t.get? (top ++ ns) = some (.closed es)) :
    ∃ e, t.list (root.descend ns) = .error e := by
  rw [Tree.listOf, Tree.lookOf, Tree.findDescend sound found closed (by simp [Tree.kindOf])]
  split
  · exact ⟨_, rfl⟩
  · exact ⟨.denied, by simp [Except.bind, Tree.nodeAt, closed, Tree.listingOf]⟩

theorem belowProper {ns : List String} {node : Node} (sound : t.Sound)
    (there : t.get? (top ++ ns) = some node) : ∀ n ∈ ns, Path.IsName n.toList := fun n hn =>
  (Tree.isNameProper ((Node.soundGet sound there).2 n (List.mem_append_right _ hn))).1

theorem dirSound {l : Location} {es : Directory} (sound : t.Sound) (dir : t.get? l = some (.dir es)) :
    (es.map Prod.fst).Nodup := by
  have own := (Node.soundGet sound dir).1
  simp only [Node.isSound, Bool.and_eq_true, decide_eq_true_eq] at own
  exact own.1

theorem childrenFault {ns : List String} {node : Node} {e : IoError}
    (there : t.get? (top ++ ns) = some node) (folder : Tree.kindOf node = .dir)
    (failed : u.list (root.descend ns) = .error e) (f : Filter) (levels : List Ignore.Level) :
    ∃ stops, children u f (root.descend ns) levels = stops.map Prod.fst ∧
      Planned t root top stops ∧ ∀ s ∈ stops, ns <+: s.2 := by
  refine ⟨[(.fault (root.descend ns) e, ns)], by simp [childrenOf, failed], ⟨?_, by simp⟩, by simp⟩
  simpa using Stands.fault there folder

theorem childrenPlanned {ns : List String} {node : Node} (sound : t.Sound)
    (found : t.find root = .ok top) (there : t.get? (top ++ ns) = some node)
    (folder : Tree.kindOf node = .dir) (blanks : t.blank = u.blank) (f : Filter)
    (levels : List Ignore.Level) :
    ∃ stops, children u f (root.descend ns) levels = stops.map Prod.fst ∧
      Planned t root top stops ∧ ∀ s ∈ stops, ns <+: s.2 := by
  have listed := Tree.listSame blanks (root.descend ns)
  cases node with
  | file content mode => cases folder
  | link target => cases folder
  | closed es =>
    obtain ⟨e, failed⟩ := listClosed sound found there
    exact childrenFault there folder (listed.symm.trans failed) f levels
  | dir es =>
    rw [listDescend sound found there] at listed
    split at listed
    · exact childrenFault there folder listed.symm f levels
    have unique := dirSound sound there
    refine ⟨(Ordered.sort Tree.nameLE (es.map fun e => (e.1, Tree.kindOf e.2))).map fun x =>
      (.entry (root.descend (ns ++ [x.1])) x.1 x.2 (inner u f (root.descend ns) levels),
        ns ++ [x.1]), ?_, ⟨?_, ?_⟩, ?_⟩
    · simp [childrenOf, ← listed, Path.descendSnoc]
    · intro s hs
      obtain ⟨x, hx, rfl⟩ := List.mem_map.mp hs
      obtain ⟨node, entry, kind⟩ := Tree.listingMem unique hx
      rw [← kind]
      refine Stands.entry ?_
      rw [← List.append_assoc, Tree.getStep there, entry]
    · rw [List.pairwise_map]
      exact (Tree.listingOrder unique).imp fun less => Before.siblings ns less
    · intro s hs
      obtain ⟨x, hx, rfl⟩ := List.mem_map.mp hs
      exact List.prefix_append ns [x.1]

theorem rootItemOf {es : Directory} (found : t.find root = .ok top)
    (dir : t.get? top = some (.dir es)) (blanks : t.blank = u.blank) (own : w.root = root) :
    rootItem u w =
      if root.components = [.name ['-']] then (.skipped ⟨"<stdin>"⟩ .notAFile, [])
      else (.skipped root .notAFile, children u w.filter root []) := by
  obtain ⟨fs, there⟩ := Tree.dirSame blanks dir
  obtain ⟨k, named, kind⟩ := Tree.findLinkOf found
  rw [Tree.findSame blanks] at found
  rw [Tree.findLinkSame blanks] at named
  simp only [rootItem, own]
  split
  · rfl
  rcases kind with rfl | ⟨target, link⟩
  · have looked : u.lookLink root = .ok (.dir fs) := by
      simp [Tree.lookLinkOf, named, Except.bind, Tree.nodeAt, there]
    simp [looked]
  · have looked : u.lookLink root = .ok (.link target) := by
      simp [Tree.lookLinkOf, named, Except.bind, Tree.nodeAt, Tree.linkSame blanks link]
    have leads : u.look root = .ok (.dir fs) := by
      simp [Tree.lookOf, found, Except.bind, Tree.nodeAt, there]
    simp [looked, leads, Node.isDir]

def isFound : WalkItem → Bool
  | .skipped _ _ => false
  | _ => true

theorem fileItemCases (w : Walk) (path : Path) :
    (∃ reason, fileItem w path = .skipped path reason) ∨
      fileItem w path = .file (.of w.root path) := by
  simp only [fileItem]
  split
  · exact .inl ⟨_, rfl⟩
  · split
    · exact .inl ⟨_, rfl⟩
    · exact .inr rfl

/- The step: a visit shows at most what it stands for, and puts in its place what is below. -/
theorem visitPlanned {es : Directory} {v : Visit} {a : List String} {item? : Option WalkItem}
    {more : List Visit} (sound : t.Sound) (found : t.find root = .ok top)
    (dir : t.get? top = some (.dir es)) (blanks : t.blank = u.blank) (own : w.root = root)
    (stands : Stands t root top v a) (visited : visit u w v = (item?, more)) :
    ∃ stops, more = stops.map Prod.fst ∧ Planned t root top stops ∧ (∀ s ∈ stops, a <+: s.2) ∧
      ∀ item, item? = some item → isFound item → Shown t root top item a ∧ stops = [] := by
  have nothing : Planned t root top [] := ⟨by simp, .nil⟩
  cases stands with
  | root =>
    simp only [visit, rootItemOf found dir blanks own, Prod.mk.injEq] at visited
    obtain ⟨rfl, rfl⟩ := visited
    split
    · exact ⟨[], rfl, nothing, by simp, by simp [isFound]⟩
    · obtain ⟨stops, list, planned, -⟩ :=
        childrenPlanned sound found (by simpa using dir : t.get? (top ++ []) = _) rfl blanks w.filter []
      exact ⟨stops, list, planned, by simp, by simp [isFound]⟩
  | fault there folder =>
    simp only [visit, Prod.mk.injEq] at visited
    obtain ⟨rfl, rfl⟩ := visited
    refine ⟨[], rfl, nothing, by simp, ?_⟩
    rintro item ⟨⟩ -
    exact ⟨.failed there folder, rfl⟩
  | @entry ns name node levels there =>
    rcases visitEntry visited with
      ⟨-, rfl, rfl⟩ | ⟨-, ⟨kind, rfl, rfl⟩ | ⟨kind, rfl, rfl⟩ | ⟨kind, rfl, rfl⟩⟩
    · exact ⟨[], rfl, nothing, by simp, by simp⟩
    · obtain ⟨stops, list, planned, below⟩ :=
        childrenPlanned sound found there kind blanks w.filter levels
      exact ⟨stops, list, planned, below, by simp [isFound]⟩
    · exact ⟨[], rfl, nothing, by simp, by simp [isFound]⟩
    · cases node <;> cases kind
      refine ⟨[], rfl, nothing, by simp, ?_⟩
      rintro item ⟨⟩ isOne
      rcases fileItemCases w (root.descend (ns ++ [name])) with ⟨reason, skipped⟩ | shown
      · simp [skipped, isFound] at isOne
      · rw [shown, own]
        exact ⟨.file (by simp) there, rfl⟩

end Visits

end Walk

end Codemod
