import Codemod.Proofs.Edit
import Codemod.Proofs.Walk

/-!
Whole runs. A run that takes up every file as its walk comes upon it goes on to the end of the walk,
whatever it does to the files on the way: the number of steps that it is given is always enough. It
comes upon different entries, in the order of the walk.
-/
namespace Codemod

namespace Migration

open Walk

def take (m : Migration) (root : Path) (t : Tree) : Option WalkItem → List FileOutcome × Tree
  | some (.file e) => ([(m.process t e).1], (m.process t e).2)
  | some (.failed e) => ([walkFailure root e], t)
  | _ => ([], t)

/-- A run through an agenda: what its walk comes upon, the outcomes, and the tree in the end. -/
inductive Course (m : Migration) (w : Walk) :
    Tree → List Visit → List WalkItem → List FileOutcome → Tree → Prop where
  | done (t : Tree) : Course m w t [] [] [] t
  | visit {t u last : Tree} {v : Visit} {rest more : List Visit} {item? : Option WalkItem}
      {items : List WalkItem} {os outcomes : List FileOutcome}
      (visited : visit t w v = (item?, more)) (taken : m.take w.root t item? = (os, u))
      (next : Course m w u (more ++ rest) items outcomes last) :
      Course m w t (v :: rest) (item?.toList ++ items) (os ++ outcomes) last

variable {m : Migration} {w : Walk} {t u last : Tree} {agenda rest : List Visit}
  {items : List WalkItem} {os : List FileOutcome}

theorem Course.unique {others : List WalkItem} {ps : List FileOutcome} {final : Tree}
    (course : Course m w t agenda items os last) (other : Course m w t agenda others ps final) :
    items = others ∧ os = ps ∧ last = final := by
  induction course generalizing others ps final with
  | done t =>
    cases other
    exact ⟨rfl, rfl, rfl⟩
  | visit visited taken next ih =>
    cases other with
    | visit again also further =>
      cases visited.symm.trans again
      cases taken.symm.trans also
      obtain ⟨rfl, rfl, rfl⟩ := ih further
      exact ⟨rfl, rfl, rfl⟩

theorem visitAgenda (t : Tree) (w : Walk) (agenda : List Visit) (v : Visit) :
    visit t { w with agenda } v = visit t w v := by
  cases v <;> rfl

theorem silentVisit {v : Visit} {more : List Visit} (visited : visit t w v = (none, more)) :
    more = [] := by
  cases v with
  | above => exact (congrArg Prod.snd visited).symm
  | root => simp [visit] at visited
  | fault path e => simp [visit] at visited
  | entry path name kind levels =>
    simp only [visit] at visited
    split at visited
    · exact (congrArg Prod.snd visited).symm
    · cases kind <;> simp at visited

/- What is told in front of the root is there whatever a run does, and changes nothing. -/
theorem takeAbove (m : Migration) (t : Tree) (w : Walk) : (m.take w.root t (above? t w)).2 = t := by
  cases told : above? t w with
  | none => rfl
  | some item =>
    obtain ⟨e, rfl⟩ := aboveFailed told
    rfl

theorem Course.behind (course : Course m w t (.above :: rest) items os last) :
    ∃ shown ps, Course m w t rest shown ps last ∧ items = (above? t w).toList ++ shown := by
  cases course with
  | visit visited taken next =>
    cases visited
    have same := takeAbove m t w
    rw [taken] at same
    cases same
    exact ⟨_, _, next, rfl⟩

theorem Course.ahead (course : Course m w t rest items os last) :
    ∃ ps, Course m w t (.above :: rest) ((above? t w).toList ++ items) ps last := by
  have next : Course m w (m.take w.root t (above? t w)).2 rest items os last := by
    rw [takeAbove]
    exact course
  exact ⟨_, .visit (v := .above) rfl rfl next⟩

theorem visitsOnward {P : Visit → Prop} {v : Visit} {rest more : List Visit}
    (before : ∀ x ∈ v :: rest, P x) (new : ∀ x ∈ more, P x) : ∀ x ∈ more ++ rest, P x := by
  intro x hx
  rcases List.mem_append.mp hx with inside | later
  · exact new x inside
  · exact before x (List.mem_cons_of_mem _ later)

theorem nextOfAgenda (t : Tree) (w : Walk) (agenda rest : List Visit) :
    nextOf t { w with agenda } rest = nextOf t w rest := by
  induction rest with
  | nil => rfl
  | cons v rest ih =>
    rw [nextOfVisit, nextOfVisit, visitAgenda]
    cases visited : visit t w v with
    | mk item? more =>
      cases item? with
      | some item => rfl
      | none =>
        cases silentVisit visited
        exact ih

theorem nextAgenda (t : Tree) (w : Walk) (agenda : List Visit) :
    next t { w with agenda } =
      (nextOf t w agenda).map fun p => (p.1, { w with agenda := p.2 }) := by
  rw [next, nextOfAgenda]

theorem nextSilent {v : Visit} {more : List Visit} (visited : visit t w v = (none, more)) :
    next t { w with agenda := v :: rest } = next t { w with agenda := more ++ rest } := by
  rw [nextAgenda, nextAgenda, nextOfVisit, visited]

theorem nextShown {v : Visit} {more : List Visit} {item : WalkItem}
    (visited : visit t w v = (some item, more)) :
    next t { w with agenda := v :: rest } = some (item, { w with agenda := more ++ rest }) := by
  rw [nextAgenda, nextOfVisit, visited]
  rfl

theorem sweepCourse (course : Course m w t agenda items os last) {fuel : Nat}
    (enough : items.length ≤ fuel) : m.sweep w.root fuel t { w with agenda } = (os, last) := by
  induction course generalizing fuel with
  | done t => cases fuel <;> rfl
  | @visit t u last v rest more item? items os outcomes visited taken next ih =>
    cases item? with
    | none =>
      cases taken
      have again := @ih fuel (by simpa using enough)
      cases fuel with
      | zero => exact again
      | succ fuel =>
        simp only [sweep, nextSilent visited] at again ⊢
        exact again
    | some item =>
      cases fuel with
      | zero => simp at enough
      | succ fuel =>
        have further := @ih fuel (by simpa using enough)
        simp only [sweep, nextShown visited]
        cases item with
        | skipped path reason =>
          cases taken
          exact further
        | failed e =>
          cases taken
          simp [found?, further]
        | file e =>
          cases taken
          simp [found?, further]

theorem dryProcess (dry : m.dryRun = true) (t : Tree) (e : FileEntry) : (m.process t e).2 = t := by
  simp only [process, settle, commit, dry, if_true]
  split
  · rfl
  · split <;> rfl
  · rfl

theorem dryTake {root : Path} {item? : Option WalkItem} (dry : m.dryRun = true)
    (taken : m.take root t item? = (os, u)) : t = u := by
  unfold take at taken
  split at taken
  · cases taken
    exact (dryProcess dry t _).symm
  · exact congrArg Prod.snd taken
  · exact congrArg Prod.snd taken

theorem Course.dry (dry : m.dryRun = true) (course : Course m w t agenda items os last) : last = t := by
  induction course with
  | done t => rfl
  | visit visited taken next ih => exact ih.trans (dryTake dry taken).symm

theorem collectCourse (dry : m.dryRun = true) (course : Course m w t agenda items os last) {fuel : Nat}
    (enough : items.length ≤ fuel) : collect t fuel { w with agenda } = items := by
  induction course generalizing fuel with
  | done t => cases fuel <;> rfl
  | @visit t u last v rest more item? items os outcomes visited taken next ih =>
    obtain rfl := dryTake dry taken
    cases item? with
    | none =>
      have again := @ih fuel (by simpa using enough)
      cases fuel with
      | zero => exact again
      | succ fuel =>
        simp only [collect, nextSilent visited] at again ⊢
        exact again
    | some item =>
      cases fuel with
      | zero => simp at enough
      | succ fuel =>
        have further := @ih fuel (by simpa using enough)
        simp [collect, nextShown visited, further]

section Runs

variable {root : Path} {top : Location} {es : Directory}

theorem fileDirect {ns : List String} {content : Bytes} {mode : Nat} (sound : t.Sound)
    (found : t.find root = .ok top) (down : ns ≠ [])
    (file : t.get? (top ++ ns) = some (.file content mode)) : t.Direct (root.descend ns) := by
  intro l
  rw [Tree.findDescend sound found file (by simp [Tree.kindOf]),
    Tree.findLinkDescend sound found down file]
  exact id

theorem processBlank {e : FileEntry} (direct : t.Direct e.path) :
    (m.process t e).2.blank = t.blank :=
  (settleSpec direct rfl fun _ _ => rfl).blank

theorem takeBlank {item? : Option WalkItem} {a : List String} (sound : t.Sound)
    (found : t.find root = .ok top) (blanks : t.blank = u.blank)
    (shown : ∀ item, item? = some item → isFound item → Shown t root top item a) :
    t.blank = (m.take root u item?).2.blank := by
  cases item? with
  | none => exact blanks
  | some item =>
    cases item with
    | skipped path reason => exact blanks
    | failed e => exact blanks
    | file e =>
      cases shown _ rfl rfl with
      | file down there =>
        have direct := (fileDirect sound found down there).carry blanks
        exact blanks.trans (processBlank direct (e := .of root _)).symm

/-- However the content of files changes meanwhile, an agenda is worked off in so many steps. -/
def Runs (m : Migration) (w : Walk) (t : Tree) (agenda : List Visit) (n : Nat) : Prop :=
  ∀ u, t.blank = u.blank → ∃ items os last, Course m w u agenda items os last ∧ items.length ≤ n

theorem Runs.nil (m : Migration) (w : Walk) (t : Tree) : Runs m w t [] 0 :=
  fun u _ => ⟨[], [], u, .done u, Nat.le_refl 0⟩

theorem Runs.visit {v : Visit} {a : List String} {n : Nat} (sound : t.Sound)
    (found : t.find root = .ok top) (dir : t.get? top = some (.dir es)) (own : w.root = root)
    (stands : Stands t root top v a)
    (onward : ∀ u item? more, t.blank = u.blank → Walk.visit u w v = (item?, more) →
      ∃ k, Runs m w t (more ++ rest) k ∧ item?.toList.length + k ≤ n) :
    Runs m w t (v :: rest) n := by
  intro u blanks
  cases visited : Walk.visit u w v with | mk item? more =>
  obtain ⟨stops, -, -, -, shown⟩ := visitPlanned sound found dir blanks own stands visited
  obtain ⟨k, runs, enough⟩ := onward u item? more blanks visited
  have kept := takeBlank sound found blanks (fun item same isOne => (shown item same isOne).1) (m := m)
  obtain ⟨items, os, last, course, short⟩ := runs _ kept
  refine ⟨item?.toList ++ items, _, last, .visit visited rfl (own ▸ course), ?_⟩
  rw [List.length_append]
  omega

theorem Runs.through {α : Type} {visitOf : α → Visit} {cost : α → Nat} {xs : List α} {n : Nat}
    (each : ∀ x ∈ xs, ∀ {rest k}, Runs m w t rest k → Runs m w t (visitOf x :: rest) (cost x + k))
    (runs : Runs m w t rest n) :
    Runs m w t (xs.map visitOf ++ rest) (xs.foldr (fun x k => cost x + k) n) := by
  induction xs with
  | nil => exact runs
  | cons x more ih => exact each x (by simp) (ih fun y hy => each y (List.mem_cons_of_mem _ hy))

theorem entriesCost {fs : Directory} (size : String → Nat) (sizes : ∀ e ∈ fs, size e.1 = e.2.size)
    (n : Nat) : fs.foldr (fun e k => 2 * size e.1 + k) n = 2 * Node.sizes fs + n := by
  induction fs with
  | nil => simp [Node.sizes]
  | cons e rest ih =>
    obtain ⟨name, node⟩ := e
    have own : size name = node.size := sizes (name, node) (by simp)
    rw [List.foldr_cons, ih fun d hd => sizes d (List.mem_cons_of_mem _ hd), own, Node.sizes]
    omega

theorem listingCost (unique : (es.map Prod.fst).Nodup) (n : Nat) :
    (Ordered.sort Tree.nameLE (es.map fun e => (e.1, Tree.kindOf e.2))).foldr
      (fun x k => 2 * ((List.lookup x.1 es).elim 0 Node.size) + k) n = 2 * Node.sizes es + n := by
  rw [Ordered.sortInsertion, (List.perm_insertionSort _ _).foldr_eq' (fun x _ y _ k => by omega),
    List.foldr_map]
  refine entriesCost (fun name => (List.lookup name es).elim 0 Node.size) (fun e he => ?_) n
  rw [Tree.lookupUnique unique he]
  rfl

theorem Runs.fault {ns : List String} {node : Node} {e : IoError} {n : Nat} (sound : t.Sound)
    (found : t.find root = .ok top) (dir : t.get? top = some (.dir es)) (own : w.root = root)
    (there : t.get? (top ++ ns) = some node) (folder : Tree.kindOf node = .dir)
    (runs : Runs m w t rest n) : Runs m w t (.fault (root.descend ns) e :: rest) (1 + n) := by
  refine Runs.visit sound found dir own (.fault there folder) fun u item? more blanks visited => ?_
  cases visited
  exact ⟨n, by simpa using runs, by simp⟩

/- A directory is shown once, and then its entries are, or else it is shown once more. -/
theorem Runs.children {ns : List String} {fs : Directory} {levels : List Ignore.Level} {n : Nat}
    (sound : t.Sound) (found : t.find root = .ok top) (dir : t.get? top = some (.dir es))
    (own : w.root = root) (there : t.get? (top ++ ns) = some (.dir fs)) (blanks : t.blank = u.blank)
    (each : ∀ name node, (name, node) ∈ fs → t.get? (top ++ (ns ++ [name])) = some node →
      ∀ {inside rest k}, Runs m w t rest k →
        Runs m w t (.entry (root.descend (ns ++ [name])) name (Tree.kindOf node) inside :: rest)
          (2 * node.size + k))
    (runs : Runs m w t rest n) :
    Runs m w t (Walk.children u w.filter (root.descend ns) levels ++ rest)
      (1 + 2 * Node.sizes fs + n) := by
  have listed := Tree.listSame blanks (root.descend ns)
  rw [listDescend sound found there] at listed
  rw [childrenOf, ← listed]
  by_cases long : Tree.pathLimit ≤ (root.descend ns).text.utf8ByteSize
  · simp only [if_pos long]
    have one := Runs.fault sound found dir own there rfl runs (e := .nameTooLong)
    intro v blanks
    obtain ⟨items, os, last, course, enough⟩ := one v blanks
    exact ⟨items, os, last, course, by omega⟩
  · have unique := dirSound sound there
    have inside : ∀ x ∈ Ordered.sort Tree.nameLE (fs.map fun e => (e.1, Tree.kindOf e.2)),
        ∀ {rest k}, Runs m w t rest k →
          Runs m w t (.entry ((root.descend ns).join ⟨x.1⟩) x.1 x.2
            (inner u w.filter (root.descend ns) levels) :: rest)
              (2 * ((List.lookup x.1 fs).elim 0 Node.size) + k) := by
      intro x hx rest k further
      obtain ⟨node, entry, kind⟩ := Tree.listingMem unique hx
      have below : t.get? (top ++ (ns ++ [x.1])) = some node := by
        rw [← List.append_assoc, Tree.getStep there, entry]
      simp only [entry, ← kind, ← Path.descendSnoc]
      exact each x.1 node (Node.lookupMem entry) below further
    have all := Runs.through inside runs
    rw [listingCost unique] at all
    simp only [if_neg long]
    intro v blanks
    obtain ⟨items, os, last, course, enough⟩ := all v blanks
    exact ⟨items, os, last, course, by omega⟩

theorem visitPlain {path : Path} {name : String} {kind : Tree.Kind} {levels : List Ignore.Level}
    {item? : Option WalkItem} {more : List Visit} (plain : kind ≠ .dir)
    (visited : Walk.visit u w (.entry path name kind levels) = (item?, more)) : more = [] := by
  rcases visitEntry visited with ⟨-, -, rfl⟩ | ⟨-, ⟨dir, -⟩ | ⟨-, -, rfl⟩ | ⟨-, -, rfl⟩⟩
  · rfl
  · exact absurd dir plain
  · rfl
  · rfl

theorem Runs.entry {node : Node} {ns : List String} {name : String} {levels : List Ignore.Level} {n : Nat}
    (sound : t.Sound) (found : t.find root = .ok top) (dir : t.get? top = some (.dir es))
    (own : w.root = root) (there : t.get? (top ++ (ns ++ [name])) = some node)
    (runs : Runs m w t rest n) :
    Runs m w t (.entry (root.descend (ns ++ [name])) name (Tree.kindOf node) levels :: rest)
      (2 * node.size + n) := by
  induction node using Node.byEntries generalizing ns name levels rest n with
  | file content mode =>
    refine Runs.visit sound found dir own (.entry there) fun u item? more blanks visited => ?_
    cases visitPlain (by simp [Tree.kindOf]) visited
    refine ⟨n, by simpa using runs, ?_⟩
    cases item? <;> simp [Node.size]
  | link target =>
    refine Runs.visit sound found dir own (.entry there) fun u item? more blanks visited => ?_
    cases visitPlain (by simp [Tree.kindOf]) visited
    refine ⟨n, by simpa using runs, ?_⟩
    cases item? <;> simp [Node.size]
  | dir fs ih =>
    refine Runs.visit sound found dir own (.entry there) fun u item? more blanks visited => ?_
    rcases visitEntry visited with ⟨-, rfl, rfl⟩ | ⟨-, ⟨-, rfl, rfl⟩ | ⟨kind, -⟩ | ⟨kind, -⟩⟩
    · exact ⟨n, by simpa using runs, by simp⟩
    · refine ⟨1 + 2 * Node.sizes fs + n, ?_, ?_⟩
      · refine Runs.children sound found dir own there blanks (fun name node mem inside => ?_) runs
        intro levels rest k further
        exact ih (name, node) mem inside further
      · simp only [Option.toList_some, List.length_cons, List.length_nil, Node.size]
        omega
    · cases kind
    · cases kind
  | closed fs =>
    refine Runs.visit sound found dir own (.entry there) fun u item? more blanks visited => ?_
    rcases visitEntry visited with ⟨-, rfl, rfl⟩ | ⟨-, ⟨-, rfl, rfl⟩ | ⟨kind, -⟩ | ⟨kind, -⟩⟩
    · exact ⟨n, by simpa using runs, by simp⟩
    · obtain ⟨e, failed⟩ := listClosed sound found there
      rw [childrenOf, ← Tree.listSame blanks, failed]
      exact ⟨1 + n, Runs.fault sound found dir own there rfl runs, by simp [Node.size]; omega⟩
    · cases kind
    · cases kind

theorem Runs.whole (sound : t.Sound) (found : t.find root = .ok top)
    (dir : t.get? top = some (.dir es)) (own : w.root = root) : Runs m w t [.root] (2 * t.size) := by
  have whole : t.get? (top ++ []) = some (.dir es) := by simpa using dir
  have size : 1 + Node.sizes es ≤ t.size := Node.sizeGet dir
  refine Runs.visit sound found dir own .root fun u item? more blanks visited => ?_
  simp only [Walk.visit, rootItemOf found dir blanks own, Prod.mk.injEq] at visited
  obtain ⟨rfl, rfl⟩ := visited
  refine ⟨1 + 2 * Node.sizes es + 0, ?_, by simp; omega⟩
  split
  · intro u blanks
    exact ⟨[], [], u, .done u, by simp⟩
  · have all : Runs m w t (Walk.children u w.filter (root.descend []) [] ++ [])
        (1 + 2 * Node.sizes es + 0) := by
      refine Runs.children sound found dir own whole blanks (fun name node mem there => ?_) (.nil m w t)
      intro levels rest k further
      exact Runs.entry sound found dir own there further
    exact all

structure Sighted (t : Tree) (root : Path) (top : Location) (items : List WalkItem)
    (shown : List (WalkItem × List String)) : Prop where
  same : shown.map Prod.fst = items.filter isFound
  each : ∀ s ∈ shown, Shown t root top s.1 s.2
  ordered : shown.Pairwise fun s r => Before s.2 r.2

theorem Sighted.found {shown : List (WalkItem × List String)} {item : WalkItem} {a : List String}
    (sighted : Sighted t root top items shown) (isOne : isFound item = true)
    (here : Shown t root top item a) (first : ∀ s ∈ shown, Before a s.2) :
    Sighted t root top (item :: items) ((item, a) :: shown) := by
  refine ⟨by simp [isOne, sighted.same], ?_, List.pairwise_cons.mpr ⟨first, sighted.ordered⟩⟩
  intro s hs
  rcases List.mem_cons.mp hs with rfl | later
  · exact here
  · exact sighted.each s later

theorem Sighted.passed {shown : List (WalkItem × List String)} {item? : Option WalkItem}
    (sighted : Sighted t root top items shown) (hidden : ∀ item, item? = some item → isFound item = false) :
    Sighted t root top (item?.toList ++ items) shown := by
  refine ⟨?_, sighted.each, sighted.ordered⟩
  rw [sighted.same, List.filter_append]
  cases item? with
  | none => rfl
  | some item => simp [hidden item rfl]

theorem Course.shown {stops : List (Visit × List String)} (sound : t.Sound)
    (found : t.find root = .ok top) (dir : t.get? top = some (.dir es)) (own : w.root = root)
    (course : Course m w u agenda items os last) (blanks : t.blank = u.blank)
    (planned : Planned t root top stops) (whole : agenda = stops.map Prod.fst) :
    ∃ shown, Sighted t root top items shown ∧ ∀ s ∈ shown, ∃ r ∈ stops, r.2 <+: s.2 := by
  induction course generalizing stops with
  | done u => exact ⟨[], ⟨by simp, by simp, .nil⟩, by simp⟩
  | @visit u v last here rest more item? items os outcomes visited taken next ih =>
    cases stops with
    | nil => simp at whole
    | cons s others =>
      obtain ⟨here', a⟩ := s
      obtain ⟨rfl, rfl⟩ : here = here' ∧ rest = others.map Prod.fst := by simpa using whole
      have stands : Stands t root top here a := planned.stands (here, a) (by simp)
      obtain ⟨inside, rfl, within, below, item⟩ :=
        visitPlanned sound found dir blanks own stands visited
      have kept : t.blank = v.blank := by
        have kept := takeBlank sound found blanks (fun i same isOne => (item i same isOne).1) (m := m)
        rwa [← own, taken] at kept
      obtain ⟨shown, sighted, behind⟩ := ih kept (planned.replace within below) (by simp)
      by_cases isOne : ∃ i, item? = some i ∧ isFound i
      · obtain ⟨i, rfl, isOne⟩ := isOne
        obtain ⟨one, rfl⟩ := item i rfl isOne
        refine ⟨(i, a) :: shown, sighted.found isOne one fun s hs => ?_, fun s hs => ?_⟩
        · obtain ⟨r, hr, above⟩ := behind s hs
          have first := (List.pairwise_cons.mp planned.ordered).1 r (by simpa using hr)
          exact beforeBelow first (List.prefix_refl _) above
        · rcases List.mem_cons.mp hs with rfl | later
          · exact ⟨(here, a), by simp, List.prefix_refl _⟩
          · obtain ⟨r, hr, above⟩ := behind s later
            exact ⟨r, List.mem_cons_of_mem _ (by simpa using hr), above⟩
      · refine ⟨shown, sighted.passed fun i same => ?_, fun s hs => ?_⟩
        · rw [← Bool.not_eq_true]
          exact fun one => isOne ⟨i, same, one⟩
        · obtain ⟨r, hr, above⟩ := behind s hs
          rcases List.mem_append.mp hr with new | later
          · exact ⟨(here, a), by simp, (below r new).trans above⟩
          · exact ⟨r, List.mem_cons_of_mem _ later, above⟩

end Runs

theorem startFrom {root : Path} {f : Filter} (started : Walk.start t root f = .ok w) :
    w = fresh t root f ∧
      ∃ top es, t.find root = .ok top ∧ t.get? top = some (.dir es) := by
  unfold Walk.start at started
  split at started <;> try contradiction
  next node looked =>
  split at started <;> try contradiction
  split at started <;> try contradiction
  next names listed =>
  refine ⟨(Except.ok.inj started).symm, ?_⟩
  rw [Tree.listOf, looked] at listed
  obtain ⟨top, found, there⟩ := Tree.lookOk.mp looked
  cases node with
  | dir es => exact ⟨top, es, found, there⟩
  | file content mode => cases listed
  | link target => cases listed
  | closed es => cases listed

theorem courseExists {root : Path} {f : Filter} (m : Migration) (sound : t.Sound)
    (started : Walk.start t root f = .ok w) :
    ∃ items os last, Course m w t w.agenda items os last ∧ items.length ≤ limit t := by
  obtain ⟨rfl, top, es, found, dir⟩ := startFrom started
  have runs : Runs m (fresh t root f) t [.root] (2 * t.size) :=
    Runs.whole sound found dir rfl
  obtain ⟨items, os, last, course, enough⟩ := runs t rfl
  obtain ⟨ps, whole⟩ := course.ahead
  refine ⟨_, ps, last, whole, ?_⟩
  rw [List.length_append, limit]
  grind [Option.length_toList_le]

end Migration

end Codemod
