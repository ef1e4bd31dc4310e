import Codemod.Proofs.Run
import Codemod.Proofs.Selection

/-!
Which files a walk comes upon when no ignore files are read. It goes into every directory that is not
left out and whose path is not too long, and it sees the files that have only such directories above
them.
-/
namespace Codemod

namespace Walk

variable {t : Tree} {root : Path} {top : Location} {w : Walk} {f : Filter} {a ns : List String}
  {es : Directory} {content : Bytes} {mode : Nat}

def Enters (f : Filter) (root : Path) (a : List String) : Prop :=
  (∀ name, a.getLast? = some name → f.excludesDir name = false) ∧
    (root.descend a).text.utf8ByteSize < Tree.pathLimit

structure Clear (f : Filter) (root : Path) (a ns : List String) : Prop where
  below : a <+: ns
  enters : ∀ d, a <+: d → d <+: ns → d ≠ ns → Enters f root d

theorem Clear.self (f : Filter) (root : Path) (a : List String) : Clear f root a a :=
  ⟨List.prefix_refl a, fun _ above below other =>
    absurd (below.eq_of_length_le above.length_le) other⟩

theorem clearStep {name : String} {rest : List String} :
    Clear f root a (a ++ name :: rest) ↔
      Enters f root a ∧ Clear f root (a ++ [name]) (a ++ name :: rest) := by
  have first : a ++ [name] <+: a ++ name :: rest := ⟨rest, by simp⟩
  constructor
  · intro way
    refine ⟨way.enters a (List.prefix_refl a) way.below (by simp), first, ?_⟩
    exact fun d above below other => way.enters d ((List.prefix_append a [name]).trans above) below other
  · rintro ⟨enters, way⟩
    refine ⟨List.prefix_append a _, ?_⟩
    rintro d ⟨u, rfl⟩ below other
    cases u with
    | nil => simpa using enters
    | cons other' more =>
      obtain ⟨same, -⟩ : other' = name ∧ more <+: rest := by
        simpa [List.prefix_append_right_inj, List.cons_prefix_cons] using below
      subst same
      exact way.enters _ ⟨more, by simp⟩ below other

theorem getAbove {l k : Location} {node : Node} (there : t.get? (l ++ k) = some node) :
    ∃ above, t.get? l = some above := by
  rw [Tree.get?, Node.getAppend] at there
  obtain ⟨above, found, -⟩ := Option.bind_eq_some_iff.mp there
  exact ⟨above, found⟩

theorem plainEnd {node : Node} (there : t.get? (top ++ a) = some node) (plain : ∀ fs, node ≠ .dir fs)
    (file : t.get? (top ++ ns) = some (.file content mode)) (below : a <+: ns) : ns = a := by
  obtain ⟨more, rfl⟩ := below
  cases more with
  | nil => simp
  | cons name rest =>
    rw [← List.append_assoc, Tree.get?, Node.getAppend] at file
    rw [Tree.get?] at there
    cases node with
    | dir fs => exact absurd rfl (plain fs)
    | file c r => simp [there, Node.get?, Node.child?] at file
    | link target => simp [there, Node.get?, Node.child?] at file
    | closed fs => simp [there, Node.get?, Node.child?] at file

theorem fileDown (dir : t.get? top = some (.dir es))
    (file : t.get? (top ++ ns) = some (.file content mode)) : ns ≠ [] := by
  rintro rfl
  rw [List.append_nil, dir] at file
  cases file

theorem descendInjective {ms : List String} {node other : Node} (sound : t.Sound)
    (found : t.find root = .ok top) (one : t.get? (top ++ ns) = some node)
    (two : t.get? (top ++ ms) = some other) (same : root.descend ns = root.descend ms) : ns = ms :=
  Path.descendNames (Tree.findLeads found).given (belowProper sound one) (belowProper sound two)
    (congrArg Path.components same)

def pathOf (root : Path) : Visit → Path
  | .above => root
  | .root => root
  | .entry path _ _ _ => path
  | .fault path _ => path

theorem standsAt {v : Visit} (dir : t.get? top = some (.dir es)) (stands : Stands t root top v a) :
    pathOf root v = root.descend a ∧ ∃ node, t.get? (top ++ a) = some node := by
  cases stands with
  | root => exact ⟨rfl, _, by simpa using dir⟩
  | entry there => exact ⟨rfl, _, there⟩
  | fault there => exact ⟨rfl, _, there⟩

theorem standsUnique {v : Visit} {b : List String} (sound : t.Sound) (found : t.find root = .ok top)
    (dir : t.get? top = some (.dir es)) (one : Stands t root top v a) (two : Stands t root top v b) :
    a = b := by
  obtain ⟨path, node, there⟩ := standsAt dir one
  obtain ⟨other, else', stands⟩ := standsAt dir two
  exact descendInjective sound found there stands (path.symm.trans other)

/-- Whether a visit can lead to anything. A root with the name of the input stream cannot. -/
def Leading (root : Path) : Visit → Prop
  | .above => False
  | .root => root.components ≠ [.name ['-']]
  | .entry _ _ _ _ => True
  | .fault _ _ => False

def Sees (t : Tree) (root : Path) (top : Location) (f : Filter) (v : Visit) (ns : List String) : Prop :=
  Leading root v ∧ ∃ a, Stands t root top v a ∧ Clear f root a ns

theorem seesFrom {v : Visit} (sound : t.Sound) (found : t.find root = .ok top)
    (dir : t.get? top = some (.dir es)) (stands : Stands t root top v a) :
    Sees t root top f v ns ↔ Leading root v ∧ Clear f root a ns := by
  refine and_congr_right fun _ => ⟨?_, fun way => ⟨a, stands, way⟩⟩
  rintro ⟨b, other, way⟩
  rwa [standsUnique sound found dir stands other]

theorem childrenSee {fs : Directory} (sound : t.Sound) (found : t.find root = .ok top)
    (dir : t.get? top = some (.dir es)) (here : t.get? (top ++ a) = some (.dir fs))
    (off : f.gitignore = false) (file : t.get? (top ++ ns) = some (.file content mode))
    (included : ∀ name, a.getLast? = some name → f.excludesDir name = false) :
    (∃ v ∈ children t f (root.descend a) [], Sees t root top f v ns) ↔ Clear f root a ns := by
  have inside : Clear f root a ns → ∃ name rest, ns = a ++ name :: rest := by
    intro way
    obtain ⟨more, rfl⟩ := way.below
    cases more with
    | nil => simp [here] at file
    | cons name rest => exact ⟨name, rest, rfl⟩
  rw [childrenOf, listDescend sound found here]
  by_cases long : Tree.pathLimit ≤ (root.descend a).text.utf8ByteSize
  · -- a directory that cannot be listed leads to nothing
    simp only [if_pos long, List.mem_singleton, exists_eq_left]
    refine ⟨fun sees => sees.1.elim, fun way => ?_⟩
    obtain ⟨name, rest, rfl⟩ := inside way
    exact absurd (clearStep.mp way).1.2 (Nat.not_lt.mpr long)
  · have stands : ∀ {name node}, List.lookup name fs = some node →
        Stands t root top (.entry ((root.descend a).join ⟨name⟩) name (Tree.kindOf node) [])
          (a ++ [name]) := by
      intro name node entry
      rw [← Path.descendSnoc]
      exact .entry (by rw [← List.append_assoc, Tree.getStep here, entry])
    have none' : inner t f (root.descend a) [] = [] := by simp [inner, off]
    simp only [if_neg long, none', List.mem_map]
    constructor
    · rintro ⟨_, ⟨x, listed, rfl⟩, sees⟩
      obtain ⟨node, entry, kind⟩ := Tree.listingMem (dirSound sound here) listed
      rw [← kind] at sees
      obtain ⟨-, way⟩ := (seesFrom sound found dir (stands entry)).mp sees
      obtain ⟨rest, rfl⟩ := way.below
      rw [List.append_assoc, List.singleton_append] at way ⊢
      exact clearStep.mpr ⟨⟨included, Nat.lt_of_not_le long⟩, way⟩
    · intro way
      obtain ⟨name, rest, rfl⟩ := inside way
      obtain ⟨node, entry⟩ : ∃ node, List.lookup name fs = some node := by
        have whole : t.get? ((top ++ a ++ [name]) ++ rest) = some (.file content mode) := by
          simpa using file
        rw [← Tree.getStep here]
        exact getAbove whole
      refine ⟨_, ⟨_, Tree.memListing entry, rfl⟩, ?_⟩
      exact (seesFrom sound found dir (stands entry)).mpr ⟨trivial, (clearStep.mp way).2⟩

def quiet : Visit → Prop
  | .entry _ _ _ levels => levels = []
  | _ => True

theorem childrenQuiet {dir : Path} (off : f.gitignore = false) : ∀ v ∈ children t f dir [], quiet v := by
  rw [childrenOf]
  intro v hv
  split at hv
  · rw [List.mem_singleton.mp hv]
    trivial
  · obtain ⟨x, -, rfl⟩ := List.mem_map.mp hv
    simp [quiet, inner, off]

structure Pending (t : Tree) (root : Path) (top : Location) (v : Visit) : Prop where
  quiet : quiet v
  stands : ∃ a, Stands t root top v a

theorem rootPending (t : Tree) (root : Path) (top : Location) :
    ∀ v ∈ [Visit.root], Pending t root top v := by
  simpa using ⟨trivial, [], .root⟩

theorem visitPending {v : Visit} {item? : Option WalkItem} {more : List Visit} (sound : t.Sound)
    (found : t.find root = .ok top) (dir : t.get? top = some (.dir es)) (own : w.root = root)
    (off : w.filter.gitignore = false) (pending : Pending t root top v)
    (visited : visit t w v = (item?, more)) : ∀ x ∈ more, Pending t root top x := by
  obtain ⟨silent, a, stands⟩ := pending
  obtain ⟨stops, rfl, planned, -⟩ := visitPlanned sound found dir rfl own stands visited
  intro x hx
  obtain ⟨s, hs, rfl⟩ := List.mem_map.mp hx
  refine ⟨?_, s.2, planned.stands s hs⟩
  cases v with
  | above => cases stands
  | root =>
    simp only [visit, rootItemOf found dir rfl own, Prod.mk.injEq] at visited
    rw [← visited.2] at hx
    split at hx
    · cases hx
    · exact childrenQuiet off _ hx
  | fault path e =>
    simp only [visit, Prod.mk.injEq] at visited
    rw [← visited.2] at hx
    cases hx
  | entry path name kind levels =>
    obtain rfl : levels = [] := silent
    rcases visitEntry visited with ⟨-, -, none'⟩ | ⟨-, ⟨-, -, inside⟩ | ⟨-, -, none'⟩ | ⟨-, -, none'⟩⟩
    · simp [none'] at hx
    · rw [inside] at hx
      exact childrenQuiet off _ hx
    · simp [none'] at hx
    · simp [none'] at hx

def Yields (w : Walk) (ns : List String) : Prop :=
  fileItem w (w.root.descend ns) = .file (.of w.root (w.root.descend ns))

end Walk

namespace Migration

open Walk

variable {m : Migration} {t last : Tree} {root : Path} {top : Location} {w : Walk} {f : Filter}
  {a ns : List String} {es : Directory} {content : Bytes} {mode : Nat}

theorem fileSees {c : Bytes} {r : Nat} (sound : t.Sound) (found : t.find w.root = .ok top)
    (there : t.get? (top ++ a) = some (.file c r))
    (file : t.get? (top ++ ns) = some (.file content mode)) :
    FileEntry.of w.root (w.root.descend ns) ∈ files [fileItem w (w.root.descend a)] ↔
      Yields w ns ∧ Clear w.filter w.root a ns := by
  constructor
  · intro shown
    rcases fileItemCases w (w.root.descend a) with ⟨reason, skipped⟩ | kept
    · simp [skipped] at shown
    · rw [kept, filesFile, filesNil, List.mem_singleton] at shown
      obtain rfl := descendInjective sound found file there (congrArg FileEntry.path shown)
      exact ⟨kept, .self _ _ _⟩
  · rintro ⟨yields, way⟩
    obtain rfl := plainEnd there (by simp) file way.below
    rw [yields]
    simp

theorem hiddenSees {fs : Directory} {name : String} {above : List String}
    (hidden : passesOver f (root.descend (above ++ [name])) name .dir [] = true)
    (there : t.get? (top ++ (above ++ [name])) = some (.dir fs))
    (file : t.get? (top ++ ns) = some (.file content mode)) : ¬Clear f root (above ++ [name]) ns := by
  intro way
  have excluded : f.excludesDir name = true := hidden
  have enters := way.enters _ (List.prefix_refl _) way.below fun same => by
    rw [same, file] at there
    cases there
  rw [enters.1 name (by simp)] at excluded
  cases excluded

theorem apartSees {node : Node} (there : t.get? (top ++ a) = some node) (plain : ∀ fs, node ≠ .dir fs)
    (other : Tree.kindOf node ≠ .file) (file : t.get? (top ++ ns) = some (.file content mode)) :
    ¬Clear f root a ns := by
  intro way
  rw [plainEnd there plain file way.below, there] at file
  cases file
  exact other rfl

/- The step: what a visit sees is shown now or seen by what takes its place. -/
theorem visitSees {v : Visit} {item? : Option WalkItem} {more : List Visit} (sound : t.Sound)
    (found : t.find w.root = .ok top) (dir : t.get? top = some (.dir es))
    (off : w.filter.gitignore = false) (pending : Pending t w.root top v)
    (visited : visit t w v = (item?, more)) (file : t.get? (top ++ ns) = some (.file content mode)) :
    FileEntry.of w.root (w.root.descend ns) ∈ files item?.toList ∨
        (Yields w ns ∧ ∃ x ∈ more, Sees t w.root top w.filter x ns) ↔
      Yields w ns ∧ Sees t w.root top w.filter v ns := by
  obtain ⟨silent, a, stands⟩ := pending
  rw [seesFrom sound found dir stands]
  cases stands with
  | root =>
    have item := rootItemOf found dir rfl rfl
    by_cases named : w.root.components = [.name ['-']]
    · rw [if_pos named] at item
      simp only [visit, item] at visited
      cases visited
      simp [named, Leading]
    · rw [if_neg named] at item
      simp only [visit, item] at visited
      cases visited
      have whole : t.get? (top ++ []) = some (.dir es) := by simpa using dir
      have below := childrenSee sound found dir whole off file (by simp)
      simpa [Leading, named] using fun _ => below
  | fault there =>
    cases visited
    simp [Leading, fault]
  | @entry above name node levels there =>
    obtain rfl : levels = [] := silent
    simp only [Leading, true_and]
    rcases visitEntry visited with
      ⟨hidden, rfl, rfl⟩ | ⟨shown, ⟨kind, rfl, rfl⟩ | ⟨kind, rfl, rfl⟩ | ⟨kind, rfl, rfl⟩⟩
    · cases node with
      | file c r => cases hidden
      | link target => cases hidden
      | dir fs => simp [hiddenSees hidden there file]
      | closed fs => simp [apartSees there (by simp) (by simp [Tree.kindOf]) file]
    · cases node with
      | file c r => cases kind
      | link target => cases kind
      | dir fs =>
        have below := childrenSee sound found dir there off file fun n last => by
          obtain rfl : name = n := by simpa using last
          exact shown
        simpa using fun _ => below
      | closed fs =>
        obtain ⟨e, failed⟩ := listClosed sound found there
        simp [childrenOf, failed, Sees, Leading, apartSees there (by simp) (by simp [Tree.kindOf]) file]
    · cases node <;> cases kind
      simp [apartSees there (by simp) (by simp [Tree.kindOf]) file]
    · cases node <;> cases kind
      simpa using fileSees sound found there file

/- The run lemma: a walk shows what its agenda sees. -/
theorem Course.sees {agenda : List Visit} {items : List WalkItem} {os : List FileOutcome}
    (course : Course m w t agenda items os last) (sound : t.Sound) (found : t.find w.root = .ok top)
    (dir : t.get? top = some (.dir es)) (off : w.filter.gitignore = false) (dry : m.dryRun = true)
    (pending : ∀ v ∈ agenda, Pending t w.root top v)
    (file : t.get? (top ++ ns) = some (.file content mode)) :
    FileEntry.of w.root (w.root.descend ns) ∈ files items ↔
      Yields w ns ∧ ∃ v ∈ agenda, Sees t w.root top w.filter v ns := by
  induction course with
  | done t => simp
  | @visit t u last v rest more item? items os outcomes visited taken next ih =>
    obtain rfl := dryTake dry taken
    have first := pending v (by simp)
    have onward := visitsOnward pending (visitPending sound found dir rfl off first visited)
    have step := visitSees sound found dir off first visited file
    have tail := ih sound found dir onward file
    rw [filesAppend, List.mem_append, tail]
    simp only [List.mem_append, List.mem_cons, or_and_right, exists_or, exists_eq_left, and_or_left]
    rw [← or_assoc, step]

end Migration

end Codemod
