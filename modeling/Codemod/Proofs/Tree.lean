import Codemod.Tree.Change

/-!
Trees as a file system keeps them, and what becomes of them when the content of a file changes. The
blank form of a tree has all its names, links and directories but no content; a change of content
leaves it as it is, and a tree is known from its blank form and the content of its files.
-/
namespace Codemod

def isName (name : String) : Bool :=
  name ≠ "" && name ≠ "." && name ≠ ".." && !name.toList.contains '/' &&
    !name.toList.contains '\x00' && name.utf8ByteSize ≤ Tree.nameLimit

namespace Node

@[elab_as_elim] theorem byEntries {motive : Node → Prop}
    (file : ∀ content mode, motive (.file content mode)) (link : ∀ target, motive (.link target))
    (dir : ∀ es, (∀ e ∈ es, motive e.2) → motive (.dir es)) (closed : ∀ es, motive (.closed es)) :
    ∀ n, motive n
  | .file content mode => file content mode
  | .link target => link target
  | .dir es => dir es fun e _ => byEntries file link dir closed e.2
  | .closed es => closed es
termination_by n => sizeOf n
decreasing_by
  have inside := List.sizeOf_lt_of_mem ‹e ∈ es›
  rcases e with ⟨name, node⟩
  simp at inside ⊢
  omega

mutual

def isSound : Node → Bool
  | .file _ _ => true
  | .link _ => true
  | .dir es => decide (es.map Prod.fst).Nodup && entriesSound es
  | .closed _ => true

def entriesSound : Directory → Bool
  | [] => true
  | (name, n) :: rest => isName name && n.isSound && entriesSound rest

end

mutual

/-- The entry without the content of any file. -/
def blank : Node → Node
  | .file _ _ => .file [] 0
  | .link target => .link target
  | .dir es => .dir (blankEntries es)
  | .closed es => .closed es

def blankEntries : Directory → Directory
  | [] => []
  | (name, n) :: rest => (name, n.blank) :: blankEntries rest

end

def content? (n : Node) (l : Location) : Option (Bytes × Nat) :=
  match n.get? l with
  | some (.file content mode) => some (content, mode)
  | _ => none

theorem getCons (n : Node) (name : String) (rest : Location) :
    n.get? (name :: rest) = (n.child? name).bind (·.get? rest) := rfl

theorem getAppend (n : Node) (l k : Location) : n.get? (l ++ k) = (n.get? l).bind (·.get? k) := by
  induction l generalizing n with
  | nil => rfl
  | cons name rest ih =>
    simp only [List.cons_append, getCons]
    cases n.child? name with
    | none => rfl
    | some c => exact ih c

theorem lookupCons (k name : String) (n : Node) (rest : Directory) :
    List.lookup k ((name, n) :: rest) = if k = name then some n else List.lookup k rest := by
  by_cases same : k = name
  · simp [same]
  · simp [List.lookup_cons, beq_false_of_ne same, same]

theorem lookupMem {name : String} {c : Node} {es : Directory} (found : List.lookup name es = some c) :
    (name, c) ∈ es := by
  induction es with
  | nil => simp at found
  | cons e rest ih =>
    obtain ⟨other, n⟩ := e
    rw [lookupCons] at found
    split at found
    · next same =>
      cases Option.some.inj found
      simp [same]
    · exact List.mem_cons_of_mem _ (ih found)

theorem entriesSoundMem {es : Directory} {name : String} {c : Node} (sound : entriesSound es)
    (mem : (name, c) ∈ es) : isName name ∧ c.isSound := by
  induction es with
  | nil => simp at mem
  | cons e rest ih =>
    obtain ⟨other, n⟩ := e
    simp only [entriesSound, Bool.and_eq_true] at sound
    rcases List.mem_cons.mp mem with same | later
    · cases same
      exact sound.1
    · exact ih sound.2 later

theorem soundChild {n c : Node} {name : String} (sound : n.isSound) (found : n.child? name = some c) :
    isName name ∧ c.isSound := by
  cases n with
  | file content mode => simp [child?] at found
  | link target => simp [child?] at found
  | dir es =>
    simp only [isSound, Bool.and_eq_true] at sound
    exact entriesSoundMem sound.2 (lookupMem found)
  | closed es => simp [child?] at found

theorem soundGet {n m : Node} {l : Location} (sound : n.isSound) (found : n.get? l = some m) :
    m.isSound ∧ ∀ name ∈ l, isName name := by
  induction l generalizing n with
  | nil =>
    cases Option.some.inj found
    exact ⟨sound, by simp⟩
  | cons name rest ih =>
    obtain ⟨c, child, below⟩ := Option.bind_eq_some_iff.mp found
    have here := soundChild sound child
    have later := ih here.2 below
    refine ⟨later.1, ?_⟩
    intro x hx
    rcases List.mem_cons.mp hx with rfl | inside
    · exact here.1
    · exact later.2 x inside

theorem blankEntriesMap (es : Directory) : blankEntries es = es.map fun e => (e.1, e.2.blank) := by
  induction es with
  | nil => rfl
  | cons e rest ih => simp [blankEntries, ih]

theorem lookupBlank (name : String) (es : Directory) :
    List.lookup name (blankEntries es) = (List.lookup name es).map blank := by
  induction es with
  | nil => rfl
  | cons e rest ih =>
    obtain ⟨other, n⟩ := e
    simp only [blankEntries, lookupCons, ih]
    split <;> rfl

theorem getBlank (n : Node) (l : Location) : n.blank.get? l = (n.get? l).map blank := by
  induction l generalizing n with
  | nil => rfl
  | cons name rest ih =>
    cases n with
    | file content mode => rfl
    | link target => rfl
    | dir es =>
      simp only [getCons, child?, blank, lookupBlank]
      cases List.lookup name es with
      | none => rfl
      | some c => exact ih c
    | closed es => rfl

theorem soundBlank (n : Node) : n.blank.isSound = n.isSound := by
  induction n using byEntries with
  | file content mode => rfl
  | link target => rfl
  | dir es ih =>
    have names : (blankEntries es).map Prod.fst = es.map Prod.fst := by
      simp [blankEntriesMap, Function.comp_def]
    have inside : entriesSound (blankEntries es) = entriesSound es := by
      clear names
      induction es with
      | nil => rfl
      | cons e rest tail =>
        simp only [blankEntries, entriesSound, ih e (by simp),
          tail fun x hx => ih x (List.mem_cons_of_mem _ hx)]
    simp only [blank, isSound, names, inside]
  | closed es => rfl

theorem childDir {n c : Node} {name : String} (found : n.child? name = some c) :
    ∃ es, n = .dir es ∧ List.lookup name es = some c := by
  cases n with
  | file content mode => simp [child?] at found
  | link target => simp [child?] at found
  | dir es => exact ⟨es, rfl, found⟩
  | closed es => simp [child?] at found

theorem sizeChild {n c : Node} {name : String} (found : n.child? name = some c) : c.size ≤ n.size := by
  obtain ⟨es, rfl, entry⟩ := childDir found
  have mem := lookupMem entry
  clear entry found
  rw [size]
  induction es with
  | nil => simp at mem
  | cons e rest ih =>
    obtain ⟨other, m⟩ := e
    rw [sizes]
    rcases List.mem_cons.mp mem with same | later
    · cases same
      omega
    · have inside := ih later
      omega

theorem sizeGet {n m : Node} {l : Location} (found : n.get? l = some m) : m.size ≤ n.size := by
  induction l generalizing n with
  | nil =>
    cases Option.some.inj found
    exact Nat.le_refl _
  | cons name rest ih =>
    obtain ⟨c, child, below⟩ := Option.bind_eq_some_iff.mp found
    exact Nat.le_trans (ih below) (sizeChild child)

theorem lookupPut (k name : String) (node : Node) (es : Directory) :
    List.lookup k (Directory.put name node es) =
      if k = name then some node else List.lookup k es := by
  induction es with
  | nil => simp [Directory.put, lookupCons]
  | cons e rest ih =>
    obtain ⟨other, n⟩ := e
    by_cases here : other = name
    · subst here
      by_cases same : k = other <;> simp [Directory.put, lookupCons, same]
    · by_cases same : k = other
      · simp [Directory.put, here, same]
      · simp [Directory.put, here, lookupCons, same, ih]

theorem putSame {name : String} {c : Node} {es : Directory} (found : List.lookup name es = some c) :
    Directory.put name c es = es := by
  induction es with
  | nil => simp at found
  | cons e rest ih =>
    obtain ⟨other, n⟩ := e
    by_cases here : other = name
    · simp_all [Directory.put]
    · rw [lookupCons, if_neg (Ne.symm here)] at found
      simp [Directory.put, here, ih found]

theorem blankPut (name : String) (node : Node) (es : Directory) :
    blankEntries (Directory.put name node es) = Directory.put name node.blank (blankEntries es) := by
  induction es with
  | nil => rfl
  | cons e rest ih =>
    obtain ⟨other, n⟩ := e
    by_cases here : other = name <;> simp [Directory.put, blankEntries, here, ih]

theorem modifyBlank {f : Node → Node} {n old : Node} {l : Location} (found : n.get? l = some old)
    (keeps : (f old).blank = old.blank) : (n.modify f l).blank = n.blank := by
  induction l generalizing n with
  | nil =>
    cases Option.some.inj found
    exact keeps
  | cons name rest ih =>
    obtain ⟨c, child, below⟩ := Option.bind_eq_some_iff.mp found
    obtain ⟨es, rfl, here⟩ := childDir child
    have same : List.lookup name (blankEntries es) = some c.blank := by rw [lookupBlank, here]; rfl
    simp only [modify, here, blank, blankPut, ih below, putSame same]

theorem modifyContent {n : Node} {l : Location} {before : Bytes} {old : Nat}
    (found : n.get? l = some (.file before old)) (after : Bytes) (mode : Nat) (k : Location) :
    (n.modify (fun _ => .file after mode) l).content? k =
      if k = l then some (after, mode) else n.content? k := by
  induction l generalizing n k with
  | nil =>
    cases Option.some.inj found
    cases k <;> simp [modify, content?, get?, child?]
  | cons name rest ih =>
    obtain ⟨c, child, below⟩ := Option.bind_eq_some_iff.mp found
    obtain ⟨es, rfl, here⟩ := childDir child
    cases k with
    | nil => simp [modify, here, content?, get?]
    | cons x more =>
      have inside := ih below more
      by_cases same : x = name
      · subst same
        simp only [modify, here, content?, getCons, child?, lookupPut] at inside ⊢
        simpa using inside
      · simp [modify, here, content?, getCons, child?, lookupPut, same]

theorem modifyInsert {n old : Node} {name : String} {d : Location}
    (found : n.get? (d ++ [name]) = some old) (node : Node) :
    n.modify (insert name node) d = n.modify (fun _ => node) (d ++ [name]) := by
  induction d generalizing n with
  | nil =>
    obtain ⟨c, child, -⟩ := Option.bind_eq_some_iff.mp found
    obtain ⟨es, rfl, here⟩ := childDir child
    simp [modify, insert, here]
  | cons step rest ih =>
    obtain ⟨c, child, below⟩ := Option.bind_eq_some_iff.mp found
    obtain ⟨es, rfl, here⟩ := childDir child
    simp only [List.cons_append, modify, here, ih below]

theorem entriesExt {es fs : Directory} (names : (es.map Prod.fst).Nodup)
    (each : ∀ e ∈ es, ∀ m : Node, e.2.blank = m.blank →
      (∀ k, e.2.content? k = m.content? k) → e.2 = m)
    (blanks : blankEntries es = blankEntries fs)
    (contents : ∀ k, (dir es).content? k = (dir fs).content? k) : es = fs := by
  induction es generalizing fs with
  | nil =>
    cases fs with
    | nil => rfl
    | cons e rest => simp [blankEntries] at blanks
  | cons e rest ih =>
    obtain ⟨name, n⟩ := e
    cases fs with
    | nil => simp [blankEntries] at blanks
    | cons f more =>
      obtain ⟨other, m⟩ := f
      simp only [blankEntries, List.cons.injEq, Prod.mk.injEq] at blanks
      obtain ⟨⟨rfl, same⟩, rests⟩ := blanks
      have heads : n = m := by
        refine each (name, n) (by simp) m same fun k => ?_
        simpa [content?, getCons, child?, lookupCons] using contents (name :: k)
      simp only [List.map_cons, List.nodup_cons] at names
      have tails : rest = more := by
        refine ih names.2 (fun x hx => each x (List.mem_cons_of_mem _ hx)) rests fun k => ?_
        cases k with
        | nil => rfl
        | cons x k =>
          by_cases here : x = name
          · have gone : List.lookup name rest = none := by
              rw [List.lookup_eq_none_iff]
              rintro ⟨x, node⟩ hx
              simpa using fun same : name = x => names.1 (List.mem_map.mpr ⟨_, hx, same.symm⟩)
            have away : (List.lookup name more).map blank = none := by
              rw [← lookupBlank, ← rests, lookupBlank, gone]
              rfl
            rw [Option.map_eq_none_iff] at away
            simp [content?, getCons, child?, here, gone, away]
          · simpa [content?, getCons, child?, lookupCons, here] using contents (x :: k)
      rw [heads, tails]

theorem ext {n m : Node} (sound : n.isSound) (blanks : n.blank = m.blank)
    (contents : ∀ k, n.content? k = m.content? k) : n = m := by
  induction n using byEntries generalizing m with
  | file content mode =>
    cases m with
    | file other right =>
      have here := contents []
      simp only [content?, get?, Option.some.injEq, Prod.mk.injEq] at here
      rw [here.1, here.2]
    | link target => simp [blank] at blanks
    | dir es => simp [blank] at blanks
    | closed es => simp [blank] at blanks
  | link target =>
    cases m with
    | file content mode => simp [blank] at blanks
    | link other => simpa [blank] using blanks
    | dir es => simp [blank] at blanks
    | closed es => simp [blank] at blanks
  | dir es ih =>
    cases m with
    | file content mode => simp [blank] at blanks
    | link target => simp [blank] at blanks
    | dir fs =>
      simp only [isSound, Bool.and_eq_true, decide_eq_true_eq] at sound
      simp only [blank, dir.injEq] at blanks
      have same : es = fs := by
        exact entriesExt sound.1 (fun e he m => ih e he (entriesSoundMem sound.2 he).2) blanks contents
      rw [same]
    | closed fs => simp [blank] at blanks
  | closed es =>
    cases m with
    | file content mode => simp [blank] at blanks
    | link target => simp [blank] at blanks
    | dir fs => simp [blank] at blanks
    | closed fs => simpa [blank] using blanks

end Node

namespace Tree

def Sound (t : Tree) : Prop := t.root.isSound

instance (t : Tree) : Decidable t.Sound := inferInstanceAs (Decidable (_ = true))

def blank (t : Tree) : Tree := { t with root := t.root.blank }

def content? (t : Tree) (l : Location) : Option (Bytes × Nat) := t.root.content? l

theorem getBlank (t : Tree) (l : Location) : t.blank.get? l = (t.get? l).map Node.blank :=
  t.root.getBlank l

theorem soundOfBlank {t u : Tree} (sound : t.Sound) (same : t.blank = u.blank) : u.Sound := by
  have roots : t.root.blank = u.root.blank := congrArg Tree.root same
  rw [Sound, ← Node.soundBlank, ← roots, Node.soundBlank]
  exact sound

theorem contentFile {t : Tree} {l : Location} {content : Bytes} {mode : Nat} :
    t.content? l = some (content, mode) ↔ t.get? l = some (.file content mode) := by
  simp only [content?, Node.content?, get?]
  split <;> simp_all

theorem putModify {t : Tree} {l : Location} {old : Node} (found : t.get? l = some old) (node : Node) :
    t.put l node = { t with root := t.root.modify (fun _ => node) l } := by
  unfold put
  cases last : l.getLast? with
  | none =>
    rw [List.getLast?_eq_none_iff] at last
    subst last
    rfl
  | some name =>
    obtain ⟨d, rfl⟩ := List.getLast?_eq_some_iff.mp last
    simp only [List.dropLast_concat, insert]
    rw [Node.modifyInsert found]

theorem putBlank {t : Tree} {l : Location} {before : Bytes} {old : Nat}
    (found : t.get? l = some (.file before old)) (after : Bytes) (mode : Nat) :
    (t.put l (.file after mode)).blank = t.blank := by
  have roots : (t.root.modify (fun _ => .file after mode) l).blank = t.root.blank :=
    Node.modifyBlank found rfl
  rw [putModify found, blank, roots]
  rfl

theorem putContent {t : Tree} {l : Location} {before : Bytes} {old : Nat}
    (found : t.get? l = some (.file before old)) (after : Bytes) (mode : Nat) (k : Location) :
    (t.put l (.file after mode)).content? k = if k = l then some (after, mode) else t.content? k := by
  rw [putModify found]
  exact Node.modifyContent found after mode k

theorem ext {t u : Tree} (sound : t.Sound) (blanks : t.blank = u.blank)
    (contents : ∀ l, t.content? l = u.content? l) : t = u := by
  simp only [blank, mk.injEq] at blanks
  have roots : t.root = u.root := Node.ext sound blanks.1 contents
  cases t
  cases u
  simp_all

end Tree

end Codemod
