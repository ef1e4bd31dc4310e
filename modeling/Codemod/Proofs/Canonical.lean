import Codemod.Proofs.Lookup

/-!
Canonical locations. They are found by the same steps as all others, in the part of the tree that a
path from its top can name. So the canonical location of a path is the one that it leads to, and no
content has a part in it.
-/
namespace Codemod.Tree

theorem lookupNear (room : Nat) (es : Directory) (name : String) :
    List.lookup name (nearEntries room es) =
      if name.utf8ByteSize < room then
        (List.lookup name es).map (nearNode (room - (name.utf8ByteSize + 1)))
      else none := by
  induction es with
  | nil => simp [nearEntries]
  | cons e rest ih =>
    obtain ⟨other, n⟩ := e
    unfold nearEntries
    by_cases same : name = other
    · subst same
      by_cases fits : name.utf8ByteSize < room
      · simp [fits]
      · simp [fits, ih]
    · split <;> simp [Node.lookupCons, same, ih]

theorem getNear {n m : Node} {l : Location} {room : Nat} (found : (nearNode room n).get? l = some m) :
    ∃ left node, n.get? l = some node ∧ m = nearNode left node := by
  induction l generalizing n room with
  | nil =>
    cases Option.some.inj found
    exact ⟨room, n, rfl, rfl⟩
  | cons name rest ih =>
    obtain ⟨c, child, below⟩ := Option.bind_eq_some_iff.mp found
    cases n with
    | file content mode => simp [nearNode, Node.child?] at child
    | link target => simp [nearNode, Node.child?] at child
    | closed es => simp [nearNode, Node.child?] at child
    | dir es =>
      rw [nearNode, Node.child?, lookupNear] at child
      split at child <;> try contradiction
      obtain ⟨own, entry, rfl⟩ := Option.map_eq_some_iff.mp child
      obtain ⟨left, node, there, same⟩ := ih below
      exact ⟨left, node, by simp [Node.getCons, Node.child?, entry, there], same⟩

theorem nearBlank (n : Node) (room : Nat) : (nearNode room n).blank = nearNode room n.blank := by
  induction n using Node.byEntries generalizing room with
  | file content mode => rfl
  | link target => rfl
  | closed es => rfl
  | dir es each =>
    simp only [nearNode, Node.blank, Node.dir.injEq]
    induction es with
    | nil => rfl
    | cons e rest ih =>
      obtain ⟨name, n⟩ := e
      have others := ih fun x hx => each x (List.mem_cons_of_mem _ hx)
      simp only [nearEntries, Node.blankEntries]
      split
      · simp only [Node.blankEntries, each (name, n) (by simp), others]
      · exact others

variable {t u : Tree} {p : Path} {l : Location}

theorem moveNear {here : Location} {step : String} {way : Move}
    (moved : t.near.move here step = .ok way) (onward : way ≠ .free) : t.move here step = .ok way := by
  obtain ⟨es, there⟩ := moveDir moved
  obtain ⟨left, node, wide, same⟩ := getNear there
  cases node with
  | file content mode => simp [nearNode] at same
  | link target => simp [nearNode] at same
  | closed es => simp [nearNode] at same
  | dir fs =>
    cases same
    simp only [move, there] at moved
    simp only [move, show t.get? here = some (.dir fs) from wide]
    split at moved
    · next dot => simpa [dot] using moved
    next dot =>
    split at moved
    · next up => simpa [up] using moved
    next up =>
    split at moved
    · contradiction
    next short =>
    simp only [dot, up, short, if_false]
    rw [lookupNear] at moved
    by_cases fits : step.utf8ByteSize < left
    · rw [if_pos fits] at moved
      cases entry : List.lookup step fs with
      | none => simpa [entry] using moved
      | some c => cases c <;> simpa [entry, nearNode] using moved
    · rw [if_neg fits] at moved
      exact absurd (Except.ok.inj moved).symm onward

theorem takeStepsNear {near wide : Location → List String → Except IoError Spot} {here : Location}
    {ss : List String}
    (follows : ∀ there rest, near there rest = .ok (.entry l) → wide there rest = .ok (.entry l))
    (led : takeSteps t.near near false here ss = .ok (.entry l)) :
    takeSteps t wide false here ss = .ok (.entry l) := by
  induction ss generalizing here with
  | nil => exact led
  | cons step rest ih =>
    rw [takeStepsCons] at led ⊢
    cases moved : t.near.move here step with
    | error e => simp [moved] at led
    | ok way =>
      cases way with
      | entry there =>
        rw [moveNear moved (by simp)]
        exact ih (by simpa [moved] using led)
      | free =>
        simp only [moved] at led
        split at led <;> simp at led
      | link target =>
        rw [moveNear moved (by simp)]
        simpa using follows _ _ (by simpa [moved] using led)

theorem resolveNear {n : Nat} {here : Location} {ss : List String}
    (led : resolve t.near false n here ss = .ok (.entry l)) :
    resolve t false n here ss = .ok (.entry l) := by
  induction n generalizing here ss with
  | zero => exact takeStepsNear (fun _ _ never => by simp at never) led
  | succ n ih => exact takeStepsNear (fun _ _ next => ih next) led

theorem canonicalSome : t.canonical? p = some l ↔
    p.text.toList ≠ [] ∧ '\x00' ∉ p.text.toList ∧
      resolve t.near false linkLimit (origin p.text.toList t.working) (steps p.text.toList) =
        .ok (.entry l) := by
  simp only [canonical?]
  split
  · next bad =>
    simp only [Bool.or_eq_true, List.contains_iff_mem, List.isEmpty_iff] at bad
    rcases bad with nul | empty
    · simp [nul]
    · simp [empty]
  · next good =>
    simp only [Bool.or_eq_true, List.contains_iff_mem, List.isEmpty_iff, not_or] at good
    split
    · next k led => simp [led, good]
    · next other =>
      constructor
      · rintro ⟨⟩
      · rintro ⟨-, -, led⟩
        exact absurd led (other l)

theorem canonicalResolves (canonical : t.canonical? p = some l) :
    p.text.toList ≠ [] ∧ resolve t false linkLimit (origin p.text.toList t.working)
      (steps p.text.toList) = .ok (.entry l) := by
  obtain ⟨given, -, led⟩ := canonicalSome.mp canonical
  exact ⟨given, resolveNear led⟩

theorem canonicalFind {k : Location} (canonical : t.canonical? p = some l) (found : t.find p = .ok k) :
    k = l := by
  have led := (findLeads found).resolved
  rw [(canonicalResolves canonical).2] at led
  cases led
  rfl

theorem canonicalStands (canonical : t.canonical? p = some l) : ∃ node, t.get? l = some node := by
  obtain ⟨given, led⟩ := canonicalResolves canonical
  exact Option.isSome_iff_exists.mp (resolveStand (.inr (stepsNonempty given)) led)

theorem canonicalNear (canonical : t.canonical? p = some l) : ∃ node, t.near.get? l = some node := by
  obtain ⟨given, -, led⟩ := canonicalSome.mp canonical
  exact Option.isSome_iff_exists.mp (resolveStand (.inr (stepsNonempty given)) led)

theorem nearFile {content : Bytes} {mode : Nat} {node : Node}
    (file : t.get? l = some (.file content mode)) (near : t.near.get? l = some node) :
    node = .file content mode := by
  obtain ⟨left, own, there, rfl⟩ := getNear near
  cases file.symm.trans there
  rfl

theorem canonicalDescend {root : Path} {top : Location} {ns : List String} {content : Bytes} {mode : Nat}
    {node : Node} (sound : t.Sound) (rooted : t.canonical? root = some top) (down : ns ≠ [])
    (file : t.get? (top ++ ns) = some (.file content mode)) (near : t.near.get? (top ++ ns) = some node) :
    t.canonical? (root.descend ns) = some (top ++ ns) := by
  obtain ⟨given, clean, led⟩ := canonicalSome.mp rooted
  have names : ∀ n ∈ ns, isName n := fun n hn =>
    (Node.soundGet sound file).2 n (List.mem_append_right _ hn)
  have proper : ∀ n ∈ ns, Path.IsName n.toList := fun n hn => (isNameProper (names n hn)).1
  have plain : kindOf node ≠ .link := by simp [nearFile file near, kindOf]
  refine canonicalSome.mpr ⟨?_, nulDescend given names clean, ?_⟩
  · simp [Path.descendText given down proper]
  · exact resolveDescend given led down names near (.inr plain)

theorem canonicalSame (same : t.blank = u.blank) (p : Path) : t.canonical? p = u.canonical? p := by
  simp only [blank, mk.injEq] at same
  obtain ⟨roots, working⟩ := same
  have nears : t.near.blank = u.near.blank := by
    simp only [blank, near, nearBlank, roots, working]
  simp only [canonical?, ← resolveBlank t.near, nears, resolveBlank, working]

end Codemod.Tree
