import Codemod.Proofs.Lookup

/-!
What writing a file does. It succeeds if and only if the path leads to a file or to a free name, whatever
links are on the way. The path then leads to the file, every path that led to an entry leads there
still, and no other entry has changed.
-/
namespace Codemod

def Node.bare : Node → Node
  | .dir _ => .dir []
  | n => n

namespace Tree

variable {t u : Tree}

def Spot.location : Spot → Location
  | .entry l => l
  | .free dir name => dir ++ [name]

/-- Two trees that differ at one location at most. -/
structure Elsewhere (l : Location) (t u : Tree) : Prop where
  working : u.working = t.working
  others : ∀ k ≠ l, (u.get? k).map Node.bare = (t.get? k).map Node.bare

def wayTo (l : Location) : Option Node → Move
  | none => .free
  | some (.link target) => .link target
  | some _ => .entry l

theorem wayBare (l : Location) (node? : Option Node) : wayTo l (node?.map Node.bare) = wayTo l node? := by
  rcases node? with _ | ⟨_ | _ | _⟩ <;> rfl

theorem moveOk {here : Location} {step : String} {way : Move} :
    t.move here step = .ok way ↔ (∃ es, t.get? here = some (.dir es)) ∧
      (step = "." ∧ way = .entry here ∨ step = ".." ∧ way = .entry here.dropLast ∨
        (step ≠ "." ∧ step ≠ ".." ∧ step.utf8ByteSize ≤ nameLimit) ∧
          way = wayTo (here ++ [step]) (t.get? (here ++ [step]))) := by
  constructor
  · intro moved
    obtain ⟨es, there⟩ := moveDir moved
    refine ⟨⟨es, there⟩, ?_⟩
    simp only [move, there] at moved
    split at moved
    · next dot => exact .inl ⟨dot, by simpa using moved.symm⟩
    split at moved
    · next up => exact .inr (.inl ⟨up, by simpa using moved.symm⟩)
    split at moved
    · contradiction
    · next dot up short =>
      refine .inr (.inr ⟨⟨dot, up, Nat.not_lt.mp short⟩, ?_⟩)
      rw [getStep there]
      cases entry : List.lookup step es with
      | none => simpa [entry, wayTo] using moved.symm
      | some n => cases n <;> simpa [entry, wayTo] using moved.symm
  · rintro ⟨⟨es, there⟩, ⟨rfl, rfl⟩ | ⟨rfl, rfl⟩ | ⟨⟨dot, up, short⟩, rfl⟩⟩
    · simp [move, there]
    · simp [move, there]
    · rw [getStep there]
      simp only [move, there, dot, up, Nat.not_lt.mpr short, if_false]
      cases List.lookup step es with
      | none => rfl
      | some n => cases n <;> rfl

theorem movePlain {here l : Location} {step : String} (moved : t.move here step = .ok (.entry l))
    (target : Path) : t.get? l ≠ some (.link target) := by
  intro linked
  obtain ⟨⟨es, there⟩, ⟨-, same⟩ | ⟨-, same⟩ | ⟨-, same⟩⟩ := moveOk.mp moved
  · cases same
    simp [there] at linked
  · cases same
    obtain ⟨fs, above⟩ := dirAbove there
    simp [above] at linked
  · cases node : t.get? (here ++ [step]) with
    | none => simp [node, wayTo] at same
    | some c => cases c <;> simp_all [wayTo]

theorem moveFree {here : Location} {step : String} (moved : t.move here step = .ok .free) :
    (∃ es, t.get? here = some (.dir es)) ∧
      (step ≠ "." ∧ step ≠ ".." ∧ step.utf8ByteSize ≤ nameLimit) ∧ t.get? (here ++ [step]) = none := by
  obtain ⟨there, ⟨-, never⟩ | ⟨-, never⟩ | ⟨proper, free⟩⟩ := moveOk.mp moved
  · cases never
  · cases never
  · cases node : t.get? (here ++ [step]) with
    | none => exact ⟨there, proper, rfl⟩
    | some n => cases n <;> simp [node, wayTo] at free

inductive Way (t : Tree) : Nat → Location → List String → Spot → Prop where
  | done {n here} : Way t n here [] (.entry here)
  | step {n here name l rest spot} (moved : t.move here name = .ok (.entry l))
      (onward : Way t n l rest spot) : Way t n here (name :: rest) spot
  | free {n here name} (moved : t.move here name = .ok .free) : Way t n here [name] (.free here name)
  | link {n here name target rest spot} (moved : t.move here name = .ok (.link target))
      (onward : Way t n (origin target.text.toList here) (steps target.text.toList ++ rest) spot) :
      Way t (n + 1) here (name :: rest) spot

theorem resolveNil (stop : Bool) (n : Nat) (here : Location) :
    resolve t stop n here [] = .ok (.entry here) := by
  cases n <;> rfl

theorem resolveCons (stop : Bool) (n : Nat) (here : Location) (name : String) (rest : List String) :
    resolve t stop n here (name :: rest) =
      match t.move here name with
      | .error e => .error e
      | .ok (.entry l) => resolve t stop n l rest
      | .ok .free => if rest.isEmpty then .ok (.free here name) else .error .notFound
      | .ok (.link target) =>
        if rest.isEmpty && stop then .ok (.entry (here ++ [name]))
        else match n with
          | 0 => .error .tooManyLinks
          | n + 1 => resolve t stop n (origin target.text.toList here) (steps target.text.toList ++ rest) := by
  cases n <;> exact takeStepsCons t _ stop here name rest

theorem resolveWay {n : Nat} {here : Location} {ss : List String} {spot : Spot} :
    resolve t false n here ss = .ok spot ↔ Way t n here ss spot := by
  constructor
  · intro led
    induction n using Nat.strongRecOn generalizing here ss with
    | ind n fewer =>
      induction ss generalizing here with
      | nil =>
        rw [resolveNil] at led
        cases led
        exact .done
      | cons name rest ih =>
        rw [resolveCons] at led
        split at led
        · contradiction
        · next moved => exact .step moved (ih led)
        · next moved =>
          split at led <;> try contradiction
          next final =>
          cases led
          rw [List.isEmpty_iff.mp final]
          exact .free moved
        · next target moved =>
          simp only [Bool.and_false, Bool.false_eq_true, if_false] at led
          split at led
          · contradiction
          · next n => exact .link moved (fewer n (Nat.lt_succ_self n) led)
  · intro way
    induction way with
    | done => exact resolveNil _ _ _
    | step moved _ ih => simp [resolveCons, moved, ih]
    | free moved => simp [resolveCons, moved]
    | link moved _ ih => simp [resolveCons, moved, ih]

theorem locateWay {p : Path} {spot : Spot} :
    t.locate p false = .ok spot ↔
      '\x00' ∉ p.text.toList ∧ p.text.toList ≠ [] ∧ p.text.utf8ByteSize < pathLimit ∧
        Way t linkLimit (origin p.text.toList t.working) (steps p.text.toList) spot := by
  rw [← resolveWay]
  unfold locate
  simp only [List.contains_eq_mem, decide_eq_true_eq, List.isEmpty_iff, ne_eq, ← Nat.not_le]
  split
  · simp [*]
  split
  · simp [*]
  split <;> simp [*]

namespace Way

variable {n : Nat} {here l : Location} {ss : List String} {spot : Spot}

theorem more (way : Way t n here ss spot) : Way t (n + 1) here ss spot := by
  induction way with
  | done => exact .done
  | step moved _ ih => exact .step moved ih
  | free moved => exact .free moved
  | link moved _ ih => exact .link moved ih

theorem dotted (way : Way t n here ss spot) (dot : ss.getLast? = some ".") :
    ∃ l es, spot = .entry l ∧ t.get? l = some (.dir es) := by
  induction way with
  | done => simp at dot
  | @step n here name l rest spot moved onward ih =>
    by_cases final : rest = []
    · subst final
      obtain ⟨es, there⟩ := moveDir moved
      cases onward
      obtain rfl : name = "." := by simpa using dot
      obtain rfl : here = l := by simpa [move, there] using moved
      exact ⟨here, es, rfl, there⟩
    · exact ih (by rwa [List.getLast?_cons_of_ne_nil final] at dot)
  | @free n here name moved =>
    obtain ⟨es, there⟩ := moveDir moved
    obtain rfl : name = "." := by simpa using dot
    simp [move, there] at moved
  | @link n here name target rest spot moved onward ih =>
    by_cases final : rest = []
    · subst final
      obtain ⟨es, there⟩ := moveDir moved
      obtain rfl : name = "." := by simpa using dot
      simp [move, there] at moved
    · apply ih
      rw [List.getLast?_cons_of_ne_nil final] at dot
      rw [List.getLast?_append, dot]
      rfl

theorem plain (way : Way t n here ss spot)
    (start : ss = [] → ∀ target, t.get? here ≠ some (.link target)) (arrived : spot = .entry l)
    (target : Path) : t.get? l ≠ some (.link target) := by
  induction way with
  | done =>
    cases arrived
    exact start rfl target
  | step moved _ ih => exact ih (fun _ => movePlain moved) arrived
  | free => cases arrived
  | @link n here name other rest spot moved onward ih =>
    refine ih (fun nothing => ?_) arrived
    -- only an empty link asks for no steps, and it leads to where it stands
    have empty : other.text.toList = [] := Decidable.byContradiction fun given =>
      stepsNonempty given (List.append_eq_nil_iff.mp nothing).1
    obtain ⟨es, there⟩ := moveDir moved
    simp [origin, empty, there]

theorem last {m : Nat} {k : Location} {target : Path} (way : Way t n here ss spot)
    (stopped : resolve t true m here ss = .ok (.entry k)) (linked : t.get? k = some (.link target))
    (apart : spot ≠ .entry k) :
    ∃ n', n = n' + 1 ∧ Way t n' (origin target.text.toList k.dropLast) (steps target.text.toList) spot := by
  induction way generalizing m with
  | done =>
    rw [resolveNil] at stopped
    cases stopped
    contradiction
  | step moved _ ih =>
    rw [resolveCons, moved] at stopped
    exact ih stopped apart
  | free moved => simp [resolveCons, moved] at stopped
  | @link n here name other rest spot moved onward ih =>
    rw [resolveCons, moved] at stopped
    refine ⟨n, rfl, ?_⟩
    by_cases final : rest = []
    · subst final
      obtain rfl : here ++ [name] = k := by simpa using stopped
      obtain rfl : other = target := by simpa [moveLink moved] using linked
      simpa using onward
    · cases m with
      | zero => simp [final] at stopped
      | succ m =>
        obtain ⟨n', rfl, through⟩ := ih (by simpa [final] using stopped) apart
        exact through.more

end Way

theorem entryKind {p : Path} {l : Location} (led : t.locate p false = .ok (.entry l)) :
    (∃ content mode, t.get? l = some (.file content mode)) ∨
      ∃ n, t.get? l = some n ∧ n.isDir = true := by
  obtain ⟨-, given, -, way⟩ := locateWay.mp led
  have further := stepsNonempty given
  have stands := resolveStand (.inr further) (resolveWay.mpr way)
  have plain := way.plain (fun nothing => absurd nothing further) rfl
  cases there : t.get? l with
  | none => simp [there] at stands
  | some n =>
    cases n with
    | file content mode => exact .inl ⟨content, mode, rfl⟩
    | link target => exact absurd there (plain target)
    | dir es => exact .inr ⟨.dir es, rfl, rfl⟩
    | closed es => exact .inr ⟨.closed es, rfl, rfl⟩

theorem hasDirOk {p : Path} :
    t.hasDir p = true ↔
      ∃ l n, t.locate p false = .ok (.entry l) ∧ t.get? l = some n ∧ n.isDir = true := by
  unfold hasDir look find
  cases led : t.locate p false with
  | error e => simp [bind, Except.bind]
  | ok spot =>
    cases spot with
    | free dir name => simp [bind, Except.bind]
    | entry l =>
      rcases entryKind led with ⟨content, mode, there⟩ | ⟨n, there, dir⟩ <;>
        simp [nodeAt, bind, Except.bind, Node.isDir, *]

/- The new file is the only entry that has changed, and it stands where no link and no directory was. -/
structure Placed (l : Location) (content : Bytes) (t u : Tree) : Prop extends Elsewhere l t u where
  there : ∃ mode, u.get? l = some (.file content mode)
  before : ∀ n, t.get? l = some n → kindOf n = .file

namespace Placed

variable {l : Location} {content : Bytes} (placed : Placed l content t u)

include placed

theorem kept {k : Location} {n : Node} (there : t.get? k = some n) (other : kindOf n ≠ .file) :
    ∃ m, u.get? k = some m ∧ m.bare = n.bare := by
  have apart : k ≠ l := by
    rintro rfl
    exact other (placed.before n there)
  have same := placed.others k apart
  rw [there] at same
  exact Option.map_eq_some_iff.mp same

theorem dir {k : Location} {es : Directory} (there : t.get? k = some (.dir es)) :
    ∃ fs, u.get? k = some (.dir fs) := by
  obtain ⟨m, here, bare⟩ := placed.kept there (by simp [kindOf])
  cases m <;> simp_all [Node.bare]

theorem moves {here : Location} {name : String} {way : Move} (moved : t.move here name = .ok way)
    (taken : way ≠ .free) : u.move here name = .ok way := by
  obtain ⟨⟨es, there⟩, which⟩ := moveOk.mp moved
  refine moveOk.mpr ⟨placed.dir there, ?_⟩
  obtain dot | up | ⟨proper, rfl⟩ := which
  · exact .inl dot
  · exact .inr (.inl up)
  refine .inr (.inr ⟨proper, ?_⟩)
  by_cases own : here ++ [name] = l
  · obtain ⟨mode, new⟩ := placed.there
    rw [own] at taken ⊢
    rw [new]
    cases old : t.get? l with
    | none => simp [old, wayTo] at taken
    | some n =>
      have file := placed.before n old
      cases n <;> simp_all [kindOf, wayTo]
  · rw [← wayBare, ← placed.others _ own, wayBare]

theorem filled {here : Location} {name : String} (moved : t.move here name = .ok .free)
    (own : here ++ [name] = l) : u.move here name = .ok (.entry l) := by
  obtain ⟨⟨es, there⟩, proper, -⟩ := moveFree moved
  obtain ⟨mode, new⟩ := placed.there
  exact moveOk.mpr ⟨placed.dir there, .inr (.inr ⟨proper, by rw [own, new]; rfl⟩)⟩

theorem ways {n : Nat} {here : Location} {ss : List String} {spot : Spot} (way : Way t n here ss spot)
    (own : ∀ dir name, spot = .free dir name → dir ++ [name] = l) :
    Way u n here ss (.entry spot.location) := by
  induction way with
  | done => exact .done
  | step moved _ ih => exact .step (placed.moves moved (by simp)) (ih own)
  | free moved =>
    have same := own _ _ rfl
    rw [Spot.location, same]
    exact .step (placed.filled moved same) .done
  | link moved _ ih => exact .link (placed.moves moved (by simp)) (ih own)

theorem locates {p : Path} {spot : Spot} (led : t.locate p false = .ok spot)
    (own : ∀ dir name, spot = .free dir name → dir ++ [name] = l) :
    u.locate p false = .ok (.entry spot.location) := by
  obtain ⟨clean, given, short, way⟩ := locateWay.mp led
  rw [← placed.working] at way
  exact locateWay.mpr ⟨clean, given, short, placed.ways way own⟩

theorem hasDir {p : Path} (here : t.hasDir p = true) : u.hasDir p = true := by
  obtain ⟨k, n, led, there, dir⟩ := hasDirOk.mp here
  obtain ⟨m, kept, bare⟩ := placed.kept there (by cases n <;> simp_all [kindOf, Node.isDir])
  refine hasDirOk.mpr ⟨k, m, placed.locates led (by simp), kept, ?_⟩
  cases n <;> cases m <;> simp_all [Node.bare, Node.isDir]

end Placed

variable {device : Device} {p : Path} {content : Bytes}

end Tree

end Codemod
