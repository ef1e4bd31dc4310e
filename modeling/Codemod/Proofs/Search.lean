import Codemod.Pattern.Search
import Mathlib.Data.Finset.Prod

/-!
The search finds what there is to be found. It gives up a branch that comes to an instruction at a
place where it has been before. That loses no match: how a branch goes on does not depend on its
marks, and whatever follows on where the search has been was tried or is still waiting.
-/
namespace Codemod.Pattern

variable {p : Program} {text : Haystack}

inductive Leads (p : Program) (text : Haystack) : Branch → Branch → Prop where
  | accept {b : Branch} (done : p.code[b.pc]? = some .accept) : Leads p text b b
  | step {b next last : Branch} {i : Instr} (code : p.code[b.pc]? = some i)
      (follows : next ∈ b.next text i) (onward : Leads p text next last) : Leads p text b last

def Branch.place (b : Branch) : Nat × Nat := (b.pc, b.pos)

theorem nextPlaces {b c : Branch} (same : b.place = c.place) (i : Instr) :
    (b.next text i).map Branch.place = (c.next text i).map Branch.place := by
  obtain ⟨pc, pos, marks⟩ := b
  obtain ⟨_, _, others⟩ := c
  cases same
  cases i with
  | char c next => simp only [Branch.next]; split <;> rfl
  | set s next => simp only [Branch.next]; split <;> rfl
  | look l next => simp only [Branch.next]; split <;> rfl
  | mark slot next => rfl
  | fork first second => rfl
  | jump next => rfl
  | accept => rfl

theorem nextFew (b : Branch) (i : Instr) : (b.next text i).length ≤ 2 := by
  cases i <;> simp only [Branch.next] <;> (try split) <;> simp

theorem nextWithin {b c : Branch} {i : Instr} (follows : c ∈ b.next text i)
    (within : b.pos ≤ text.size) : c.pos ≤ text.size := by
  have inside : ∀ {d : Char}, text[b.pos]? = some d → b.pos < text.size := fun found =>
    (Array.getElem?_eq_some_iff.mp found).1
  cases i with
  | char d next =>
    simp only [Branch.next] at follows
    split at follows <;> try contradiction
    next found =>
    cases List.mem_singleton.mp follows
    exact inside found
  | set s next =>
    simp only [Branch.next] at follows
    split at follows <;> try contradiction
    next found =>
    obtain ⟨d, found, -⟩ := (Option.any_eq_true _ _).mp found
    cases List.mem_singleton.mp follows
    exact inside found
  | look l next =>
    simp only [Branch.next] at follows
    split at follows <;> try contradiction
    cases List.mem_singleton.mp follows
    exact within
  | mark slot next =>
    cases List.mem_singleton.mp follows
    exact within
  | fork first second =>
    simp only [Branch.next, List.mem_cons, List.not_mem_nil, or_false] at follows
    rcases follows with rfl | rfl <;> exact within
  | jump next =>
    cases List.mem_singleton.mp follows
    exact within
  | accept => contradiction

instance placeLawful : Std.LawfulEqCmp (compareLex (compareOn Prod.fst) (compareOn Prod.snd) :
    Nat × Nat → Nat × Nat → Ordering) where
  eq_of_compare {a b} same := by
    simp only [compareLex_eq_eq, compareOn, compare_eq_iff_eq] at same
    exact Prod.ext same.1 same.2

theorem memInsert {visited : Visited} {v w : Nat × Nat} :
    w ∈ visited.insert v ↔ v = w ∨ w ∈ visited := by
  rw [Std.TreeSet.mem_insert, Std.LawfulEqCmp.compare_eq_iff_eq]

theorem visitedSize {visited : Visited} {m n : Nat} (within : ∀ v ∈ visited, v.1 < m ∧ v.2 ≤ n) :
    visited.size ≤ m * (n + 1) := by
  have distinct : visited.toList.Nodup := by
    refine visited.distinct_toList.imp fun differ same => differ ?_
    rw [same]
    exact Std.ReflCmp.compare_self
  have inside : visited.toList.toFinset ⊆ Finset.range m ×ˢ Finset.range (n + 1) := by
    intro v member
    rw [List.mem_toFinset, Std.TreeSet.mem_toList] at member
    simpa [Nat.lt_succ_iff] using within v member
  calc visited.size = visited.toList.toFinset.card := by
        rw [List.toFinset_card_of_nodup distinct, Std.TreeSet.length_toList]
    _ ≤ (Finset.range m ×ˢ Finset.range (n + 1)).card := Finset.card_le_card inside
    _ = m * (n + 1) := by rw [Finset.card_product, Finset.card_range, Finset.card_range]

/-- Where the search has been, no match was found, and whatever follows on it has been tried or is
waiting. -/
structure Closed (p : Program) (text : Haystack) (visited : Visited) (waiting : List Branch) :
    Prop where
  within : ∀ v ∈ visited, v.1 < p.code.size ∧ v.2 ≤ text.size
  unaccepted : ∀ v ∈ visited, p.code[v.1]? ≠ some .accept
  followed : ∀ {b c : Branch} {i : Instr}, b.place ∈ visited → p.code[b.pc]? = some i →
    c ∈ b.next text i → c.place ∈ visited ∨ c.place ∈ waiting.map Branch.place ∨ p.code[c.pc]? = none

namespace Closed

variable {visited : Visited} {waiting : List Branch} {b last : Branch}

theorem empty (p : Program) (text : Haystack) : Closed p text ∅ [] where
  within _ member := absurd member Std.TreeSet.not_mem_emptyc
  unaccepted _ member := absurd member Std.TreeSet.not_mem_emptyc
  followed member := absurd member Std.TreeSet.not_mem_emptyc

theorem await (closed : Closed p text visited []) (waiting : List Branch) :
    Closed p text visited waiting where
  within := closed.within
  unaccepted := closed.unaccepted
  followed member code follows := by
    rcases closed.followed member code follows with tried | waits | ends
    · exact .inl tried
    · contradiction
    · exact .inr (.inr ends)

theorem giveUp (closed : Closed p text visited (b :: waiting))
    (spent : b.place ∈ visited ∨ p.code[b.pc]? = none) : Closed p text visited waiting where
  within := closed.within
  unaccepted := closed.unaccepted
  followed {_ c _} member code follows := by
    rcases closed.followed member code follows with tried | waits | ends
    · exact .inl tried
    · rw [List.map_cons, List.mem_cons] at waits
      rcases waits with same | waits
      · have pc : c.pc = b.pc := congrArg Prod.fst same
        rw [same, pc]
        exact spent.imp_right .inr
      · exact .inr (.inl waits)
    · exact .inr (.inr ends)

theorem advance {i : Instr} (closed : Closed p text visited (b :: waiting))
    (inside : b.pos ≤ text.size) (code : p.code[b.pc]? = some i) (other : i ≠ .accept) :
    Closed p text (visited.insert b.place) (b.next text i ++ waiting) where
  within v member := by
    rcases memInsert.mp member with rfl | member
    · exact ⟨(Array.getElem?_eq_some_iff.mp code).1, inside⟩
    · exact closed.within v member
  unaccepted v member := by
    rcases memInsert.mp member with rfl | member
    · exact fun done => other (Option.some.inj (code.symm.trans done))
    · exact closed.unaccepted v member
  followed {d c k} member here follows := by
    rw [memInsert, List.map_append, List.mem_append]
    rcases memInsert.mp member with same | member
    · -- what follows on this branch is put in front of the others, whatever its marks
      have pc : d.pc = b.pc := congrArg Prod.fst same.symm
      rw [pc, code] at here
      cases here
      have places := List.mem_map_of_mem (f := Branch.place) follows
      rw [nextPlaces same.symm] at places
      exact .inr (.inl (.inl places))
    · rcases closed.followed member here follows with tried | waits | ends
      · exact .inl (.inr tried)
      · rw [List.map_cons, List.mem_cons] at waits
        rcases waits with same | waits
        · exact .inl (.inl same.symm)
        · exact .inr (.inl (.inr waits))
      · exact .inr (.inr ends)

theorem unled (lost : p.code[b.pc]? = none) : ¬Leads p text b last := by
  intro leads
  cases leads with
  | accept done => cases lost.symm.trans done
  | step code _ _ => cases lost.symm.trans code

theorem dead (closed : Closed p text visited []) (member : b.place ∈ visited) :
    ¬Leads p text b last := by
  intro leads
  induction leads with
  | accept done => exact closed.unaccepted _ member done
  | step code follows onward ih =>
    rcases closed.followed member code follows with tried | waits | lost
    · exact ih tried
    · contradiction
    · exact unled lost onward

end Closed

def Explored (p : Program) (text : Haystack) (waiting : List Branch) (visited : Visited) :
    Except Visited Branch → Prop
  | .ok last => ∃ b ∈ waiting, Leads p text b last
  | .error after => Closed p text after [] ∧ (∀ v ∈ visited, v ∈ after) ∧
      ∀ b ∈ waiting, ∀ last, ¬Leads p text b last

namespace Explored

variable {visited : Visited} {waiting : List Branch} {b : Branch} {found : Except Visited Branch}

theorem giveUp (explored : Explored p text waiting visited found)
    (spent : b.place ∈ visited ∨ p.code[b.pc]? = none) :
    Explored p text (b :: waiting) visited found := by
  cases found with
  | ok last =>
    obtain ⟨c, member, leads⟩ := explored
    exact ⟨c, List.mem_cons_of_mem b member, leads⟩
  | error after =>
    obtain ⟨closed, kept, unled⟩ := explored
    refine ⟨closed, kept, List.forall_mem_cons.mpr ⟨fun last => ?_, unled⟩⟩
    rcases spent with been | lost
    · exact closed.dead (kept _ been)
    · exact Closed.unled lost

theorem advance {i : Instr} (code : p.code[b.pc]? = some i)
    (explored : Explored p text (b.next text i ++ waiting) (visited.insert b.place) found) :
    Explored p text (b :: waiting) visited found := by
  cases found with
  | ok last =>
    obtain ⟨c, member, leads⟩ := explored
    rcases List.mem_append.mp member with follows | waits
    · exact ⟨b, List.mem_cons_self, .step code follows leads⟩
    · exact ⟨c, List.mem_cons_of_mem b waits, leads⟩
  | error after =>
    obtain ⟨closed, kept, unled⟩ := explored
    refine ⟨closed, fun v member => kept v (memInsert.mpr (.inr member)),
      List.forall_mem_cons.mpr ⟨fun last => ?_, ?_⟩⟩
    · exact closed.dead (kept _ (memInsert.mpr (.inl rfl)))
    · exact fun c waits => unled c (List.mem_append_right _ waits)

end Explored

/- The search goes on until it has found a match or has no branch left, if it is given as many steps
as there are places to go to, twice over, and branches that wait. -/
theorem exploreExplored {fuel : Nat} {waiting : List Branch} {visited : Visited}
    (closed : Closed p text visited waiting) (inside : ∀ b ∈ waiting, b.pos ≤ text.size)
    (enough : 2 * (p.code.size * (text.size + 1) - visited.size) + waiting.length ≤ fuel) :
    Explored p text waiting visited (explore p text fuel waiting visited) := by
  induction fuel generalizing waiting visited with
  | zero =>
    obtain rfl : waiting = [] := List.length_eq_zero_iff.mp (by omega)
    exact ⟨closed, fun _ member => member, nofun⟩
  | succ n ih =>
    cases waiting with
    | nil => exact ⟨closed, fun _ member => member, nofun⟩
    | cons b rest =>
      obtain ⟨here, others⟩ := List.forall_mem_cons.mp inside
      rw [List.length_cons] at enough
      unfold explore
      split
      · next been => exact (ih (closed.giveUp (.inl been)) others (by omega)).giveUp (.inl been)
      · next fresh =>
        split
        · next lost => exact (ih (closed.giveUp (.inr lost)) others (by omega)).giveUp (.inr lost)
        · next done => exact ⟨b, List.mem_cons_self, .accept done⟩
        · next i other code =>
          have onward := closed.advance here code other
          refine .advance code (ih onward ?_ ?_)
          · intro c member
            rcases List.mem_append.mp member with follows | waits
            · exact nextWithin follows here
            · exact others c waits
          · have room := visitedSize onward.within
            have few : (b.next text i).length ≤ 2 := nextFew b i
            have grown : (visited.insert b.place).size = visited.size + 1 := by
              rw [Std.TreeSet.size_insert]
              exact if_neg fresh
            rw [List.length_append]
            omega

theorem exploreFrom {start : Nat} {visited : Visited} (closed : Closed p text visited [])
    (inside : start ≤ text.size) : Explored p text [⟨0, start, []⟩] visited
      (explore p text (p.bound text) [⟨0, start, []⟩] visited) := by
  refine exploreExplored (closed.await _) ?_ ?_
  · simp only [List.mem_singleton, forall_eq]
    exact inside
  · simp only [Program.bound, List.length_singleton]
    rw [Nat.mul_assoc]
    omega

structure Program.Matches (p : Program) (text : Haystack) (m : Match) : Prop where
  within : m.start ≤ text.size
  leads : ∃ pc, Leads p text ⟨0, m.start, []⟩ ⟨pc, m.stop, m.marks⟩

theorem leadsWithin {b last : Branch} (leads : Leads p text b last) (within : b.pos ≤ text.size) :
    last.pos ≤ text.size := by
  induction leads with
  | accept done => exact within
  | step code follows onward ih => exact ih (nextWithin follows within)

theorem Program.Matches.inside {m : Match} (matched : p.Matches text m) : m.stop ≤ text.size := by
  obtain ⟨pc, leads⟩ := matched.leads
  exact leadsWithin leads matched.within

structure Program.First (p : Program) (text : Haystack) (start : Nat) (m : Match) : Prop where
  matched : p.Matches text m
  behind : start ≤ m.start
  leftmost : ∀ other, p.Matches text other → start ≤ other.start → m.start ≤ other.start

def Program.Finds (p : Program) (text : Haystack) (start : Nat) : Option Match → Prop
  | some m => p.First text start m
  | none => ∀ m, p.Matches text m → m.start < start

theorem Program.Finds.earlier {start : Nat} {found : Option Match}
    (unled : ∀ last, ¬Leads p text ⟨0, start, []⟩ last) (finds : p.Finds text (start + 1) found) :
    p.Finds text start found := by
  have later : ∀ m, p.Matches text m → start ≤ m.start → start + 1 ≤ m.start := by
    intro m matched behind
    obtain ⟨pc, leads⟩ := matched.leads
    rcases Nat.eq_or_lt_of_le behind with rfl | less
    · exact absurd leads (unled _)
    · exact less
  cases found with
  | none =>
    intro m matched
    have before := finds m matched
    have := later m matched
    omega
  | some m =>
    refine ⟨finds.matched, Nat.le_of_succ_le finds.behind, fun other matched behind => ?_⟩
    exact finds.leftmost other matched (later other matched behind)

theorem searchFinds {n start : Nat} {visited : Visited} (closed : Closed p text visited [])
    (within : start + n = text.size + 1) :
    p.Finds text start (searchFrom p text n start visited) := by
  induction n generalizing start visited with
  | zero =>
    intro m matched
    have inside := matched.within
    omega
  | succ n ih =>
    have inside : start ≤ text.size := by omega
    have explored := exploreFrom closed inside
    unfold searchFrom
    revert explored
    cases explore p text (p.bound text) [⟨0, start, []⟩] visited with
    | ok last =>
      rintro ⟨b, member, leads⟩
      cases List.mem_singleton.mp member
      exact ⟨⟨inside, last.pc, leads⟩, Nat.le_refl _, fun _ _ behind => behind⟩
    | error after =>
      rintro ⟨shut, -, unled⟩
      exact (ih shut (by omega)).earlier (unled _ (List.mem_singleton_self _))

theorem findFinds (p : Program) (text : Haystack) (start : Nat) :
    p.Finds text start (p.find? text start) := by
  unfold Program.find?
  by_cases inside : start ≤ text.size
  · exact searchFinds (Closed.empty p text) (by omega)
  · rw [show text.size + 1 - start = 0 by omega]
    intro m matched
    have := matched.within
    omega

inductive Program.Found (p : Program) (text : Haystack) : Nat → List Match → Prop where
  | nil {start : Nat} (none : p.find? text start = none) : Found p text start []
  | cons {start : Nat} {m : Match} {rest : List Match} (found : p.find? text start = some m)
      (onward : Found p text m.stop rest) : Found p text start (m :: rest)

theorem matchesFound (solid : ∀ m, p.Matches text m → m.start < m.stop) {n start : Nat}
    (last : Option Nat) (enough : text.size < start + n) :
    p.Found text start (matchesFrom p text n start last) := by
  induction n generalizing start last with
  | zero =>
    refine .nil ?_
    rw [Program.find?, show text.size + 1 - start = 0 by omega]
    rfl
  | succ n ih =>
    have finds := findFinds p text start
    unfold matchesFrom nextMatch?
    cases found : p.find? text start with
    | none => exact .nil found
    | some m =>
      rw [found] at finds
      have taken := solid m finds.matched
      have behind := finds.behind
      have whole : ¬(decide (m.start = m.stop) && decide (last = some m.stop)) = true := by
        simp [Nat.ne_of_lt taken]
      simp only [if_neg whole]
      exact .cons found (ih (some m.stop) (by omega))

theorem findAllFound (solid : ∀ m, p.Matches text m → m.start < m.stop) :
    p.Found text 0 (p.findAll text) :=
  matchesFound solid none (by omega)

inductive Program.Series (p : Program) (text : Haystack) : Nat → List Match → Prop where
  | nil {start : Nat} (last : ∀ m, p.Matches text m → m.start < start) : Series p text start []
  | cons {start : Nat} {m : Match} {rest : List Match} (first : p.First text start m)
      (onward : Series p text m.stop rest) : Series p text start (m :: rest)

theorem Program.Found.series {start : Nat} {found : List Match} (trail : p.Found text start found) :
    p.Series text start found := by
  induction trail with
  | @nil start none =>
    have finds := findFinds p text start
    rw [none] at finds
    exact .nil finds
  | @cons start m rest found onward ih =>
    have finds := findFinds p text start
    rw [found] at finds
    exact .cons finds ih

theorem findAllSeries (solid : ∀ m, p.Matches text m → m.start < m.stop) :
    p.Series text 0 (p.findAll text) :=
  (findAllFound solid).series

end Codemod.Pattern
