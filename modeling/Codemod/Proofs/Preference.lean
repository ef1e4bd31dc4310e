import Codemod.Proofs.Search

/-!
Which match is found. Branches are tried in the order of preference, so the way to the end of the
program that is found takes at every branch the first of those that follow from which the end can be
reached, without coming back to where the way has been. Giving up what was tried before changes
nothing about it: from there no end is reached on a new way either.
-/
namespace Codemod.Pattern

variable {p : Program} {text : Haystack} {been : List (Nat × Nat)} {b last : Branch}

inductive Passes (p : Program) (text : Haystack) (been : List (Nat × Nat)) :
    Branch → Branch → Prop where
  | accept {b : Branch} (clear : b.place ∉ been) (done : p.code[b.pc]? = some .accept) :
      Passes p text been b b
  | step {b next last : Branch} {i : Instr} (clear : b.place ∉ been)
      (code : p.code[b.pc]? = some i) (follows : next ∈ b.next text i)
      (onward : Passes p text been next last) : Passes p text been b last

/-- The way that a program prefers, with the places it has been to before. At every branch it takes
the first of those that follow from which an end can be reached on a way that does not come back. -/
inductive Prefers (p : Program) (text : Haystack) :
    List (Nat × Nat) → Branch → Branch → Prop where
  | accept {been : List (Nat × Nat)} {b : Branch} (clear : b.place ∉ been)
      (done : p.code[b.pc]? = some .accept) : Prefers p text been b b
  | step {been : List (Nat × Nat)} {b next last : Branch} {i : Instr} {before after : List Branch}
      (clear : b.place ∉ been) (code : p.code[b.pc]? = some i)
      (follows : b.next text i = before ++ next :: after)
      (passed : ∀ c ∈ before, ∀ last, ¬Passes p text (b.place :: been) c last)
      (onward : Prefers p text (b.place :: been) next last) : Prefers p text been b last

theorem Passes.fewer {others : List (Nat × Nat)} (passes : Passes p text been b last)
    (fewer : ∀ v ∈ others, v ∈ been) : Passes p text others b last := by
  induction passes with
  | accept clear done => exact .accept (fun member => clear (fewer _ member)) done
  | step clear code follows onward ih =>
    exact .step (fun member => clear (fewer _ member)) code follows ih

theorem Prefers.passes (prefers : Prefers p text been b last) : Passes p text been b last := by
  induction prefers with
  | accept clear done => exact .accept clear done
  | @step been b next last i before after clear code follows passed onward ih =>
    have member : next ∈ b.next text i := by
      rw [follows]
      simp
    exact .step clear code member (ih.fewer fun v => List.mem_cons_of_mem _)

theorem firstUnique {α : Type} {P : α → Prop} {x y : α} {before others after more : List α}
    (same : before ++ x :: after = others ++ y :: more) (hereX : P x) (hereY : P y)
    (noneX : ∀ z ∈ before, ¬P z) (noneY : ∀ z ∈ others, ¬P z) : x = y := by
  induction before generalizing others with
  | nil =>
    cases others with
    | nil => exact (List.cons.inj same).1
    | cons z rest =>
      obtain ⟨rfl, -⟩ := List.cons.inj same
      exact absurd hereX (noneY x List.mem_cons_self)
  | cons w before ih =>
    cases others with
    | nil =>
      obtain ⟨rfl, -⟩ := List.cons.inj same
      exact absurd hereY (noneX w List.mem_cons_self)
    | cons z rest =>
      exact ih (List.cons.inj same).2 (fun v member => noneX v (List.mem_cons_of_mem _ member))
        fun v member => noneY v (List.mem_cons_of_mem _ member)

theorem Prefers.unique {other : Branch} (one : Prefers p text been b last)
    (two : Prefers p text been b other) : last = other := by
  induction one with
  | accept clear done =>
    cases two with
    | accept => rfl
    | step _ code follows =>
      cases done.symm.trans code
      simp [Branch.next] at follows
  | @step been b next last i before after clear code follows passed onward ih =>
    cases two with
    | accept _ done =>
      cases code.symm.trans done
      simp [Branch.next] at follows
    | @step _ _ next' _ i' before' after' _ code' follows' passed' onward' =>
      cases code.symm.trans code'
      have same : next = next' := firstUnique (P := fun c => ∃ last, Passes p text (b.place :: been) c last)
        (follows.symm.trans follows') ⟨_, onward.passes⟩ ⟨_, onward'.passes⟩
        (fun c member => not_exists.mpr (passed c member))
        (fun c member => not_exists.mpr (passed' c member))
      subst same
      exact ih onward'

/-- Where the search has been is on the way that it is trying, or else leads to no end without coming
back to that way: whatever follows on it has been tried as well. -/
structure Settled (p : Program) (text : Haystack) (visited : Visited) (been : List (Nat × Nat)) :
    Prop where
  kept : ∀ v ∈ been, v ∈ visited
  unaccepted : ∀ v ∈ visited, v ∉ been → p.code[v.1]? ≠ some .accept
  followed : ∀ {b c : Branch} {i : Instr}, b.place ∈ visited → b.place ∉ been →
    p.code[b.pc]? = some i → c ∈ b.next text i → c.place ∈ visited ∨ p.code[c.pc]? = none

namespace Settled

variable {visited after : Visited}

theorem start (closed : Closed p text visited []) : Settled p text visited [] where
  kept _ member := absurd member List.not_mem_nil
  unaccepted v member _ := closed.unaccepted v member
  followed member _ code follows := by
    rcases closed.followed member code follows with tried | waits | lost
    · exact .inl tried
    · contradiction
    · exact .inr lost

theorem dead (settled : Settled p text visited been)
    (spent : b.place ∈ visited ∨ p.code[b.pc]? = none) : ¬Passes p text been b last := by
  intro passes
  induction passes with
  | accept clear done =>
    rcases spent with tried | lost
    · exact settled.unaccepted _ tried clear done
    · cases lost.symm.trans done
  | step clear code follows onward ih =>
    rcases spent with tried | lost
    · exact ih (settled.followed tried clear code follows)
    · cases lost.symm.trans code

theorem advance (settled : Settled p text visited been) (b : Branch) :
    Settled p text (visited.insert b.place) (b.place :: been) where
  kept v member := by
    rw [memInsert]
    rcases List.mem_cons.mp member with rfl | member
    · exact .inl rfl
    · exact .inr (settled.kept v member)
  unaccepted v member new := by
    rcases memInsert.mp member with rfl | member
    · exact absurd List.mem_cons_self new
    · exact settled.unaccepted v member fun old => new (List.mem_cons_of_mem _ old)
  followed {c d k} member new code follows := by
    rcases memInsert.mp member with same | member
    · rw [← same] at new
      exact absurd List.mem_cons_self new
    · rw [memInsert]
      rcases settled.followed member (fun old => new (List.mem_cons_of_mem _ old)) code follows with
        tried | lost
      · exact .inl (.inr tried)
      · exact .inr lost

theorem retreat {i : Instr} (settled : Settled p text visited (b.place :: been))
    (code : p.code[b.pc]? = some i) (other : i ≠ .accept)
    (tried : ∀ c ∈ b.next text i, c.place ∈ visited ∨ p.code[c.pc]? = none) :
    Settled p text visited been where
  kept v member := settled.kept v (List.mem_cons_of_mem _ member)
  unaccepted v member new := by
    by_cases same : v = b.place
    · subst same
      exact fun done => other (Option.some.inj (code.symm.trans done))
    · exact settled.unaccepted v member (by simp [same, new])
  followed {c d k} member new here follows := by
    by_cases same : c.place = b.place
    · have pc : c.pc = b.pc := congrArg Prod.fst same
      rw [pc, code] at here
      cases here
      have places := List.mem_map_of_mem (f := Branch.place) follows
      rw [nextPlaces same] at places
      obtain ⟨twin, twinFollows, twinPlace⟩ := List.mem_map.mp places
      have twinPc : twin.pc = d.pc := congrArg Prod.fst twinPlace
      rw [← twinPlace, ← twinPc]
      exact tried twin twinFollows
    · exact settled.followed member (by simp [same, new]) here follows

end Settled

def Led (p : Program) (text : Haystack) (been : List (Nat × Nat)) (front : List Branch)
    (last : Branch) : Prop :=
  ∃ before b after, front = before ++ b :: after ∧
    (∀ c ∈ before, ∀ last, ¬Passes p text been c last) ∧ Prefers p text been b last

theorem Led.behind {front : List Branch} (led : Led p text been front last)
    (dead : ∀ last, ¬Passes p text been b last) : Led p text been (b :: front) last := by
  obtain ⟨before, c, after, rfl, passed, prefers⟩ := led
  exact ⟨b :: before, c, after, rfl, List.forall_mem_cons.mpr ⟨dead, passed⟩, prefers⟩

structure Resumed (p : Program) (text : Haystack) (been : List (Nat × Nat)) (front rest : List Branch)
    (visited : Visited) (n : Nat) (last : Branch) (m : Nat) (after : Visited) : Prop where
  fewer : m ≤ n
  found : explore p text m rest after = .ok last
  settled : Settled p text after been
  kept : ∀ v ∈ visited, v ∈ after
  tried : ∀ c ∈ front, c.place ∈ after ∨ p.code[c.pc]? = none

theorem explorePrefers {n : Nat} {front rest : List Branch} {visited : Visited}
    (settled : Settled p text visited been)
    (found : explore p text n (front ++ rest) visited = .ok last) :
    Led p text been front last ∨
      ∃ m after, Resumed p text been front rest visited n last m after := by
  induction n using Nat.strongRecOn generalizing front rest visited been with
  | ind n ih =>
    cases front with
    | nil => exact .inr ⟨n, visited, Nat.le_refl n, found, settled, fun _ member => member, by simp⟩
    | cons b front =>
      -- what the search comes to once `b` has been given up
      have later {m : Nat} {after : Visited} (fewer : m < n)
          (found : explore p text m (front ++ rest) after = .ok last)
          (settled : Settled p text after been) (kept : ∀ v ∈ visited, v ∈ after)
          (tried : b.place ∈ after ∨ p.code[b.pc]? = none) :
          Led p text been (b :: front) last ∨
            ∃ m after, Resumed p text been (b :: front) rest visited n last m after := by
        rcases ih m fewer settled found with led | ⟨k, final, resumed⟩
        · exact .inl (led.behind fun _ => settled.dead tried)
        · refine .inr ⟨k, final, ?_⟩
          exact {
            fewer := Nat.le_trans resumed.fewer (Nat.le_of_lt fewer)
            found := resumed.found
            settled := resumed.settled
            kept := fun v member => resumed.kept v (kept v member)
            tried := List.forall_mem_cons.mpr ⟨tried.imp_left (resumed.kept _), resumed.tried⟩ }
      cases n with
      | zero => contradiction
      | succ n =>
        rw [List.cons_append, explore] at found
        split at found
        · next spent =>
          exact later (Nat.lt_succ_self n) found settled (fun _ member => member) (.inl spent)
        · next fresh =>
          have clear : b.place ∉ been := fun member => fresh (settled.kept _ member)
          split at found
          · next lost =>
            exact later (Nat.lt_succ_self n) found settled (fun _ member => member) (.inr lost)
          · next done =>
            rw [← Except.ok.inj found]
            exact .inl ⟨[], b, front, rfl, by simp, .accept clear done⟩
          · next i other code =>
            rcases ih n (Nat.lt_succ_self n) (settled.advance b) found with
              ⟨before, c, after, follows, passed, prefers⟩ | ⟨m, after, resumed⟩
            · exact .inl ⟨[], b, front, rfl, by simp, .step clear code follows passed prefers⟩
            · refine later (Nat.lt_succ_of_le resumed.fewer) resumed.found
                (resumed.settled.retreat code other resumed.tried) (fun v member => ?_) (.inl ?_)
              · exact resumed.kept v (memInsert.mpr (.inr member))
              · exact resumed.kept _ (memInsert.mpr (.inl rfl))

theorem explorePrefersFrom {n start : Nat} {visited : Visited} (settled : Settled p text visited [])
    (found : explore p text n [⟨0, start, []⟩] visited = .ok last) :
    Prefers p text [] ⟨0, start, []⟩ last := by
  have found : explore p text n ([⟨0, start, []⟩] ++ []) visited = .ok last := found
  rcases explorePrefers settled found with ⟨before, b, after, only, -, prefers⟩ | ⟨m, after, resumed⟩
  · cases before with
    | nil =>
      obtain ⟨rfl, -⟩ := List.cons.inj only
      exact prefers
    | cons c before => simp at only
  · have ended := resumed.found
    cases m <;> contradiction

theorem searchPrefers {n start : Nat} {visited : Visited} {m : Match}
    (closed : Closed p text visited []) (within : start + n = text.size + 1)
    (found : searchFrom p text n start visited = some m) :
    ∃ pc, Prefers p text [] ⟨0, m.start, []⟩ ⟨pc, m.stop, m.marks⟩ := by
  induction n generalizing start visited with
  | zero => contradiction
  | succ n ih =>
    have inside : start ≤ text.size := by omega
    have explored := exploreFrom closed inside
    unfold searchFrom at found
    split at found
    · next b reached =>
      cases found
      exact ⟨b.pc, explorePrefersFrom (.start closed) reached⟩
    · next after failed =>
      rw [failed] at explored
      exact ih explored.1 (by omega) found

theorem findPrefers {start : Nat} {m : Match} (found : p.find? text start = some m) :
    ∃ pc, Prefers p text [] ⟨0, m.start, []⟩ ⟨pc, m.stop, m.marks⟩ := by
  unfold Program.find? at found
  by_cases inside : start ≤ text.size
  · exact searchPrefers (Closed.empty p text) (by omega) found
  · rw [show text.size + 1 - start = 0 by omega] at found
    contradiction

end Codemod.Pattern
