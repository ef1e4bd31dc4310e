import Codemod.Glob
import Mathlib.Data.List.Basic

/-!
How globs are read and what their tokens take. Whether wildcards stay within a segment has a part in
what they take, but none in what can be read. The rests that are kept after each token are all that
the token may leave, for no two of them have the same length; so tokens one after another take what
the first takes and then what the others do.
-/
namespace Codemod.Glob

def State.taken (s : State) (separated : Bool) : State :=
  { s with options := { s.options with separated } }

theorem twoStarsTaken (s : State) (separated : Bool) (rest : List Char) :
    (s.taken separated).twoStars rest = (s.twoStars rest).taken separated := by
  simp only [State.twoStars, apply_ite (State.taken · separated)]
  rfl

theorem stepTaken (s : State) (separated : Bool) (c : Char) (rest : List Char) :
    (s.taken separated).step c rest = (s.step c rest).map (·.taken separated) := by
  unfold State.step
  split
  · rfl
  · split
    · rw [twoStarsTaken]
      rfl
    · rfl
  · dsimp only
    split
    · rfl
    · have same : (s.taken separated).options.setsClosed = s.options.setsClosed := rfl
      rw [same, apply_ite (Except.map (State.taken · separated))]
      rfl
    · rfl
  · rfl
  · simp only [State.closeChoice, State.taken]
    split <;> rfl
  · simp only [State.taken]
    split <;> rfl
  · split <;> rfl
  · rfl

theorem stepsTaken (n : Nat) (s : State) (separated : Bool) :
    (s.taken separated).steps n = (s.steps n).map (·.taken separated) := by
  induction n generalizing s with
  | zero => rfl
  | succ n ih =>
    have same : (s.taken separated).rest = s.rest := rfl
    unfold State.steps
    rw [same]
    cases s.rest with
    | nil => rfl
    | cons c more =>
      simp only [stepTaken]
      cases s.step c more with
      | error e => rfl
      | ok next => exact ih next

theorem readTokensTaken (options : Options) (separated : Bool) (cs : List Char) :
    readTokens { options with separated } cs = readTokens options cs := by
  have taken := stepsTaken cs.length { rest := cs, options := options } separated
  simp only [State.taken] at taken
  simp only [readTokens, taken]
  cases State.steps cs.length { rest := cs, options := options } <;> rfl

theorem readBuild (text : String) :
    read text = (build {} text).map fun g => { g with options := { separated := true } } := by
  unfold read build
  rw [readTokensTaken {} true]
  cases readTokens {} text.toList <;> rfl

section Rests

variable {separated : Bool} {s r : Bytes}

theorem suffixesSuffix (member : r ∈ suffixes s) : r <:+ s := by
  induction s with
  | nil => exact List.mem_singleton.mp member ▸ List.suffix_rfl
  | cons b rest ih =>
    rcases List.mem_cons.mp member with rfl | later
    · exact List.suffix_rfl
    · exact (ih later).trans (List.suffix_cons b rest)

theorem behindSlashesSuffix (member : r ∈ behindSlashes s) : r <:+ s := by
  induction s with
  | nil => cases member
  | cons b rest ih =>
    unfold behindSlashes at member
    refine List.IsSuffix.trans ?_ (List.suffix_cons b rest)
    split at member
    · rcases List.mem_cons.mp member with rfl | later
      · exact List.suffix_rfl
      · exact ih later
    · exact ih member

theorem withinSegmentSuffix (member : r ∈ withinSegment s) : r <:+ s := by
  induction s with
  | nil => exact List.mem_singleton.mp member ▸ List.suffix_rfl
  | cons b rest ih =>
    unfold withinSegment at member
    split at member
    · exact List.mem_singleton.mp member ▸ List.suffix_rfl
    · rcases List.mem_cons.mp member with rfl | later
      · exact List.suffix_rfl
      · exact (ih later).trans (List.suffix_cons b rest)

theorem distinctSubset (l : List Bytes) : distinct l ⊆ l := by
  induction l with
  | nil => exact List.Subset.refl []
  | cons s rest ih =>
    intro r member
    rcases List.mem_cons.mp member with rfl | later
    · exact List.mem_cons_self
    · exact List.mem_cons_of_mem s (ih (List.mem_of_mem_filter later))

mutual

theorem restsSuffix : ∀ (t : Token) {s r : Bytes}, r ∈ t.rests separated s → r <:+ s
  | .literal c, s, r, member => by
    rw [Token.rests] at member
    split at member
    · exact List.mem_singleton.mp member ▸ List.drop_suffix _ s
    · cases member
  | .any, [], r, member => by
    rw [Token.rests] at member
    cases member
  | .any, b :: rest, r, member => by
    rw [Token.rests] at member
    split at member
    · cases member
    · exact List.mem_singleton.mp member ▸ List.suffix_cons b rest
  | .star, s, r, member => by
    rw [Token.rests] at member
    split at member
    · exact withinSegmentSuffix member
    · exact suffixesSuffix member
  | .leadingDirs, s, r, member => by
    rw [Token.rests] at member
    rcases List.mem_cons.mp member with rfl | later
    · exact List.suffix_rfl
    · exact behindSlashesSuffix later
  | .trailingDirs, [], r, member => by
    rw [Token.rests] at member
    cases member
  | .trailingDirs, b :: rest, r, member => by
    rw [Token.rests] at member
    split at member
    · exact (suffixesSuffix member).trans (List.suffix_cons b rest)
    · cases member
  | .innerDirs, [], r, member => by
    rw [Token.rests] at member
    cases member
  | .innerDirs, b :: rest, r, member => by
    rw [Token.rests] at member
    split at member
    · rcases List.mem_cons.mp member with rfl | later
      · exact List.suffix_cons b _
      · exact (behindSlashesSuffix later).trans (List.suffix_cons b rest)
    · cases member
  | .set negated ranges, [], r, member => by
    rw [Token.rests] at member
    cases member
  | .set negated ranges, b :: rest, r, member => by
    rw [Token.rests] at member
    split at member
    · exact List.mem_singleton.mp member ▸ List.suffix_cons b rest
    · cases member
  | .choice branches, s, r, member => by
    rw [Token.rests] at member
    split at member
    · exact List.mem_singleton.mp member ▸ List.suffix_rfl
    · exact branchRestsSuffix branches member

theorem branchRestsSuffix :
    ∀ (branches : List (List Token)) {s r : Bytes}, r ∈ branchRests separated s branches → r <:+ s
  | [], s, r, member => by
    rw [branchRests] at member
    cases member
  | branch :: more, s, r, member => by
    rw [branchRests] at member
    rcases List.mem_append.mp member with own | later
    · split at own
      · cases own
      · obtain ⟨_, one, suffix⟩ := restsAfterSuffix branch own
        exact List.mem_singleton.mp one ▸ suffix
    · exact branchRestsSuffix more later

theorem restsAfterSuffix :
    ∀ (ts : List Token) {ss : List Bytes} {r : Bytes}, r ∈ restsAfter separated ss ts →
      ∃ s ∈ ss, r <:+ s
  | [], ss, r, member => by
    rw [restsAfter] at member
    exact ⟨r, member, List.suffix_rfl⟩
  | t :: more, ss, r, member => by
    rw [restsAfter] at member
    obtain ⟨mid, inside, later⟩ := restsAfterSuffix more member
    obtain ⟨s, one, first⟩ := List.mem_flatMap.mp (distinctSubset _ inside)
    exact ⟨s, one, later.trans (restsSuffix t first)⟩

end

theorem memDistinct {whole : Bytes} {l : List Bytes} (ends : ∀ s ∈ l, s <:+ whole) :
    r ∈ distinct l ↔ r ∈ l := by
  refine ⟨fun member => distinctSubset l member, fun member => ?_⟩
  induction l with
  | nil => cases member
  | cons s rest ih =>
    obtain ⟨here, further⟩ := List.forall_mem_cons.mp ends
    by_cases same : r.length = s.length
    · have equal : r = s := by
        rw [List.suffix_iff_eq_drop.mp (ends r member), List.suffix_iff_eq_drop.mp here, same]
      exact equal ▸ List.mem_cons_self
    · have other : r ≠ s := fun equal => same (congrArg List.length equal)
      have later := ih further ((List.mem_cons.mp member).resolve_left other)
      exact List.mem_cons_of_mem s (List.mem_filter.mpr ⟨later, by simpa using same⟩)

def Leaves (separated : Bool) : List Token → Bytes → Bytes → Prop
  | [], s, r => s = r
  | t :: more, s, r => ∃ mid ∈ t.rests separated s, Leaves separated more mid r

theorem leavesAppend {ts us : List Token} :
    Leaves separated (ts ++ us) s r ↔ ∃ mid, Leaves separated ts s mid ∧ Leaves separated us mid r := by
  induction ts generalizing s with
  | nil => simp [Leaves]
  | cons t more ih =>
    simp only [List.cons_append, Leaves, ih]
    constructor
    · rintro ⟨mid, first, last, further, onward⟩
      exact ⟨last, ⟨mid, first, further⟩, onward⟩
    · rintro ⟨last, ⟨mid, first, further⟩, onward⟩
      exact ⟨mid, first, last, further, onward⟩

theorem restsAfterLeaves {whole : Bytes} {ts : List Token} {ss : List Bytes}
    (ends : ∀ s ∈ ss, s <:+ whole) :
    r ∈ restsAfter separated ss ts ↔ ∃ s ∈ ss, Leaves separated ts s r := by
  induction ts generalizing ss with
  | nil => simp [restsAfter, Leaves]
  | cons t more ih =>
    have left : ∀ mid ∈ ss.flatMap (fun s => t.rests separated s), mid <:+ whole := by
      intro mid member
      obtain ⟨s, one, first⟩ := List.mem_flatMap.mp member
      exact (restsSuffix t first).trans (ends s one)
    rw [restsAfter, ih fun mid member => left mid (distinctSubset _ member)]
    simp only [memDistinct left, List.mem_flatMap, Leaves]
    constructor
    · rintro ⟨mid, ⟨s, one, first⟩, onward⟩
      exact ⟨s, one, mid, first, onward⟩
    · rintro ⟨s, one, mid, first, onward⟩
      exact ⟨mid, ⟨s, one, first⟩, onward⟩

theorem matchesLeaves {ts : List Token} (other : ts ≠ [.leadingDirs]) :
    matchesBytes separated ts s = true ↔ Leaves separated ts s [] := by
  have ends : ∀ x ∈ [s], x <:+ s := fun x member => List.mem_singleton.mp member ▸ List.suffix_rfl
  unfold matchesBytes
  split
  · contradiction
  · rw [List.any_eq_true]
    constructor
    · rintro ⟨r, member, empty⟩
      rw [List.isEmpty_iff.mp empty, restsAfterLeaves ends] at member
      simpa using member
    · intro leaves
      exact ⟨[], (restsAfterLeaves ends).mpr ⟨s, List.mem_singleton_self s, leaves⟩, rfl⟩

end Rests

end Codemod.Glob
