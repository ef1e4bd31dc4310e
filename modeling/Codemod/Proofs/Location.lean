import Codemod.Engine.Counting
import Codemod.Proofs.Parts
import Codemod.Proofs.Utf8
import Codemod.RuleSet

/-!
Where a scope applies, told by segments. Each ordinary part of a location takes one segment of a
path, `**` takes whole segments, and nothing else crosses a slash.
-/
namespace Codemod

namespace Path

theorem segmentsClear {cs s : List Char} (member : s ∈ segments cs) : '/' ∉ s := by
  induction cs generalizing s with
  | nil =>
    rw [segments, List.mem_singleton] at member
    exact member ▸ List.not_mem_nil
  | cons c rest ih =>
    obtain ⟨first, more, split⟩ := List.exists_cons_of_ne_nil (segmentsNonempty rest)
    rw [segments, split] at member
    rw [split] at ih
    split at member
    · rcases List.mem_cons.mp member with rfl | later
      · exact List.not_mem_nil
      · exact ih later
    · next other =>
      rcases List.mem_cons.mp member with rfl | later
      · exact List.not_mem_cons_of_ne_of_not_mem (Ne.symm other) (ih List.mem_cons_self)
      · exact ih (List.mem_cons_of_mem first later)

end Path

namespace Glob

def Stands (c : Char) (bytes : Bytes) : Prop :=
  if c = '*' then True else if c = '?' then bytes.length = 1 else bytes = String.utf8EncodeChar c

instance (c : Char) (bytes : Bytes) : Decidable (Stands c bytes) := by
  unfold Stands
  infer_instance

inductive Wild : List Char → Bytes → Prop
  | nil : Wild [] []
  | cons {c part taken bytes} (own : Stands c taken) (onward : Wild part bytes) :
    Wild (c :: part) (taken ++ bytes)

/-- The segments of a path are shared out among the parts of a location: one to each ordinary part,
any number to `**`, but one at least if it is the last. -/
inductive Fits : List (List Char) → List Bytes → Prop
  | nil : Fits [] []
  | part {part parts segment segments} (other : part ≠ crossing) (own : Wild part segment)
      (onward : Fits parts segments) : Fits (part :: parts) (segment :: segments)
  | last {segments} (some : segments ≠ []) : Fits [crossing] segments
  | across {parts left} (taken : List Bytes) (more : parts ≠ []) (onward : Fits parts left) :
    Fits (crossing :: parts) (taken ++ left)

theorem fitsNil {segments : List Bytes} : Fits [] segments ↔ segments = [] := by
  constructor
  · intro fits
    cases fits
    rfl
  · rintro rfl
    exact .nil

theorem fitsPart {part : List Char} {parts : List (List Char)} {segments : List Bytes}
    (other : part ≠ crossing) :
    Fits (part :: parts) segments ↔
      ∃ own left, segments = own :: left ∧ Wild part own ∧ Fits parts left := by
  constructor
  · intro fits
    cases fits with
    | part _ own onward => exact ⟨_, _, rfl, own, onward⟩
    | last => exact absurd rfl other
    | across => exact absurd rfl other
  · rintro ⟨own, left, rfl, wild, onward⟩
    exact .part other wild onward

theorem fitsLast {segments : List Bytes} : Fits [crossing] segments ↔ segments ≠ [] := by
  constructor
  · intro fits
    cases fits with
    | part other => exact absurd rfl other
    | last some => exact some
    | across _ more => exact absurd rfl more
  · exact .last

theorem fitsAcross {parts : List (List Char)} {segments : List Bytes} (more : parts ≠ []) :
    Fits (crossing :: parts) segments ↔ ∃ left, left <:+ segments ∧ Fits parts left := by
  constructor
  · intro fits
    cases fits with
    | part other => exact absurd rfl other
    | last => exact absurd rfl more
    | across taken _ onward => exact ⟨_, List.suffix_append taken _, onward⟩
  · rintro ⟨left, ⟨taken, rfl⟩, onward⟩
    exact .across taken more onward

theorem fitsRepeated {parts : List (List Char)} {segments : List Bytes} :
    Fits (crossing :: crossing :: parts) segments ↔ Fits (crossing :: parts) segments := by
  rw [fitsAcross (List.cons_ne_nil crossing parts)]
  constructor
  · rintro ⟨left, suffix, fits⟩
    by_cases last : parts = []
    · subst last
      rw [fitsLast] at fits ⊢
      rintro rfl
      exact fits (List.suffix_nil.mp suffix)
    · rw [fitsAcross last] at fits ⊢
      obtain ⟨further, within, onward⟩ := fits
      exact ⟨further, within.trans suffix, onward⟩
  · exact fun fits => ⟨segments, List.suffix_rfl, fits⟩

theorem encodeHigh {c : Char} {b : UInt8} (high : 127 < c.val.toNat)
    (member : b ∈ String.utf8EncodeChar c) : 128 ≤ b.toNat := by
  have byte {n : Nat} (small : n < 256) (large : 128 ≤ n) (same : b = UInt8.ofNat n) :
      128 ≤ b.toNat := by rwa [same, Utf8.byteValue small]
  by_cases two : c.val.toNat ≤ 2047
  · rw [Utf8.encodeTwo high two] at member
    simp only [List.mem_cons, List.not_mem_nil, or_false] at member
    rcases member with same | same
    all_goals exact byte (by omega) (by omega) same
  · by_cases three : c.val.toNat ≤ 65535
    · rw [Utf8.encodeThree (by omega) three] at member
      simp only [List.mem_cons, List.not_mem_nil, or_false] at member
      rcases member with same | same | same
      all_goals exact byte (by omega) (by omega) same
    · rw [Utf8.encodeFour (by omega)] at member
      simp only [List.mem_cons, List.not_mem_nil, or_false] at member
      rcases member with same | same | same | same
      all_goals exact byte (by omega) (by omega) same

theorem encodeSlash {c : Char} (member : slash ∈ String.utf8EncodeChar c) : c = '/' := by
  by_cases low : c.val.toNat ≤ 127
  · rw [Utf8.encodeOne low, List.mem_singleton] at member
    have same : slash.toNat = c.val.toNat := by rw [member, Utf8.byteValue (by omega)]
    exact Char.ext (UInt32.toNat_inj.mp same.symm)
  · exact absurd (encodeHigh (by omega) member) (by decide)

theorem slashClear {cs : List Char} (clear : '/' ∉ cs) : slash ∉ bytesOf cs := by
  intro member
  obtain ⟨c, inside, byte⟩ := List.mem_flatMap.mp member
  exact clear (encodeSlash byte ▸ inside)

def behind (segments : List Bytes) : Bytes := segments.flatMap (slash :: ·)

def joined : List Bytes → Bytes
  | [] => []
  | s :: rest => s ++ behind rest

theorem behindCons (s : Bytes) (rest : List Bytes) : behind (s :: rest) = slash :: joined (s :: rest) :=
  rfl

theorem bytesUnsegments (ss : List (List Char)) :
    bytesOf (Path.unsegments ss) = joined (ss.map bytesOf) := by
  induction ss with
  | nil => rfl
  | cons s rest ih =>
    cases rest with
    | nil => simp [Path.unsegments, joined, behind]
    | cons t more =>
      have split : bytesOf (s ++ '/' :: Path.unsegments (t :: more)) =
          bytesOf s ++ slash :: bytesOf (Path.unsegments (t :: more)) := by
        simp only [bytesOf, List.flatMap_append, List.flatMap_cons]
        rfl
      rw [Path.unsegmentsCons s (List.cons_ne_nil t more), split, ih]
      rfl

theorem memWithinSegment {s r : Bytes} :
    r ∈ withinSegment s ↔ ∃ run, s = run ++ r ∧ slash ∉ run := by
  induction s with
  | nil =>
    rw [withinSegment, List.mem_singleton]
    constructor
    · rintro rfl
      exact ⟨[], rfl, List.not_mem_nil⟩
    · rintro ⟨run, whole, -⟩
      exact (List.append_eq_nil_iff.mp whole.symm).2
  | cons b rest ih =>
    rw [withinSegment]
    split
    · next cut =>
      rw [List.mem_singleton]
      constructor
      · rintro rfl
        exact ⟨[], rfl, List.not_mem_nil⟩
      · rintro ⟨run, whole, clear⟩
        cases run with
        | nil => exact whole.symm
        | cons d run =>
          cases (List.cons.inj whole).1
          exact absurd (cut ▸ List.mem_cons_self) clear
    · next other =>
      rw [List.mem_cons, ih]
      constructor
      · rintro (rfl | ⟨run, rfl, clear⟩)
        · exact ⟨[], rfl, List.not_mem_nil⟩
        · exact ⟨b :: run, rfl, List.not_mem_cons_of_ne_of_not_mem (Ne.symm other) clear⟩
      · rintro ⟨run, whole, clear⟩
        cases run with
        | nil => exact .inl whole.symm
        | cons d run =>
          exact .inr ⟨run, (List.cons.inj whole).2, fun later => clear (List.mem_cons_of_mem d later)⟩

theorem memAny {s r : Bytes} :
    r ∈ Token.any.rests true s ↔ ∃ b, s = b :: r ∧ b ≠ slash := by
  cases s with
  | nil => simp [Token.rests]
  | cons b rest =>
    rw [Token.rests]
    by_cases cut : b = slash
    · simp [cut]
    · simp [cut, eq_comm]

theorem memLiteral {c : Char} {s r : Bytes} :
    r ∈ (Token.literal c).rests true s ↔ s = String.utf8EncodeChar c ++ r := by
  rw [Token.rests]
  split
  · next first =>
    obtain ⟨rest, rfl⟩ := List.isPrefixOf_iff_prefix.mp first
    rw [List.mem_singleton, List.drop_left, List.append_right_inj, eq_comm]
  · next other =>
    constructor
    · intro member
      cases member
    · rintro rfl
      exact absurd (List.isPrefixOf_iff_prefix.mpr (List.prefix_append _ r)) other

theorem memToken {c : Char} (clear : '/' ≠ c) {s r : Bytes} :
    r ∈ (tokenOf c).rests true s ↔ ∃ own, s = own ++ r ∧ slash ∉ own ∧ Stands c own := by
  by_cases mark : c = '?'
  · subst mark
    rw [show tokenOf '?' = .any from rfl, memAny]
    constructor
    · rintro ⟨b, rfl, apart⟩
      exact ⟨[b], rfl, by simpa using apart.symm, rfl⟩
    · rintro ⟨own, rfl, apart, stands⟩
      obtain ⟨b, rfl⟩ := List.length_eq_one_iff.mp stands
      exact ⟨b, rfl, by simpa [eq_comm] using apart⟩
  · by_cases star : c = '*'
    · subst star
      rw [show tokenOf '*' = .star from rfl, Token.rests, if_pos rfl, memWithinSegment]
      simp [Stands]
    · rw [show tokenOf c = .literal c by rw [tokenOf, if_neg mark, if_neg star], memLiteral]
      simp only [Stands, if_neg star, if_neg mark]
      constructor
      · rintro rfl
        exact ⟨_, rfl, fun inside => clear (encodeSlash inside).symm, rfl⟩
      · rintro ⟨own, rfl, -, rfl⟩
        rfl

theorem leavesPart {part : List Char} (clear : '/' ∉ part) {s r : Bytes} :
    Leaves true (part.map tokenOf) s r ↔ ∃ run, s = run ++ r ∧ slash ∉ run ∧ Wild part run := by
  induction part generalizing s with
  | nil =>
    rw [List.map_nil, Leaves]
    constructor
    · rintro rfl
      exact ⟨[], rfl, List.not_mem_nil, .nil⟩
    · rintro ⟨run, rfl, -, wild⟩
      cases wild
      rfl
  | cons c more ih =>
    obtain ⟨other, further⟩ := List.ne_and_not_mem_of_not_mem_cons clear
    simp only [List.map_cons, Leaves, memToken other, ih further]
    constructor
    · rintro ⟨mid, ⟨own, rfl, apart, stands⟩, run, rfl, onward, wild⟩
      refine ⟨own ++ run, (List.append_assoc ..).symm, ?_, .cons stands wild⟩
      exact fun inside => (List.mem_append.mp inside).elim apart onward
    · rintro ⟨run, rfl, apart, wild⟩
      cases wild with
      | @cons _ _ own run stands onward =>
        rw [List.mem_append, not_or] at apart
        exact ⟨run ++ r, ⟨own, List.append_assoc .., apart.1, stands⟩, run, rfl, apart.2, onward⟩

theorem behindSlashesAppend {s : Bytes} (clear : slash ∉ s) (t : Bytes) :
    behindSlashes (s ++ t) = behindSlashes t := by
  induction s with
  | nil => rfl
  | cons b rest ih =>
    obtain ⟨apart, further⟩ := List.ne_and_not_mem_of_not_mem_cons clear
    rw [List.cons_append, behindSlashes, if_neg (Ne.symm apart), ih further]

theorem memBehind {segments : List Bytes} (clear : ∀ s ∈ segments, slash ∉ s) {r : Bytes} :
    r ∈ behindSlashes (behind segments) ↔
      ∃ left, left <:+ segments ∧ left ≠ [] ∧ r = joined left := by
  induction segments with
  | nil =>
    constructor
    · intro member
      cases member
    · rintro ⟨left, suffix, filled, -⟩
      exact absurd (List.suffix_nil.mp suffix) filled
  | cons s rest ih =>
    obtain ⟨own, others⟩ := List.forall_mem_cons.mp clear
    rw [behindCons, behindSlashes, if_pos rfl, List.mem_cons, joined, behindSlashesAppend own,
      ih others]
    constructor
    · rintro (rfl | ⟨left, suffix, filled, rfl⟩)
      · exact ⟨s :: rest, List.suffix_rfl, List.cons_ne_nil s rest, rfl⟩
      · exact ⟨left, suffix.trans (List.suffix_cons s rest), filled, rfl⟩
    · rintro ⟨left, suffix, filled, rfl⟩
      rcases List.suffix_cons_iff.mp suffix with rfl | within
      · exact .inl rfl
      · exact .inr ⟨left, within, filled, rfl⟩

theorem memInner {s r : Bytes} :
    r ∈ Token.innerDirs.rests true s ↔ ∃ rest, s = slash :: rest ∧ r ∈ behindSlashes s := by
  cases s with
  | nil => simp [Token.rests]
  | cons b rest =>
    rw [Token.rests]
    by_cases cut : b = slash
    · simp [cut, behindSlashes]
    · simp [cut]

theorem memTrailing {s r : Bytes} :
    r ∈ Token.trailingDirs.rests true s ↔ ∃ rest, s = slash :: rest ∧ r ∈ suffixes rest := by
  cases s with
  | nil => simp [Token.rests]
  | cons b rest =>
    rw [Token.rests]
    by_cases cut : b = slash
    · simp [cut]
    · simp [cut]

theorem suffixesNil (s : Bytes) : [] ∈ suffixes s := by
  induction s with
  | nil => exact List.mem_singleton_self []
  | cons b rest ih => exact List.mem_cons_of_mem _ ih

namespace Opening

def text : Opening → List Bytes → Bytes
  | .start, segments | .leading, segments => joined segments
  | .slash, segments | .inner, segments => behind segments

def ahead : Opening → List (List Char) → List (List Char)
  | .start, parts | .slash, parts => parts
  | .leading, parts | .inner, parts => crossing :: parts

def Reaches : Opening → List Bytes → List Bytes → Prop
  | .start, segments, left | .slash, segments, left => left = segments
  | .leading, segments, left | .inner, segments, left => left <:+ segments

def Rooted : Opening → Prop
  | .start | .leading => True
  | .slash | .inner => False

theorem acrossText (o : Opening) (segments : List Bytes) :
    o.across.text segments = o.text segments := by
  cases o <;> rfl

theorem acrossRooted (o : Opening) : o.across.Rooted ↔ o.Rooted := by
  cases o <;> exact Iff.rfl

theorem acrossFits (o : Opening) {parts : List (List Char)} {segments : List Bytes} :
    Fits (o.across.ahead parts) segments ↔ Fits (o.ahead (crossing :: parts)) segments := by
  cases o with
  | start => exact Iff.rfl
  | leading => exact fitsRepeated.symm
  | slash => exact Iff.rfl
  | inner => exact fitsRepeated.symm

theorem Reaches.suffix {o : Opening} {segments left : List Bytes} (reaches : o.Reaches segments left) :
    left <:+ segments := by
  cases o with
  | start => exact reaches ▸ List.suffix_rfl
  | leading => exact reaches
  | slash => exact reaches ▸ List.suffix_rfl
  | inner => exact reaches

theorem fitsAhead (o : Opening) {parts : List (List Char)} (more : parts ≠ []) {segments : List Bytes} :
    Fits (o.ahead parts) segments ↔ ∃ left, o.Reaches segments left ∧ Fits parts left := by
  cases o with
  | start => simp [ahead, Reaches]
  | leading => exact fitsAcross more
  | slash => simp [ahead, Reaches]
  | inner => exact fitsAcross more

theorem leaves (o : Opening) {segments : List Bytes} (clear : ∀ s ∈ segments, Glob.slash ∉ s)
    (given : o.Rooted → segments ≠ []) {r : Bytes} :
    Leaves true o.tokens (o.text segments) r ↔
      ∃ left, o.Reaches segments left ∧ left ≠ [] ∧ r = joined left := by
  cases o with
  | start =>
    have filled := given trivial
    simp [tokens, text, Reaches, Leaves, filled, eq_comm]
  | leading =>
    obtain ⟨s, rest, rfl⟩ := List.exists_cons_of_ne_nil (given trivial)
    have rests : Token.leadingDirs.rests true (joined (s :: rest)) =
        behindSlashes (behind (s :: rest)) := by
      rw [Token.rests, behindCons, behindSlashes, if_pos rfl]
    simp only [tokens, text, Leaves, rests, memBehind clear, exists_eq_right, Reaches]
  | slash =>
    simp only [tokens, text, Leaves, memLiteral, exists_eq_right, Reaches, exists_eq_left]
    cases segments with
    | nil => simp [behind]
    | cons s rest =>
      rw [behindCons]
      constructor
      · exact fun same => ⟨List.cons_ne_nil s rest, (List.cons.inj same).2.symm⟩
      · rintro ⟨-, rfl⟩
        rfl
  | inner =>
    simp only [tokens, text, Leaves, memInner, exists_eq_right, memBehind clear, Reaches]
    cases segments with
    | nil =>
      constructor
      · rintro ⟨_, same, -⟩
        cases same
      · rintro ⟨left, suffix, filled, -⟩
        exact absurd (List.suffix_nil.mp suffix) filled
    | cons s rest =>
      rw [behindCons]
      simp

end Opening

def Cut (s : Bytes) : Prop := s = [] ∨ ∃ rest, s = slash :: rest

theorem behindCut (segments : List Bytes) : Cut (behind segments) := by
  cases segments with
  | nil => exact .inl rfl
  | cons s rest => exact .inr ⟨joined (s :: rest), rfl⟩

theorem Cut.clear {s a : Bytes} {b : UInt8} (cut : Cut s) (same : s = b :: a) : b = slash := by
  rcases cut with rfl | ⟨rest, rfl⟩
  · cases same
  · exact (List.cons.inj same).1.symm

theorem cutUnique {a b s t : Bytes} (clear : slash ∉ a) (other : slash ∉ b) (first : Cut s)
    (second : Cut t) (same : a ++ s = b ++ t) : a = b ∧ s = t := by
  induction a generalizing b with
  | nil =>
    cases b with
    | nil => exact ⟨rfl, same⟩
    | cons x b => exact absurd (first.clear same ▸ List.mem_cons_self) other
  | cons x a ih =>
    cases b with
    | nil => exact absurd (second.clear same.symm ▸ List.mem_cons_self) clear
    | cons y b =>
      obtain ⟨rfl, rest⟩ := List.cons.inj same
      obtain ⟨rfl, left⟩ := ih (List.ne_and_not_mem_of_not_mem_cons clear).2
        (List.ne_and_not_mem_of_not_mem_cons other).2 rest
      exact ⟨rfl, left⟩

theorem laidCut {parts : List (List Char)} {o : Opening} (inside : ¬o.Rooted) {s r : Bytes}
    (leaves : Leaves true (laid o parts) s r) (done : r = []) : Cut s := by
  induction parts generalizing o with
  | nil => exact .inl (leaves.trans done)
  | cons part rest ih =>
    rw [laid] at leaves
    split at leaves
    · split at leaves
      · obtain ⟨mid, member, -⟩ := leaves
        cases o with
        | start => exact absurd trivial inside
        | leading => exact absurd trivial inside
        | slash | inner =>
          obtain ⟨left, rfl, -⟩ := memTrailing.mp member
          exact .inr ⟨left, rfl⟩
      · exact ih (o.acrossRooted.not.mpr inside) leaves
    · rw [List.append_assoc, leavesAppend] at leaves
      obtain ⟨mid, opening, -⟩ := leaves
      cases o with
      | start => exact absurd trivial inside
      | leading => exact absurd trivial inside
      | slash =>
        obtain ⟨after, member, -⟩ := opening
        exact .inr ⟨after, memLiteral.mp member⟩
      | inner =>
        obtain ⟨after, member, -⟩ := opening
        obtain ⟨left, rfl, -⟩ := memInner.mp member
        exact .inr ⟨left, rfl⟩

theorem leavesTrailing {segments : List Bytes} :
    Leaves true [.trailingDirs] (behind segments) [] ↔ segments ≠ [] := by
  simp only [Leaves, exists_eq_right, memTrailing]
  cases segments with
  | nil => simp [behind]
  | cons s rest => exact ⟨fun _ => List.cons_ne_nil s rest, fun _ => ⟨_, rfl, suffixesNil _⟩⟩

theorem laidFits {parts : List (List Char)} {o : Opening} {segments : List Bytes}
    (known : ∀ part ∈ parts, '/' ∉ part) (clear : ∀ s ∈ segments, slash ∉ s)
    (given : o.Rooted → segments ≠ []) (ordinary : o.Rooted → ∃ part ∈ parts, part ≠ crossing)
    (more : parts = [] → o = .slash) :
    Leaves true (laid o parts) (o.text segments) [] ↔ Fits (o.ahead parts) segments := by
  induction parts generalizing o segments with
  | nil =>
    cases more rfl
    cases segments with
    | nil => exact ⟨fun _ => .nil, fun _ => rfl⟩
    | cons s rest => simp [laid, Leaves, Opening.text, Opening.ahead, behindCons, fitsNil]
  | cons part rest ih =>
    obtain ⟨own, others⟩ := List.forall_mem_cons.mp known
    rw [laid]
    split
    · next crossed =>
      subst crossed
      split
      · next last =>
        subst last
        cases o with
        -- Here the token is the one that takes any text, so these are left out.
        | start | leading =>
          obtain ⟨part, member, other⟩ := ordinary trivial
          exact absurd (List.mem_singleton.mp member) other
        | slash => exact leavesTrailing.trans fitsLast.symm
        | inner => exact leavesTrailing.trans (fitsRepeated.trans fitsLast).symm
      · next last =>
        rw [← o.acrossText, ← o.acrossFits]
        refine ih others clear (given ∘ o.acrossRooted.mp) (fun rooted => ?_) (absurd · last)
        simpa using ordinary (o.acrossRooted.mp rooted)
    · next other =>
      rw [List.append_assoc, leavesAppend, o.fitsAhead (List.cons_ne_nil part rest)]
      simp only [o.leaves clear given, leavesAppend, leavesPart own, fitsPart other]
      have tail {later : List Bytes} (apart : ∀ s ∈ later, slash ∉ s) :
          Leaves true (laid .slash rest) (behind later) [] ↔ Fits rest later :=
        ih others apart False.elim False.elim fun _ => rfl
      constructor
      · rintro ⟨mid, ⟨left, reaches, filled, rfl⟩, r, ⟨run, whole, apart, wild⟩, onward⟩
        obtain ⟨s, later, rfl⟩ := List.exists_cons_of_ne_nil filled
        obtain ⟨first, within⟩ :=
          List.forall_mem_cons.mp fun x member => clear x (reaches.suffix.mem member)
        -- The part ends where the segment does: what is behind it goes on at a slash only.
        obtain ⟨rfl, rfl⟩ := cutUnique first apart (behindCut later) (laidCut id onward rfl) whole
        exact ⟨_, reaches, _, later, rfl, wild, (tail within).mp onward⟩
      · rintro ⟨left, reaches, s, later, rfl, wild, fits⟩
        obtain ⟨first, within⟩ :=
          List.forall_mem_cons.mp fun x member => clear x (reaches.suffix.mem member)
        exact ⟨_, ⟨_, reaches, List.cons_ne_nil s later, rfl⟩, _, ⟨s, rfl, first, wild⟩,
          (tail within).mpr fits⟩

/- Two stars alone come to one token, which takes any text; other locations have more. -/
theorem laidCrossing {parts : List (List Char)} {o : Opening} (rooted : o.Rooted) (given : parts ≠ [])
    (all : ∀ part ∈ parts, part = crossing) : laid o parts = [.leadingDirs] := by
  induction parts generalizing o with
  | nil => exact absurd rfl given
  | cons part rest ih =>
    obtain ⟨own, others⟩ := List.forall_mem_cons.mp all
    rw [laid, if_pos own]
    split
    · cases o with
      | start | leading => rfl
      | slash | inner => exact rooted.elim
    · next more => exact ih (o.acrossRooted.mpr rooted) more others

theorem laidOther {parts : List (List Char)} {o : Opening} (filled : ∀ part ∈ parts, part ≠ [])
    (ordinary : ∃ part ∈ parts, part ≠ crossing) : laid o parts ≠ [.leadingDirs] := by
  induction parts generalizing o with
  | nil => simp at ordinary
  | cons part rest ih =>
    obtain ⟨own, others⟩ := List.forall_mem_cons.mp filled
    rw [laid]
    split
    · next crossed =>
      have further : ∃ part ∈ rest, part ≠ crossing := by simpa [crossed] using ordinary
      split
      · next last => simp [last] at further
      · exact ih others further
    · obtain ⟨c, more, rfl⟩ := List.exists_cons_of_ne_nil own
      intro same
      have member : tokenOf c ∈ [Token.leadingDirs] := by rw [← same]; simp
      have token := List.mem_singleton.mp member
      unfold tokenOf at token
      split at token
      · cases token
      · split at token <;> cases token

theorem fitsCrossing {parts : List (List Char)} {segments : List Bytes} (given : parts ≠ [])
    (all : ∀ part ∈ parts, part = crossing) (filled : segments ≠ []) : Fits parts segments := by
  induction parts with
  | nil => exact absurd rfl given
  | cons part rest ih =>
    obtain ⟨rfl, others⟩ := List.forall_mem_cons.mp all
    by_cases last : rest = []
    · exact last ▸ .last filled
    · exact .across [] last (ih last others)

theorem matchesLaid {parts : List (List Char)} {segments : List Bytes} (given : parts ≠ [])
    (known : ∀ part ∈ parts, part ≠ [] ∧ '/' ∉ part) (filled : segments ≠ [])
    (clear : ∀ s ∈ segments, slash ∉ s) :
    matchesBytes true (laid .start parts) (joined segments) = true ↔ Fits parts segments := by
  by_cases ordinary : ∃ part ∈ parts, part ≠ crossing
  · have other := laidOther (o := .start) (fun part member => (known part member).1) ordinary
    rw [matchesLeaves other]
    exact laidFits (fun part member => (known part member).2) clear (fun _ => filled)
      (fun _ => ordinary) fun nothing => absurd nothing given
  · have all : ∀ part ∈ parts, part = crossing := by simpa using ordinary
    rw [laidCrossing (o := .start) trivial given all]
    exact ⟨fun _ => fitsCrossing given all filled, fun _ => rfl⟩

theorem wildName {name : List Char} {bytes : Bytes} (plain : '*' ∉ name ∧ '?' ∉ name) :
    Wild name bytes ↔ bytes = bytesOf name := by
  induction name generalizing bytes with
  | nil =>
    constructor
    · intro wild
      cases wild
      rfl
    · rintro rfl
      exact .nil
  | cons c more ih =>
    obtain ⟨star, stars⟩ := List.ne_and_not_mem_of_not_mem_cons plain.1
    obtain ⟨mark, marks⟩ := List.ne_and_not_mem_of_not_mem_cons plain.2
    have stands {taken : Bytes} : Stands c taken ↔ taken = String.utf8EncodeChar c := by
      rw [Stands, if_neg star.symm, if_neg mark.symm]
    constructor
    · intro wild
      cases wild with
      | cons own onward =>
        rw [stands.mp own, (ih ⟨stars, marks⟩).mp onward]
        rfl
    · rintro rfl
      exact .cons (stands.mpr rfl) ((ih ⟨stars, marks⟩).mpr rfl)

theorem fitsNames {names parts : List (List Char)} {segments : List Bytes}
    (plain : ∀ name ∈ names, '*' ∉ name ∧ '?' ∉ name) :
    Fits (names ++ parts) segments ↔
      ∃ left, segments = names.map bytesOf ++ left ∧ Fits parts left := by
  induction names generalizing segments with
  | nil => simp
  | cons name rest ih =>
    obtain ⟨own, others⟩ := List.forall_mem_cons.mp plain
    have other : name ≠ crossing := by
      rintro rfl
      exact own.1 List.mem_cons_self
    simp only [List.cons_append, fitsPart other, wildName own, ih others, List.map_cons]
    constructor
    · rintro ⟨_, _, rfl, rfl, left, rfl, onward⟩
      exact ⟨left, rfl, onward⟩
    · rintro ⟨left, rfl, onward⟩
      exact ⟨_, _, rfl, rfl, left, rfl, onward⟩

theorem mapBytes {segments names : List (List Char)} :
    segments.map bytesOf = names.map bytesOf ↔ segments = names :=
  (List.map_injective_iff.mpr fun _ _ => bytesInjective).eq_iff

section Names

variable {names segments : List (List Char)}

theorem fitsBelow (plain : ∀ name ∈ names, '*' ∉ name ∧ '?' ∉ name) :
    Fits (names ++ [crossing]) (segments.map bytesOf) ↔
      ∃ below, below ≠ [] ∧ segments = names ++ below := by
  simp only [fitsNames plain, fitsLast]
  constructor
  · rintro ⟨left, whole, some⟩
    obtain ⟨first, below, split, own, rfl⟩ := List.map_eq_append_iff.mp whole
    rw [mapBytes.mp own] at split
    exact ⟨below, by simpa using some, split⟩
  · rintro ⟨below, some, rfl⟩
    exact ⟨below.map bytesOf, List.map_append, by simpa using some⟩

theorem fitsDeep (plain : ∀ name ∈ names, '*' ∉ name ∧ '?' ∉ name) (filled : segments ≠ []) :
    Fits (crossing :: names) (segments.map bytesOf) ↔ ∃ above, segments = above ++ names := by
  by_cases bare : names = []
  · subst bare
    simpa [fitsLast] using filled
  · have own {left : List Bytes} : Fits names left ↔ left = names.map bytesOf := by
      have fits := @fitsNames names [] left plain
      simpa [fitsNil] using fits
    simp only [fitsAcross bare, own, exists_eq_right]
    constructor
    · rintro ⟨above, whole⟩
      obtain ⟨first, last, split, -, same⟩ := List.map_eq_append_iff.mp whole.symm
      exact ⟨first, by rw [split, mapBytes.mp same]⟩
    · rintro ⟨above, rfl⟩
      exact ⟨above.map bytesOf, List.map_append.symm⟩

end Names

theorem fitsLength {parts : List (List Char)} {segments : List Bytes} (fits : Fits parts segments)
    (within : crossing ∉ parts) : segments.length = parts.length := by
  induction fits with
  | nil => rfl
  | part _ _ _ ih =>
    rw [List.length_cons, List.length_cons, ih (List.ne_and_not_mem_of_not_mem_cons within).2]
  | last => exact absurd List.mem_cons_self within
  | across => exact absurd List.mem_cons_self within

section Matchers

open Pattern (Tree)

theorem depthsLe {n : Nat} {ts : List Tree} : Tree.depths ts ≤ n ↔ ∀ t ∈ ts, t.depth ≤ n := by
  induction ts with
  | nil => simp [Tree.depths]
  | cons t rest ih => rw [Tree.depths, Nat.max_le, ih, List.forall_mem_cons]

def Token.isFlat : Token → Bool
  | .set _ _ | .choice _ => false
  | _ => true

theorem flatDepth {t : Token} (flat : t.isFlat = true) (separated : Bool) :
    ∀ x ∈ t.trees separated, x.depth ≤ 4 := by
  cases t with
  | set => cases flat
  | choice => cases flat
  | literal c => simp [Token.trees, Tree.depth]
  | any => cases separated <;> simp [Token.trees, anyTree, Tree.depth, Pattern.Bracket.depth]
  | star => cases separated <;> simp [Token.trees, manyTree, anyTree, Tree.depth, Pattern.Bracket.depth]
  | leadingDirs | trailingDirs | innerDirs =>
    simp [Token.trees, choiceTree, manyTree, slashTree, Tree.ofChoices, Tree.depth, Tree.depths]

theorem treesDepth {ts : List Token} (flat : ∀ t ∈ ts, t.isFlat = true) (separated : Bool) :
    ∀ x ∈ tokenTrees separated ts, x.depth ≤ 4 := by
  induction ts with
  | nil => simp [tokenTrees]
  | cons t rest ih =>
    obtain ⟨own, others⟩ := List.forall_mem_cons.mp flat
    rw [tokenTrees]
    exact List.forall_mem_append.mpr ⟨flatDepth own separated, ih others⟩

theorem laidFlat (o : Opening) (parts : List (List Char)) : ∀ t ∈ laid o parts, t.isFlat = true := by
  have opens : ∀ o : Opening, ∀ t ∈ o.tokens, t.isFlat = true := by
    intro o
    cases o <;> simp [Opening.tokens, Token.isFlat]
  have single : ∀ c, (tokenOf c).isFlat = true := by
    intro c
    unfold tokenOf
    split
    · rfl
    · split <;> rfl
  induction parts generalizing o with
  | nil => simp [laid]
  | cons part rest ih =>
    rw [laid]
    split
    · split
      · cases o <;> simp [Opening.closing, Token.isFlat]
      · exact ih o.across
    · simp only [List.forall_mem_append, List.forall_mem_map]
      exact ⟨⟨opens o, fun c _ => single c⟩, ih .slash⟩

theorem matcherFlat [Engine] {g : Glob} (flat : ∀ t ∈ g.tokens, t.isFlat = true) :
    g.hasMatcher = Engine.fitsLocation g.text := by
  have body : ∀ x ∈ g.body, x.depth ≤ 4 := by
    unfold Glob.body
    split
    · simp [manyTree, Tree.depth]
    · exact treesDepth flat _
  have depth : g.translation.depth ≤ 5 := by
    rw [translation, Tree.depth, Nat.add_le_add_iff_right, depthsLe]
    simp only [List.forall_mem_append]
    exact ⟨⟨by simp [Tree.depth], body⟩, by simp [Tree.depth]⟩
  have shallow : g.translation.depth ≤ Pattern.nestLimit := Nat.le_trans depth (by decide)
  simp [hasMatcher, shallow]

end Matchers

end Glob

open Glob

theorem RelPath.segmentsFilled (p : RelPath) : p.segments ≠ [] :=
  Path.segmentsNonempty p.text.toList

theorem RelPath.segmentBytes (p : RelPath) :
    bytesOf p.text.toList = joined (p.segments.map bytesOf) := by
  rw [← bytesUnsegments, RelPath.segments, Path.unsegmentsSegments]

theorem Scope.compileLaid [Engine] {location : String} (table : RuleTable)
    (known : ∀ part ∈ Path.segments location.toList, IsPart part) :
    Scope.compile location table =
      if Engine.fitsLocation location = true then
        .ok ⟨⟨location, { separated := true }, laid .start (Path.segments location.toList)⟩, table⟩
      else .error (.noMatcher location) := by
  have read : Glob.read location =
      .ok ⟨location, { separated := true }, laid .start (Path.segments location.toList)⟩ := by
    rw [Glob.read, Glob.build, readLaid known]
    rfl
  have matcher := matcherFlat (g := ⟨location, { separated := true }, _⟩)
    (laidFlat .start (Path.segments location.toList))
  simp only [Scope.compile, read, matcher]

theorem Scope.matchFits {location : String} (table : RuleTable)
    (known : ∀ part ∈ Path.segments location.toList, IsPart part) (p : RelPath) :
    Scope.isMatch
        ⟨⟨location, { separated := true }, laid .start (Path.segments location.toList)⟩, table⟩ p =
      true ↔ Fits (Path.segments location.toList) (p.segments.map bytesOf) := by
  have parts : ∀ part ∈ Path.segments location.toList, part ≠ [] ∧ '/' ∉ part := by
    refine fun part member => ⟨?_, Path.segmentsClear member⟩
    rcases known part member with rfl | ordinary
    · exact List.cons_ne_nil _ _
    · exact ordinary.filled
  have filled : p.segments.map bytesOf ≠ [] := by
    simpa using p.segmentsFilled
  have clear : ∀ s ∈ p.segments.map bytesOf, slash ∉ s := by
    intro s member
    obtain ⟨cs, inside, rfl⟩ := List.mem_map.mp member
    exact slashClear (Path.segmentsClear inside)
  rw [Scope.isMatch, Glob.isMatch, p.segmentBytes]
  exact matchesLaid (Path.segmentsNonempty _) parts filled clear

/-- A location is matched segment by segment: without `**` it takes as many segments as it has parts,
`d/**` takes what is strictly below `d`, and `**/x` takes `x` at any depth, the root included. Only one
that is too large for the engine has no matcher. -/
theorem Scope.locationSegments [Engine] {location : String} (table : RuleTable)
    (known : ∀ part ∈ Path.segments location.toList, IsPart part) :
    (Engine.fitsLocation location = false →
        Scope.compile location table = .error (.noMatcher location)) ∧
      (Engine.fitsLocation location = true →
        ∃ scope, Scope.compile location table = .ok scope ∧
          (∀ p : RelPath, scope.isMatch p = true ↔
            Fits (Path.segments location.toList) (p.segments.map bytesOf)) ∧
          (crossing ∉ Path.segments location.toList → ∀ p : RelPath, scope.isMatch p = true →
            p.segments.length = (Path.segments location.toList).length) ∧
          ∀ names, (∀ name ∈ names, '*' ∉ name ∧ '?' ∉ name) →
            (Path.segments location.toList = names ++ [crossing] → ∀ p : RelPath,
              scope.isMatch p = true ↔ ∃ below, below ≠ [] ∧ p.segments = names ++ below) ∧
            (Path.segments location.toList = crossing :: names → ∀ p : RelPath,
              scope.isMatch p = true ↔ ∃ above, p.segments = above ++ names)) := by
  have fits := Scope.matchFits table known
  rw [Scope.compileLaid table known]
  constructor
  · intro large
    rw [if_neg (by simp [large])]
  · intro small
    refine ⟨_, if_pos small, fits, fun within p hit => ?_, fun names plain => ⟨?_, ?_⟩⟩
    · have length := fitsLength ((fits p).mp hit) within
      rwa [List.length_map] at length
    · intro spelled p
      rw [fits p, spelled]
      exact fitsBelow plain
    · intro spelled p
      rw [fits p, spelled]
      exact fitsDeep plain p.segmentsFilled

open Engine in
theorem Scope.locationSegmentsMarked :
    (∀ part ∈ Path.segments "src/**/t??*.rs".toList, IsPart part) ∧
      Engine.fitsLocation "src/**/t??*.rs" = true ∧ ∃ scope, Scope.compile "src/**/t??*.rs" ⟨"", []⟩ = .ok scope ∧
        scope.isMatch ⟨"src/a/b/tö.rs"⟩ = true := by
  have parts : Path.segments "src/**/t??*.rs".toList =
      [['s', 'r', 'c'], crossing, ['t', '?', '?', '*', '.', 'r', 's']] := by decide +kernel
  have known : ∀ part ∈ Path.segments "src/**/t??*.rs".toList, IsPart part := by
    rw [parts]
    simp only [List.forall_mem_cons]
    exact ⟨.inr (ordinaryOnce (by simp) (by simp) (by decide)), .inl rfl,
      .inr (ordinaryOnce (by simp) (by simp) (by decide)), by simp⟩
  have small : Engine.fitsLocation "src/**/t??*.rs" = true := by decide +kernel
  obtain ⟨scope, compiled, fits, -⟩ := (Scope.locationSegments ⟨"", []⟩ known).2 small
  refine ⟨known, small, scope, compiled, (fits _).mpr ?_⟩
  have segments : (RelPath.mk "src/a/b/tö.rs").segments.map bytesOf =
      [[115, 114, 99], [97], [98], [116, 195, 182, 46, 114, 115]] := by decide +kernel
  have ending : Wild ['.', 'r', 's'] [46, 114, 115] := (wildName (by decide)).mpr (by decide +kernel)
  have marked : Wild ['?', '?', '*', '.', 'r', 's'] ([195] ++ ([182] ++ ([] ++ [46, 114, 115]))) :=
    .cons (by decide) (.cons (by decide) (.cons (by decide) ending))
  have letter : Stands 't' [116] := by decide +kernel
  have named : Wild ['s', 'r', 'c'] [115, 114, 99] := (wildName (by decide)).mpr (by decide +kernel)
  rw [parts, segments]
  exact .part (by decide) named
    (.across [[97], [98]] (by decide) (.part (by decide) (.cons letter marked) .nil))

end Codemod
