import Codemod.Proofs.Run

/-!
Runs that do not disturb their own walk. A run that takes up the files while its walk goes on reads
the ignore files of a directory when it comes there. Its walk is that of the tree in the beginning
if none of these files is one that the run has changed by then, and so is it if no ignore files are
read at all.
-/
namespace Codemod

namespace Walk

theorem levelSame {t u : Tree} {dir : Path} (same : ∀ g ∈ ignoreFiles dir, u.read g = t.read g) :
    level u dir = level t dir := by
  have own := same (dir.join ⟨".gitignore"⟩) (by simp [ignoreFiles])
  have apart := same ((dir.join ⟨".git"⟩).join ⟨"info/exclude"⟩) (by simp [ignoreFiles])
  simp only [level, ruleFile, own, apart]

theorem childrenSame {t u : Tree} {f : Filter} {dir : Path} (blanks : t.blank = u.blank)
    (same : f.gitignore = true → (t.list dir).isOk → ∀ g ∈ ignoreFiles dir, u.read g = t.read g)
    (levels : List Ignore.Level) : children u f dir levels = children t f dir levels := by
  have listed := Tree.listSame blanks dir
  rw [childrenOf, childrenOf, ← listed]
  cases names : t.list dir with
  | error e => rfl
  | ok es =>
    have inside : inner u f dir levels = inner t f dir levels := by
      unfold inner
      split
      · next ignores => rw [levelSame (same ignores (by simp [names, Except.isOk, Except.toBool]))]
      · rfl
    simp only [inside]

end Walk

namespace Migration

open Walk

variable {m : Migration} {w : Walk} {t u last : Tree} {root : Path} {top : Location} {f : Filter}
  {items : List WalkItem} {os : List FileOutcome} {done : List FileEntry} {e : FileEntry}

def Rewrites (m : Migration) (t : Tree) (e : FileEntry) : Prop :=
  m.dryRun = false ∧ (m.rules.editFile t e).changed = true

theorem leavesSame {bytes : Bytes} (kept : ¬m.Rewrites t e) (reading : t.read e.path = .ok bytes) :
    m.leaves e.relative bytes = bytes := by
  unfold leaves
  split
  · rfl
  next wet =>
  have unchanged : ¬(m.rules.editFile t e).changed = true := fun changed =>
    kept ⟨by simpa using wet, changed⟩
  have edits := editing m.rules t e
  generalize m.rules.editFile t e = task at edits unchanged
  cases edits with
  | unread other => cases reading.symm.trans other
  | garbled other decoding =>
    cases reading.symm.trans other
    simp [RuleSet.rewritten, decoding]
  | @text _ cs w other decoding edited =>
    cases reading.symm.trans other
    have same : w.content = String.ofList cs := by simpa using unchanged
    rw [RuleSet.rewritten, decoding]
    simp only [edited, same, String.toList_ofList, Utf8.decodeEncoded decoding]

theorem After.unaltered {l : Location} (after : After m t done u)
    (away : ∀ d ∈ done, m.Rewrites t d → t.find d.path ≠ .ok l) : u.content? l = t.content? l := by
  by_cases taken : ∃ d ∈ done, t.find d.path = .ok l
  · obtain ⟨d, hd, found⟩ := taken
    rw [after.edited d hd l found]
    cases content : t.content? l with
    | none => rfl
    | some c =>
      have reading := (Tree.readContent found).mpr ⟨c.2, content⟩
      have kept : ¬m.Rewrites t d := fun rewrites => away d hd rewrites found
      simp [leavesSame kept reading]
  · exact after.kept l fun d hd found => taken ⟨d, hd, found⟩

/-- No ignore file of a directory leads to a file that is rewritten before the walk comes there. -/
def Undisturbed (m : Migration) (t : Tree) (f : Filter) (items : List WalkItem) : Prop :=
  f.gitignore = true → ∀ earlier dir later, items = earlier ++ .skipped dir .notAFile :: later →
    (∃ es, t.lookLink dir = .ok (.dir es)) →
      ∀ e ∈ files earlier, m.Rewrites t e → ∀ g ∈ ignoreFiles dir, t.Apart g e.path

instance (t : Tree) (p q : Path) : Decidable (t.Apart p q) :=
  decidable_of_iff (∀ l ∈ (t.find p).toOption, (t.find q).toOption ≠ some l) <| by
    unfold Tree.Apart
    cases t.find p <;> cases t.find q <;> simp [Except.toOption, eq_comm]

instance (m : Migration) (t : Tree) (e : FileEntry) : Decidable (m.Rewrites t e) :=
  inferInstanceAs (Decidable (_ ∧ _))

def shownDir? (t : Tree) : WalkItem → Option Path
  | .skipped dir .notAFile =>
    match t.lookLink dir with
    | .ok (.dir _) => some dir
    | _ => none
  | _ => none

theorem shownDirSome {item : WalkItem} {dir : Path} :
    shownDir? t item = some dir ↔
      item = .skipped dir .notAFile ∧ ∃ es, t.lookLink dir = .ok (.dir es) := by
  unfold shownDir?
  split
  · next p =>
    split
    · next es looked =>
      constructor
      · rintro ⟨⟩
        exact ⟨rfl, es, looked⟩
      · rintro ⟨⟨⟩, -⟩
        rfl
    · next other =>
      constructor
      · rintro ⟨⟩
      · rintro ⟨⟨⟩, es, looked⟩
        exact absurd looked (other es)
  · next other =>
    constructor
    · rintro ⟨⟩
    · rintro ⟨rfl, -⟩
      exact absurd rfl (other dir)

instance (m : Migration) (t : Tree) (f : Filter) (items : List WalkItem) :
    Decidable (m.Undisturbed t f items) :=
  decidable_of_iff (f.gitignore = true → ∀ i < items.length,
      ∀ dir ∈ (items[i]?).bind (shownDir? t), ∀ e ∈ files (items.take i), m.Rewrites t e →
        ∀ g ∈ ignoreFiles dir, t.Apart g e.path) <| by
    constructor
    · rintro each ignores earlier dir later rfl isDir
      have here := each ignores earlier.length (by simp) dir
      simp only [List.getElem?_append_right (Nat.le_refl _), Nat.sub_self, List.getElem?_cons_zero,
        Option.bind_some, List.take_left] at here
      exact here (shownDirSome.mpr ⟨rfl, isDir⟩)
    · intro undisturbed ignores i short dir shown
      obtain ⟨item, there, isDir⟩ := Option.bind_eq_some_iff.mp shown
      obtain ⟨rfl, looked⟩ := shownDirSome.mp isDir
      refine undisturbed ignores (items.take i) dir (items.drop (i + 1)) ?_ looked
      obtain ⟨_, same⟩ := List.getElem?_eq_some_iff.mp there
      rw [← same, ← List.drop_eq_getElem_cons short, List.take_append_drop]

/- The same visit in the tree that the run has made: what is shown is the same, and so are the ignore
files of a directory that is shown. -/
theorem visitCarry {v : Visit} {a : List String} {more : List Visit} {item? : Option WalkItem}
    {earlier later : List WalkItem} (sound : t.Sound) (found : t.find root = .ok top) (below : v ≠ .root)
    (stands : Stands t root top v a) (after : After m t (files earlier) u)
    (undisturbed : m.Undisturbed t w.filter (earlier ++ (item?.toList ++ later)))
    (visited : visit t w v = (item?, more)) : visit u w v = (item?, more) := by
  cases stands with
  | root => exact absurd rfl below
  | fault there => exact visited
  | @entry ns name node levels there =>
    cases node with
    | file content mode => exact visited
    | link target => exact visited
    | dir fs =>
      rcases visitEntry visited with ⟨passed, rfl, rfl⟩ | ⟨shown, ⟨-, rfl, rfl⟩ | ⟨kind, -⟩ | ⟨kind, -⟩⟩
      · simp only [visit, passed, if_true]
      · have inside : children u w.filter (root.descend (ns ++ [name])) levels =
            children t w.filter (root.descend (ns ++ [name])) levels := by
          refine childrenSame after.blank (fun ignores listed g hg => ?_) levels
          have short : ¬Tree.pathLimit ≤ (root.descend (ns ++ [name])).text.utf8ByteSize := by
            intro long
            simp [listDescend sound found there, long, Except.isOk, Except.toBool] at listed
          have isDir : t.lookLink (root.descend (ns ++ [name])) = .ok (.dir fs) := by
            simp [Tree.lookLinkOf, Tree.findLinkDescend sound found (by simp) there, short, Except.bind,
              Tree.nodeAt, there]
          have apart := undisturbed ignores earlier _ later (by simp) ⟨fs, isDir⟩
          refine (Tree.readSame after.blank fun l leads => (after.unaltered ?_).symm).symm
          exact fun d hd rewrites => apart d hd rewrites g hg l leads
        simp only [visit, Tree.kindOf] at shown ⊢
        simp only [shown, Bool.false_eq_true, if_false, inside]
      · cases kind
      · cases kind
    | closed fs =>
      have inside : children u w.filter (root.descend (ns ++ [name])) levels =
          children t w.filter (root.descend (ns ++ [name])) levels := by
        obtain ⟨e, failed⟩ := listClosed sound found there
        refine childrenSame after.blank (fun _ listed => ?_) levels
        simp [failed, Except.isOk, Except.toBool] at listed
      rw [← visited]
      simp only [visit, inside]

theorem takeAfter {item? : Option WalkItem} {earlier : List WalkItem}
    (after : After m t (files earlier) u)
    (stream : Stream t root ((earlier ++ item?.toList).filterMap found?)) :
    After m t (files (earlier ++ item?.toList)) (m.take root u item?).2 := by
  cases item? with
  | none => simpa [take] using after
  | some item =>
    cases item with
    | skipped path reason => simpa [take] using after
    | failed e => simpa [take] using after
    | file e =>
      have direct : t.Direct e.path := stream.direct e (by rw [← files]; simp)
      have apart : ∀ d ∈ files earlier, t.Apart d.path e.path := by
        have all := stream.apart
        rw [← files] at all
        simp only [Option.toList_some, filesAppend, List.pairwise_append] at all
        exact fun d hd => all.2.2 d hd e (by simp)
      refine (after.process direct apart).2.same ?_
      simp [or_comm]

theorem Stream.front {found more : List Found} (stream : Stream t root (found ++ more)) :
    Stream t root found := by
  have apart := stream.apart
  rw [List.filterMap_append] at apart
  refine ⟨fun e he => stream.direct e (by simp [List.filterMap_append, he]), ?_, ?_⟩
  · exact (List.pairwise_append.mp apart).1
  · exact stream.orderly.front

theorem Course.carry {agenda : List Visit} {stops : List (Visit × List String)}
    {earlier : List WalkItem} {s final : Tree} {es : Directory} (sound : t.Sound)
    (found : t.find root = .ok top) (dir : t.get? top = some (.dir es)) (own : w.root = root)
    (course : Course m.rehearsal w s agenda items os final) (start : s = t)
    (planned : Planned t root top stops) (whole : agenda = stops.map Prod.fst)
    (below : ∀ v ∈ agenda, v ≠ .root) (after : After m t (files earlier) u)
    (stream : Stream t root ((earlier ++ items).filterMap found?))
    (undisturbed : m.Undisturbed t w.filter (earlier ++ items)) :
    ∃ ps last, Course m w u agenda items ps last := by
  induction course generalizing u stops earlier with
  | done s => exact ⟨[], u, .done u⟩
  | @visit s v last here rest more item? items os outcomes visited taken next ih =>
    subst start
    cases stops with
    | nil => simp at whole
    | cons stop others =>
      obtain ⟨here', a⟩ := stop
      obtain ⟨rfl, rfl⟩ : here = here' ∧ rest = others.map Prod.fst := by simpa using whole
      have other := below here (by simp)
      have stands : Stands s root top here a := planned.stands (here, a) (by simp)
      obtain ⟨inside, rfl, within, prefixes, -⟩ := visitPlanned sound found dir rfl own stands visited
      have still : v = s := (dryTake rfl taken).symm
      have shown := visitCarry sound found other stands after undisturbed visited
      rw [← List.append_assoc] at stream undisturbed
      have front : Stream s root ((earlier ++ item?.toList).filterMap found?) := by
        rw [List.filterMap_append] at stream
        exact stream.front
      have onward := takeAfter after front
      have deeper := visitsOnward below fun x hx => (visitBelow visited x hx).2
      obtain ⟨ps, final, further⟩ :=
        ih still (planned.replace within prefixes) (by simp) deeper onward stream undisturbed
      exact ⟨_, final, .visit shown rfl (own ▸ further)⟩

theorem After.above (m : Migration) (t : Tree) (w : Walk) : After m t (files (above? t w).toList) t := by
  have none' := filesBehind t w []
  rw [List.append_nil] at none'
  rw [none']
  exact After.start m t

theorem findsWalk {parallel : Bool} (sound : t.Sound) (finds : m.Finds t root f parallel items)
    (calm : parallel = false → ∀ walked, t.walk root f = .ok walked → m.Undisturbed t f walked) :
    t.walk root f = .ok items := by
  cases parallel with
  | true => exact finds
  | false =>
    obtain ⟨w, os, last, started, course⟩ := finds
    obtain ⟨walked, rehearsed, walks, first⟩ := walkCourse sound m started
    have undisturbed := calm rfl walked walks
    have stream := (courseDiscovered sound started first).toStream
    obtain ⟨rfl, top, es, found, dir⟩ := startFrom started
    have planned : Planned t root top [(.root, [])] := ⟨by simpa using .root, by simp⟩
    obtain ⟨shown, _, below, rfl⟩ := first.behind
    -- nothing has happened yet when the root is visited
    cases below with
    | @visit _ s _ _ _ more item? others _ _ visited taken next =>
      have still : s = t := (dryTake rfl taken).symm
      obtain ⟨inside, rfl, within, prefixes, item⟩ :=
        visitPlanned sound found dir rfl rfl .root visited
      rw [← List.append_assoc] at stream undisturbed
      have onward := takeAfter (After.above m t _) (List.filterMap_append ▸ stream).front
      obtain ⟨ps, final, further⟩ := next.carry sound found dir rfl still
        (planned.replace within prefixes) (by simp) (by simpa using fun x hx => (visitBelow visited x hx).2) onward
        stream undisturbed
      have whole : Course m _ t [.root] _ _ final := .visit visited rfl further
      obtain ⟨_, second⟩ := whole.ahead
      obtain ⟨rfl, -, -⟩ := course.unique second
      exact walks

end Migration

end Codemod
