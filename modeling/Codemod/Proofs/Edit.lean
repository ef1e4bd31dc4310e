import Codemod.Migration
import Codemod.Proofs.Lookup
import Codemod.Proofs.Utf8

/-!
What becomes of single files. A file that was read can be replaced, and then it holds its new content
and has the access rights that it had, while all other files are as before. So the files that have
been taken up so far tell what the tree is like, whatever the order in which that was done.
-/
namespace Codemod

namespace Tree

variable {t u : Tree} {p : Path} {l : Location}

def Direct (t : Tree) (p : Path) : Prop := ∀ l, t.find p = .ok l → t.findLink p = .ok l

theorem Direct.carry (same : t.blank = u.blank) (direct : t.Direct p) : u.Direct p := by
  intro l found
  rw [← findSame same] at found
  rw [← findLinkSame same]
  exact direct l found

def Apart (t : Tree) (p q : Path) : Prop := ∀ l, t.find p = .ok l → t.find q ≠ .ok l

theorem lastNamed (cs : List Char) : lastName? cs = (named cs).getLast? := by
  simp [lastName?, named]

theorem fileNamed {content : Bytes} {mode : Nat} (found : t.find p = .ok l)
    (file : t.get? l = some (.file content mode)) :
    endsInSlash p.text.toList = false ∧
      ∃ name, lastName? p.text.toList = some name ∧ name ≠ "." ∧ name ≠ ".." := by
  have led := findLeads found
  have noDots : ∀ dots ss, steps p.text.toList = ss ++ [dots] → ¬(dots = "." ∨ dots = "..") := by
    intro dots ss same given
    have whole := led.resolved
    rw [same] at whole
    obtain ⟨es, dir⟩ := dotsDir given whole
    simp [dir] at file
  have open' : endsInSlash p.text.toList = false := by
    rw [← Bool.not_eq_true]
    intro ends
    refine noDots "." (named p.text.toList) ?_ (.inl rfl)
    simp [steps, named, ends]
  have plain : steps p.text.toList = named p.text.toList := by
    simp [steps, named, open']
  refine ⟨open', ?_⟩
  have some' := stepsNonempty led.given
  rw [plain] at some'
  have split := (List.dropLast_concat_getLast some').symm
  refine ⟨_, (lastNamed _).trans (List.getLast?_eq_some_getLast some'), ?_⟩
  have clear := noDots _ _ (plain.trans split)
  exact not_or.mp clear

theorem replaceFile {content : Bytes} {mode : Nat} (direct : t.Direct p) (found : t.find p = .ok l)
    (file : t.get? l = some (.file content mode)) (after : Bytes) :
    t.replace p after = .ok (t.put l (.file after mode)) := by
  obtain ⟨open', name, last, dot, up⟩ := fileNamed found file
  have looked : t.look p = .ok (.file content mode) := lookOk.mpr ⟨l, found, file⟩
  have there : t.nodeAt l = .ok (.file content mode) := by simp [nodeAt, file]
  simp [replace, looked, last, dot, up, open', direct l found, there, bind, Except.bind, modeOf,
    Node.isDir, pure, Except.pure]

theorem readContent (found : t.find p = .ok l) {bytes : Bytes} :
    t.read p = .ok bytes ↔ ∃ mode, t.content? l = some (bytes, mode) := by
  rw [readOf, lookOf, found]
  simp only [Except.bind, nodeAt, content?, Node.content?, get?]
  cases t.root.get? l with
  | none => simp
  | some n => cases n <;> simp [readingOf]

theorem readFound {bytes : Bytes} (reading : t.read p = .ok bytes) :
    ∃ l mode, t.find p = .ok l ∧ t.content? l = some (bytes, mode) := by
  cases found : t.find p with
  | error io => simp [readOf, lookOf, found, Except.bind] at reading
  | ok l =>
    obtain ⟨mode, content⟩ := (readContent found).mp reading
    exact ⟨l, mode, rfl, content⟩

end Tree

def RuleSet.rewritten (s : RuleSet) (relative : RelPath) (bytes : Bytes) : Bytes :=
  match Utf8.decode bytes with
  | .error _ => bytes
  | .ok cs => bytesOf (s.edit relative (String.ofList cs)).content.toList

namespace Migration

variable {m : Migration} {t u : Tree} {e : FileEntry}

def outcomeOf (m : Migration) (relative : RelPath) : Except IoError Bytes → Outcome
  | .error io => .failed (.read io)
  | .ok bytes =>
    match Utf8.decode bytes with
    | .error offset => .failed (.decode offset)
    | .ok cs =>
      let w := m.rules.edit relative (String.ofList cs)
      if w.content = String.ofList cs then .unchanged else .changed w.replacements (!m.dryRun)

def leaves (m : Migration) (relative : RelPath) (bytes : Bytes) : Bytes :=
  if m.dryRun then bytes else m.rules.rewritten relative bytes

inductive Editing (s : RuleSet) (t : Tree) (e : FileEntry) : FileTask → Prop where
  | unread {io : IoError} (reading : t.read e.path = .error io) :
      Editing s t e { entry := e, error := some (.read io) }
  | garbled {bytes : Bytes} {offset : Nat} (reading : t.read e.path = .ok bytes)
      (decoding : Utf8.decode bytes = .error offset) :
      Editing s t e { entry := e, error := some (.decode offset) }
  | text {bytes : Bytes} {cs : List Char} {w : Edited} (reading : t.read e.path = .ok bytes)
      (decoding : Utf8.decode bytes = .ok cs) (edited : s.edit e.relative (String.ofList cs) = w) :
      Editing s t e
        { entry := e, before := String.ofList cs, after := some w.content,
          replacements := w.replacements, changed := w.content != String.ofList cs }

theorem editing (s : RuleSet) (t : Tree) (e : FileEntry) : Editing s t e (s.editFile t e) := by
  unfold RuleSet.editFile
  split
  · next reading => exact .unread reading
  next bytes reading =>
  split
  · next decoding => exact .garbled reading decoding
  · next decoding => exact .text reading decoding rfl

/-- What settling a file does, if the file is as it was when it was read. -/
structure Settled (m : Migration) (t : Tree) (e : FileEntry) (before after : Tree) (o : FileOutcome) :
    Prop where
  outcome : o = ⟨e.path, e.relative, m.outcomeOf e.relative (t.read e.path)⟩
  blank : after.blank = before.blank
  own : ∀ l, t.find e.path = .ok l →
    after.content? l = (t.content? l).map fun c => (m.leaves e.relative c.1, c.2)
  other : ∀ l, t.find e.path ≠ .ok l → after.content? l = before.content? l

theorem settledSame {o : Outcome} (outcome : o = m.outcomeOf e.relative (t.read e.path))
    (same : ∀ bytes, t.read e.path = .ok bytes → m.leaves e.relative bytes = bytes)
    (still : ∀ l, t.find e.path = .ok l → u.content? l = t.content? l) :
    Settled m t e u u ⟨e.path, e.relative, o⟩ := by
  refine ⟨by rw [outcome], rfl, ?_, fun _ _ => rfl⟩
  intro l found
  rw [still l found]
  cases content : t.content? l with
  | none => rfl
  | some c =>
    have read := (Tree.readContent found).mpr ⟨c.2, content⟩
    simp [same c.1 read]

theorem settleWritten {bytes after : Bytes} (direct : t.Direct e.path) (blanks : t.blank = u.blank)
    (still : ∀ l, t.find e.path = .ok l → u.content? l = t.content? l)
    (reading : t.read e.path = .ok bytes) (left : m.leaves e.relative bytes = after) :
    ∃ v, u.replace e.path after = .ok v ∧
      ∀ o, o = m.outcomeOf e.relative (t.read e.path) → Settled m t e u v ⟨e.path, e.relative, o⟩ := by
  obtain ⟨l, mode, found, content⟩ := Tree.readFound reading
  have file := Tree.contentFile.mp ((still l found).trans content)
  have place := Tree.replaceFile (direct.carry blanks) ((Tree.findSame blanks _).symm.trans found)
    file after
  refine ⟨_, place, fun o outcome => ⟨by rw [outcome], Tree.putBlank file _ _, ?_, ?_⟩⟩
  · intro k there
    cases found.symm.trans there
    simp [Tree.putContent file, content, left]
  · intro k elsewhere
    rw [Tree.putContent file, if_neg]
    rintro rfl
    exact elsewhere found

theorem settleSpec (direct : t.Direct e.path) (blanks : t.blank = u.blank)
    (still : ∀ l, t.find e.path = .ok l → u.content? l = t.content? l) :
    Settled m t e u (m.settle u (m.rules.editFile t e)).2 (m.settle u (m.rules.editFile t e)).1 := by
  have edits := editing m.rules t e
  generalize m.rules.editFile t e = task at edits
  cases edits with
  | unread reading => exact settledSame (by simp [outcomeOf, reading]) (by simp [reading]) still
  | garbled reading decoding =>
    refine settledSame (by simp [outcomeOf, reading, decoding]) ?_ still
    intro other same
    cases reading.symm.trans same
    simp [leaves, RuleSet.rewritten, decoding]
  | @text bytes cs w reading decoding edited =>
    have encoded := Utf8.decodeEncoded decoding
    have rewritten : m.rules.rewritten e.relative bytes = bytesOf w.content.toList := by
      simp [RuleSet.rewritten, decoding, edited]
    by_cases unchanged : w.content = String.ofList cs
    · simp only [settle, unchanged, bne_self_eq_false, Bool.false_eq_true, if_false]
      refine settledSame (by simp [outcomeOf, reading, decoding, edited, unchanged]) ?_ still
      intro other same
      cases reading.symm.trans same
      simp [leaves, rewritten, unchanged, encoded]
    · have changed : (w.content != String.ofList cs) = true := by simpa using unchanged
      simp only [settle, changed, if_true, commit]
      cases dry : m.dryRun with
      | true =>
        refine settledSame ?_ (by simp [leaves, dry]) still
        simp [outcomeOf, reading, decoding, edited, unchanged, dry]
      | false =>
        have left : m.leaves e.relative bytes = bytesOf w.content.toList := by
          simp [leaves, dry, rewritten]
        obtain ⟨v, place, settled⟩ := settleWritten direct blanks still reading left
        simp only [Bool.false_eq_true, if_false, place]
        refine settled _ ?_
        simp [outcomeOf, reading, decoding, edited, unchanged, dry]

structure After (m : Migration) (t : Tree) (done : List FileEntry) (u : Tree) : Prop where
  blank : t.blank = u.blank
  edited : ∀ e ∈ done, ∀ l, t.find e.path = .ok l →
    u.content? l = (t.content? l).map fun c => (m.leaves e.relative c.1, c.2)
  kept : ∀ l, (∀ e ∈ done, t.find e.path ≠ .ok l) → u.content? l = t.content? l

namespace After

variable {done : List FileEntry}

theorem start (m : Migration) (t : Tree) : After m t [] t := ⟨rfl, by simp, fun _ _ => rfl⟩

theorem still (after : After m t done u) (apart : ∀ d ∈ done, t.Apart d.path e.path) :
    ∀ l, t.find e.path = .ok l → u.content? l = t.content? l := by
  intro l found
  exact after.kept l fun d hd there => apart d hd l there found

theorem read (after : After m t done u) (apart : ∀ d ∈ done, t.Apart d.path e.path) :
    u.read e.path = t.read e.path :=
  (Tree.readSame after.blank fun l found => (after.still apart l found).symm).symm

theorem editFile (after : After m t done u) (apart : ∀ d ∈ done, t.Apart d.path e.path) :
    m.rules.editFile u e = m.rules.editFile t e := by
  simp only [RuleSet.editFile, after.read apart]

/- The step: settling one file more, wherever the others are. -/
theorem settle (after : After m t done u) (direct : t.Direct e.path)
    (apart : ∀ d ∈ done, t.Apart d.path e.path) :
    (m.settle u (m.rules.editFile t e)).1 =
        ⟨e.path, e.relative, m.outcomeOf e.relative (t.read e.path)⟩ ∧
      After m t (e :: done) (m.settle u (m.rules.editFile t e)).2 := by
  have spec := settleSpec direct after.blank (after.still apart) (m := m)
  refine ⟨spec.outcome, after.blank.trans spec.blank.symm, ?_, ?_⟩
  · intro d hd l found
    rcases List.mem_cons.mp hd with rfl | earlier
    · exact spec.own l found
    · rw [spec.other l (apart d earlier l found)]
      exact after.edited d earlier l found
  · intro l elsewhere
    rw [spec.other l (elsewhere e (by simp))]
    exact after.kept l fun d hd => elsewhere d (List.mem_cons_of_mem _ hd)

theorem process (after : After m t done u) (direct : t.Direct e.path)
    (apart : ∀ d ∈ done, t.Apart d.path e.path) :
    (m.process u e).1 = ⟨e.path, e.relative, m.outcomeOf e.relative (t.read e.path)⟩ ∧
      After m t (e :: done) (m.process u e).2 := by
  rw [Migration.process, after.editFile apart]
  exact after.settle direct apart

theorem same {others : List FileEntry} (after : After m t done u) (same : ∀ e, e ∈ done ↔ e ∈ others) :
    After m t others u :=
  ⟨after.blank, fun e he => after.edited e ((same e).mpr he),
    fun l away => after.kept l fun e he => away e ((same e).mp he)⟩

theorem unique {v : Tree} (sound : t.Sound) (after : After m t done u) (other : After m t done v) :
    u = v := by
  refine Tree.ext (Tree.soundOfBlank sound after.blank) (after.blank.symm.trans other.blank) ?_
  intro l
  by_cases taken : ∃ e ∈ done, t.find e.path = .ok l
  · obtain ⟨e, he, found⟩ := taken
    rw [after.edited e he l found, other.edited e he l found]
  · have away : ∀ e ∈ done, t.find e.path ≠ .ok l := fun e he found => taken ⟨e, he, found⟩
    rw [after.kept l away, other.kept l away]

end After

end Migration

end Codemod
