import Mathlib.Logic.Relation
import Codemod.Proofs.Discovery

/-!
Files that several workers take up at once. A worker reads and edits a file in one step and carries
out what it decided in another, and in between the others do what they like. As long as no two files
are the same one, each has the outcome that its content in the tree of the beginning calls for.
-/
namespace Codemod

namespace Migration

variable {m : Migration} {t u last : Tree} {entries : List FileEntry} {os : List FileOutcome}

inductive Stage where
  | waiting
  | edited (task : FileTask)
  | settled (outcome : FileOutcome)

abbrev Job := FileEntry × Stage

inductive Step (m : Migration) : List Job × Tree → List Job × Tree → Prop where
  | edit (before later : List Job) (e : FileEntry) (t : Tree) :
      Step m (before ++ (e, .waiting) :: later, t)
        (before ++ (e, .edited (m.rules.editFile t e)) :: later, t)
  | settle (before later : List Job) (e : FileEntry) (task : FileTask) (t : Tree) :
      Step m (before ++ (e, .edited task) :: later, t)
        (before ++ (e, .settled (m.settle t task).1) :: later, (m.settle t task).2)

def Interleaved (m : Migration) (t : Tree) (entries : List FileEntry) (os : List FileOutcome)
    (last : Tree) : Prop :=
  ∃ jobs : List Job, Relation.ReflTransGen (Step m) (entries.map (·, .waiting), t) (jobs, last) ∧
    jobs.map Prod.snd = os.map .settled

def settled? : Job → Option FileEntry
  | (e, .settled _) => some e
  | _ => none

def Informed (m : Migration) (t : Tree) : Job → Prop
  | (_, .waiting) => True
  | (e, .edited task) => task = m.rules.editFile t e
  | (e, .settled o) => o = ⟨e.path, e.relative, m.outcomeOf e.relative (t.read e.path)⟩

structure Working (m : Migration) (t : Tree) (entries : List FileEntry) (jobs : List Job) (u : Tree) :
    Prop where
  entries : jobs.map Prod.fst = entries
  informed : ∀ job ∈ jobs, Informed m t job
  after : After m t (jobs.filterMap settled?) u

theorem Working.start (m : Migration) (t : Tree) (entries : List FileEntry) :
    Working m t entries (entries.map (·, .waiting)) t := by
  refine ⟨by simp [Function.comp_def], by simp [Informed], ?_⟩
  have none' : (entries.map (·, Stage.waiting)).filterMap settled? = [] := by
    simp [List.filterMap_map, Function.comp_def, settled?]
  rw [none']
  exact After.start m t

theorem settledEntry {job : Job} {d : FileEntry} (settled : settled? job = some d) : job.1 = d := by
  obtain ⟨e, stage⟩ := job
  cases stage <;> simp_all [settled?]

theorem Working.apart {before later : List Job} {e : FileEntry} {stage : Stage}
    (working : Working m t entries (before ++ (e, stage) :: later) u)
    (apart : entries.Pairwise fun d e => t.Apart d.path e.path) :
    ∀ d ∈ (before ++ later).filterMap settled?, t.Apart d.path e.path := by
  rw [← working.entries, List.map_append, List.map_cons, List.pairwise_append,
    List.pairwise_cons] at apart
  obtain ⟨-, ⟨behind, -⟩, front⟩ := apart
  intro d hd
  obtain ⟨job, member, settled⟩ := List.mem_filterMap.mp hd
  obtain rfl := settledEntry settled
  rcases List.mem_append.mp member with first | second
  · exact front job.1 (List.mem_map_of_mem first) e (by simp)
  · exact fun l found there => behind job.1 (List.mem_map_of_mem second) l there found

theorem informedOthers {before later : List Job} {e : FileEntry} {stage other : Stage}
    (informed : ∀ job ∈ before ++ (e, stage) :: later, Informed m t job)
    (own : Informed m t (e, other)) : ∀ job ∈ before ++ (e, other) :: later, Informed m t job := by
  intro job member
  rcases List.mem_append.mp member with first | rest
  · exact informed job (List.mem_append_left _ first)
  · rcases List.mem_cons.mp rest with rfl | second
    · exact own
    · exact informed job (by simp [second])

theorem Working.step {jobs next : List Job} {v : Tree} (direct : ∀ e ∈ entries, t.Direct e.path)
    (apart : entries.Pairwise fun d e => t.Apart d.path e.path)
    (working : Working m t entries jobs u) (step : Step m (jobs, u) (next, v)) :
    Working m t entries next v := by
  cases step with
  | edit before later e =>
    have others : ∀ d ∈ before.filterMap settled? ++ later.filterMap settled?,
        t.Apart d.path e.path := by
      simpa using working.apart apart
    have after := working.after
    simp only [List.filterMap_append, List.filterMap_cons, settled?] at after
    refine ⟨by simpa using working.entries, ?_, ?_⟩
    · exact informedOthers working.informed (after.editFile others)
    · simpa only [List.filterMap_append, List.filterMap_cons, settled?] using after
  | settle before later e task =>
    obtain rfl : task = m.rules.editFile t e := working.informed (e, .edited task) (by simp)
    have others : ∀ d ∈ before.filterMap settled? ++ later.filterMap settled?,
        t.Apart d.path e.path := by
      simpa using working.apart apart
    have after := working.after
    simp only [List.filterMap_append, List.filterMap_cons, settled?] at after
    have here : t.Direct e.path := direct e (by simp [← working.entries])
    obtain ⟨outcome, further⟩ := after.settle here others
    refine ⟨by simpa using working.entries, informedOthers working.informed outcome, ?_⟩
    refine further.same fun d => ?_
    simp [settled?, or_left_comm]

theorem Working.steps {state : List Job × Tree} (direct : ∀ e ∈ entries, t.Direct e.path)
    (apart : entries.Pairwise fun d e => t.Apart d.path e.path)
    (steps : Relation.ReflTransGen (Step m) (entries.map (·, .waiting), t) state) :
    Working m t entries state.1 state.2 := by
  induction steps with
  | refl => exact .start m t entries
  | tail _ step ih => exact ih.step direct apart step

theorem settledJobs {jobs : List Job} (informed : ∀ job ∈ jobs, Informed m t job)
    (settled : jobs.map Prod.snd = os.map .settled) :
    jobs.filterMap settled? = jobs.map Prod.fst ∧
      os = (jobs.map Prod.fst).map fun e =>
        ⟨e.path, e.relative, m.outcomeOf e.relative (t.read e.path)⟩ := by
  induction jobs generalizing os with
  | nil => exact ⟨rfl, by simpa using settled.symm⟩
  | cons job rest ih =>
    obtain ⟨e, stage⟩ := job
    cases os with
    | nil => simp at settled
    | cons o os =>
      obtain ⟨rfl, others⟩ : stage = .settled o ∧ rest.map Prod.snd = os.map .settled := by
        simpa using settled
      obtain ⟨all, rfl⟩ := ih (fun job member => informed job (by simp [member])) others
      have outcome := informed (e, .settled o) (by simp)
      simp only [Informed] at outcome
      exact ⟨by simp [settled?, all], by rw [outcome]; rfl⟩

theorem Interleaved.outcomes (direct : ∀ e ∈ entries, t.Direct e.path)
    (apart : entries.Pairwise fun d e => t.Apart d.path e.path)
    (interleaved : Interleaved m t entries os last) :
    os = entries.map (fun e => ⟨e.path, e.relative, m.outcomeOf e.relative (t.read e.path)⟩) ∧
      After m t entries last := by
  obtain ⟨jobs, steps, settled⟩ := interleaved
  have working := Working.steps direct apart steps
  obtain ⟨all, outcomes⟩ := settledJobs working.informed settled
  rw [working.entries] at all outcomes
  exact ⟨outcomes, all ▸ working.after⟩

theorem Step.behind {state next : List Job × Tree} (front : List Job) (step : Step m state next) :
    Step m (front ++ state.1, state.2) (front ++ next.1, next.2) := by
  cases step with
  | edit before later e t => simpa using Step.edit (front ++ before) later e t (m := m)
  | settle before later e task t => simpa using Step.settle (front ++ before) later e task t (m := m)

theorem processAllInterleaved (m : Migration) (t : Tree) (entries : List FileEntry) :
    Interleaved m t entries (m.processAll t entries).1 (m.processAll t entries).2 := by
  induction entries generalizing t with
  | nil => exact ⟨[], .refl, rfl⟩
  | cons e rest ih =>
    obtain ⟨jobs, steps, settled⟩ := ih (m.process t e).2
    refine ⟨(e, .settled (m.process t e).1) :: jobs, ?_, by simp [processAll, settled]⟩
    have first := Step.edit [] (rest.map (·, Stage.waiting)) e t (m := m)
    have second := Step.settle [] (rest.map (·, Stage.waiting)) e (m.rules.editFile t e) t (m := m)
    have others := steps.lift (fun state => ([(e, Stage.settled (m.process t e).1)] ++ state.1, state.2))
      fun _ _ step => step.behind _
    exact .head first (.head second others)

end Migration

end Codemod
