import Codemod.Failure

/-! Reports of runs: what became of each file, in the order of the files' paths. -/
namespace Codemod

inductive Outcome where
  | unchanged
  | changed (replacements : Nat) (written : Bool)
  | failed (e : FileError)
  deriving DecidableEq, Repr

structure FileOutcome where
  path : Path
  relative : RelPath
  outcome : Outcome
  deriving DecidableEq, Repr

namespace FileOutcome

def isChanged (o : FileOutcome) : Bool :=
  match o.outcome with
  | .changed _ _ => true
  | _ => false

def error? (o : FileOutcome) : Option FileError :=
  match o.outcome with
  | .failed e => some e
  | _ => none

def compare (a b : FileOutcome) : Ordering :=
  (a.relative.compare b.relative).then (a.path.compare b.path)

def le (a b : FileOutcome) : Bool := (compare a b).isLE

end FileOutcome

structure Report where
  outcomes : List FileOutcome
  changed : Nat
  unchanged : Nat
  errors : Nat
  dryRun : Bool
  deriving DecidableEq, Repr

namespace Report

def scanned (r : Report) : Nat := r.outcomes.length

def hasErrors (r : Report) : Bool := 0 < r.errors

def failures (r : Report) : List (Path × FileError) :=
  r.outcomes.filterMap fun o => o.error?.map fun e => (o.path, e)

def changedFiles (r : Report) : List FileOutcome := r.outcomes.filter FileOutcome.isChanged

def record (r : Report) (o : FileOutcome) : Report :=
  let r := { r with outcomes := r.outcomes ++ [o] }
  match o.outcome with
  | .unchanged => { r with unchanged := r.unchanged + 1 }
  | .changed _ _ => { r with changed := r.changed + 1 }
  | .failed _ => { r with errors := r.errors + 1 }

def start (dryRun : Bool) : Report := ⟨[], 0, 0, 0, dryRun⟩

def finish (r : Report) : Report := { r with outcomes := r.outcomes.mergeSort FileOutcome.le }

def ofOutcomes (dryRun : Bool) (outcomes : List FileOutcome) : Report :=
  (outcomes.foldl record (start dryRun)).finish

end Report

end Codemod
