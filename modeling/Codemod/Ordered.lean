/-! Sets kept as ascending lists, and lists put in order. -/
namespace Codemod.Ordered

/-- Inserts a member; of two that compare equal the one that is there stays. -/
def insert {α : Type} (order : α → α → Ordering) (x : α) : List α → List α
  | [] => [x]
  | y :: rest =>
    match order x y with
    | .lt => x :: y :: rest
    | .eq => y :: rest
    | .gt => y :: insert order x rest

def ofList {α : Type} (order : α → α → Ordering) (xs : List α) : List α :=
  xs.foldl (fun set x => insert order x set) []

def place {α : Type} (le : α → α → Bool) (x : α) : List α → List α
  | [] => [x]
  | y :: rest => if le x y then x :: y :: rest else y :: place le x rest

def sort {α : Type} (le : α → α → Bool) (xs : List α) : List α := xs.foldr (place le) []

end Codemod.Ordered
