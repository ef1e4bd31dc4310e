import Codemod.Decimal

/-!
What a configuration document holds: scalars, arrays and tables. A table remembers how it came to
be, because that decides what may still be added to it. Entries keep the order of the document.
-/
namespace Codemod.Toml

inductive Real where
  | finite (value : Decimal)
  | infinite (negative : Bool)
  | nan
  deriving DecidableEq, Repr

/-- A scalar. Of a date or a time only the kind is kept. -/
inductive Scalar where
  | string (text : String)
  | integer (value : Int)
  | real (value : Real)
  | boolean (value : Bool)
  | moment
  deriving DecidableEq, Repr

inductive Origin where
  /-- by a header of its own -/
  | header
  /-- on the way to the header of a table inside it -/
  | passing
  /-- by a dotted key -/
  | dotted
  /-- as a value in braces -/
  | inline
  deriving DecidableEq, Repr

inductive Item where
  | scalar (value : Scalar)
  | array (items : List Item)
  | table (origin : Origin) (entries : List (String × Item))
  | tables (elements : List (List (String × Item)))
  deriving Repr, Inhabited

abbrev Entries := List (String × Item)

namespace Entries

def get? (es : Entries) (key : String) : Option Item := List.lookup key es

def set (es : Entries) (key : String) (item : Item) : Entries :=
  if es.any (·.1 == key) then es.map fun e => if e.1 == key then (key, item) else e
  else es ++ [(key, item)]

def remove (es : Entries) (key : String) : Entries := es.filter fun e => e.1 != key

def add? (es : Entries) (key : String) (item : Item) : Option Entries :=
  if es.any (·.1 == key) then none else some (es ++ [(key, item)])

/--
Goes down a path of table names and changes the table at its end. Missing tables are made on the
way. The path leads through the last element of an array of tables, never through a value, and a
dotted path never through a table that has a header of its own.
-/
def descend {α : Type} (dotted : Bool) (change : Origin → Entries → Option (Entries × α)) :
    List String → Origin → Entries → Option (Entries × α)
  | [], origin, es => change origin es
  | key :: path, _, es =>
    match es.get? key with
    | none =>
      let origin := if dotted then Origin.dotted else Origin.passing
      (descend dotted change path origin []).map fun (sub, a) => (es.set key (.table origin sub), a)
    | some (.table origin sub) =>
      if origin = .inline || (dotted && origin = .header) then none
      else (descend dotted change path origin sub).map fun (sub, a) =>
        (es.set key (.table origin sub), a)
    | some (.tables elements) =>
      match elements.getLast? with
      | none => none
      | some last => (descend dotted change path .header last).map fun (last, a) =>
          (es.set key (.tables (elements.dropLast ++ [last])), a)
    | some _ => none

def assign? (origin : Origin) (es : Entries) (path : List String) (key : String) (item : Item) :
    Option Entries :=
  let place (o : Origin) (es : Entries) : Option (Entries × Unit) :=
    if (o == .dotted) == path.isEmpty then none else (es.add? key item).map fun es => (es, ())
  (descend true place path origin es).map (·.1)

end Entries

def Item.kind : Item → String
  | .scalar (.string _) => "string"
  | .scalar (.integer _) => "integer"
  | .scalar (.real _) => "float"
  | .scalar (.boolean _) => "boolean"
  | .scalar .moment => "datetime"
  | .array _ => "array"
  | .table .inline _ => "inline table"
  | .table _ _ => "table"
  | .tables _ => "array of tables"

end Codemod.Toml
