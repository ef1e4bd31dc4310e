import Codemod.Toml.Scalar

/-!
Reading a whole document: values, key and value lines, and table headers. The tables are put
together as their headers are met, and every rule on defining a table twice is decided there.
-/
namespace Codemod.Toml

open Reader

/-- The most names in a key, and the deepest nesting of values. -/
def keyLimit : Nat := 79

def comment : Reader Unit := do
  let _ ← char '#'
  let _ ← many isPlain

def isBare (c : Char) : Bool := c.isAlphanum || c == '_' || c == '-'

def simpleKey : Reader String
  | '"' :: cs => basicString ('"' :: cs)
  | '\'' :: cs => literalString ('\'' :: cs)
  | cs =>
    let name := cs.takeWhile isBare
    if name.isEmpty then none else some (String.ofList name, cs.dropWhile isBare)

def moreNames : Nat → List String → Reader (List String)
  | 0, names, cs => some (names.reverse, cs)
  | fuel + 1, names, cs =>
    match cs with
    | '.' :: cs =>
      (simpleKey (cs.dropWhile isBlank)).bind fun (name, cs) =>
        moreNames fuel (name :: names) (cs.dropWhile isBlank)
    | _ => some (names.reverse, cs)

def key : Reader (List String) := check (·.length ≤ keyLimit) fun cs =>
  (simpleKey (cs.dropWhile isBlank)).bind fun (name, cs) =>
    moreNames cs.length [name] (cs.dropWhile isBlank)

def skipFiller : Nat → List Char → List Char
  | 0, cs => cs
  | fuel + 1, cs =>
    match cs with
    | ' ' :: cs => skipFiller fuel cs
    | '\t' :: cs => skipFiller fuel cs
    | '\n' :: cs => skipFiller fuel cs
    | '\r' :: '\n' :: cs => skipFiller fuel cs
    | '#' :: cs => skipFiller fuel (cs.dropWhile isPlain)
    | cs => cs

def elements (value : Reader Item) : Nat → List Item → Reader (List Item)
  | 0, _, _ => none
  | fuel + 1, done, cs =>
    match skipFiller (cs.length + 1) cs with
    | ']' :: cs => some (done.reverse, cs)
    | cs =>
      (value cs).bind fun (item, cs) =>
        match skipFiller (cs.length + 1) cs with
        | ',' :: cs => elements value fuel (item :: done) cs
        | ']' :: cs => some ((item :: done).reverse, cs)
        | _ => none

def pair (value : Reader Item) : Reader (List String × Item) := do
  let names ← key
  let _ ← char '='
  blanks
  let item ← value
  blanks
  pure (names, item)

def splitKey (names : List String) : List String × String := (names.dropLast, names.getLastD "")

def pairs (value : Reader Item) : Nat → Entries → Reader Entries
  | 0, _, _ => none
  | fuel + 1, done, cs =>
    (pair value cs).bind fun ((names, item), cs) =>
      let (path, name) := splitKey names
      (done.assign? .inline path name item).bind fun done =>
        match cs with
        | ',' :: cs => pairs value fuel done cs
        | '\x7d' :: cs => some (done, cs)
        | _ => none

/-- A value; `room` says how many levels of arrays and tables may still be opened. -/
def value : Nat → Reader Item
  | 0, cs => (do return .scalar (← scalar) : Reader Item) cs
  | room + 1, cs =>
    match cs with
    | '[' :: cs =>
      (elements (value room) (cs.length + 1) [] cs).map fun (items, cs) => (.array items, cs)
    | '\x7b' :: cs =>
      match cs.dropWhile isBlank with
      | '\x7d' :: cs => some (.table .inline [], cs)
      | cs =>
        (pairs (value room) (cs.length + 1) [] cs).map fun (es, cs) => (.table .inline es, cs)
    | cs => (do return .scalar (← scalar) : Reader Item) cs

inductive Place where
  | root
  | table (path : List String) (name : String)
  | element (path : List String) (name : String)
  deriving DecidableEq, Repr

structure Draft where
  finished : Entries
  place : Place
  filling : Entries

namespace Draft

def start : Draft := ⟨[], .root, []⟩

def close (d : Draft) : Option Entries :=
  match d.place with
  | .root => some d.filling
  | .table path name =>
    (Entries.descend false (fun _ es => (es.add? name (.table .header d.filling)).map (·, ()))
      path .header d.finished).map (·.1)
  | .element path name =>
    let push (es : Entries) : Option Entries :=
      match es.get? name with
      | none => some (es.set name (.tables [d.filling]))
      | some (.tables elements) => some (es.set name (.tables (elements ++ [d.filling])))
      | some _ => none
    (Entries.descend false (fun _ es => (push es).map (·, ())) path .header d.finished).map (·.1)

/-- Begins a table. One that was only passed on the way to another may still get its header. -/
def beginTable (d : Draft) (path : List String) (name : String) : Option Draft := do
  let finished ← d.close
  let take (_ : Origin) (es : Entries) : Option (Entries × Entries) :=
    match es.get? name with
    | none => some (es, [])
    | some (.table .passing sub) => some (es.remove name, sub)
    | some _ => none
  let (finished, filling) ← Entries.descend false take path .header finished
  return ⟨finished, .table path name, filling⟩

def beginElement (d : Draft) (path : List String) (name : String) : Option Draft := do
  let finished ← d.close
  let look (_ : Origin) (es : Entries) : Option (Entries × Unit) :=
    match es.get? name with
    | none => some (es.set name (.tables []), ())
    | some (.tables _) => some (es, ())
    | some _ => none
  let (finished, _) ← Entries.descend false look path .header finished
  return ⟨finished, .element path name, []⟩

def assign (d : Draft) (names : List String) (item : Item) : Option Draft := do
  let (path, name) := splitKey names
  let filling ← d.filling.assign? .header path name item
  return { d with filling }

end Draft

def lineEnd : Reader Unit := do
  blanks
  let _ ← optional comment
  fun cs =>
    match cs with
    | [] => some ((), [])
    | cs => lineBreak cs

def line (d : Draft) : Reader Draft := fun cs =>
  match cs with
  | '[' :: '[' :: cs => do
    let (names, cs) ← key cs
    let (_, cs) ← word "]]" cs
    let (_, cs) ← lineEnd cs
    let (path, name) := splitKey names
    return (← d.beginElement path name, cs)
  | '[' :: cs => do
    let (names, cs) ← key cs
    let (_, cs) ← word "]" cs
    let (_, cs) ← lineEnd cs
    let (path, name) := splitKey names
    return (← d.beginTable path name, cs)
  | cs => do
    let ((names, item), cs) ← pair (value keyLimit) cs
    let (_, cs) ← lineEnd cs
    return (← d.assign names item, cs)

def lines : Nat → Draft → List Char → Option Draft
  | 0, _, _ => none
  | fuel + 1, d, cs =>
    match cs.dropWhile isBlank with
    | [] => some d
    | '#' :: cs =>
      (lineEnd ('#' :: cs)).bind fun (_, cs) => lines fuel d cs
    | '\n' :: cs => lines fuel d cs
    | '\r' :: '\n' :: cs => lines fuel d cs
    | cs => (line d cs).bind fun (d, cs) => lines fuel d cs

def read (text : String) : Option Entries :=
  let cs := match text.toList with
    | '\ufeff' :: cs => cs
    | cs => cs
  (lines (cs.length + 1) .start cs).bind Draft.close

end Codemod.Toml
