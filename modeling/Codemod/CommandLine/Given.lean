import Codemod.CommandLine.Option

/-!
The options that were given, each at most once. An option may take its value from the next word, so
a value is looked at only when the option after it begins, or at the end.
-/
namespace Codemod.CommandLine

structure Given where
  config : Option Path := none
  root : Option Path := none
  format : Option Format := none
  jobs : Option Nat := none
  color : Option ColourMode := none
  verbose : Bool := false
  force : Bool := false
  deriving DecidableEq, Repr

def pathValue (o : Opt) (value : String) : Except UsageError Path :=
  if value.isEmpty then .error (.missingValue o) else .ok ⟨value⟩

def choiceValue {α : Type} (o : Opt) (name : α → String) (all : List α) (value : String) :
    Except UsageError α :=
  match all.find? fun a => name a == value with
  | some a => .ok a
  | none => .error (if value.isEmpty then .missingValue o else .badValue o value)

def numberValue (o : Opt) (value : String) : Except UsageError Nat :=
  match readNumber value.toList with
  | .ok n => .ok n
  | .error reason => .error (.badNumber o value reason)

namespace Given

def has (g : Given) : Opt → Bool
  | .config => g.config.isSome
  | .root => g.root.isSome
  | .format => g.format.isSome
  | .jobs => g.jobs.isSome
  | .color => g.color.isSome
  | .verbose => g.verbose
  | .force => g.force
  | .help | .version => false

def put (g : Given) (o : Opt) (value : String) : Except UsageError Given :=
  if g.has o then .error (.repeated o)
  else match o with
    | .config => do return { g with config := some (← pathValue o value) }
    | .root => do return { g with root := some (← pathValue o value) }
    | .format => do return { g with format := some (← choiceValue o Format.name Format.all value) }
    | .jobs => do return { g with jobs := some (← numberValue o value) }
    | .color => do
      return { g with color := some (← choiceValue o ColourMode.name ColourMode.all value) }
    | .verbose => .ok { g with verbose := true }
    | .force => .ok { g with force := true }
    | .help => .error .help
    | .version => .error .version

end Given

structure Scan where
  given : Given := {}
  pending : Option (Opt × Option String) := none
  deriving DecidableEq, Repr

namespace Scan

def waiting? (s : Scan) : Option Opt :=
  match s.pending with
  | some (o, none) => some o
  | _ => none

def settle (s : Scan) : Except UsageError Given :=
  match s.pending with
  | none => .ok s.given
  | some (o, none) => .error (.missingValue o)
  | some (o, some value) => s.given.put o value

def option (s : Scan) (o : Opt) (attached : Option String) : Except UsageError Scan := do
  let given ← s.settle
  if o.takesValue && attached.isNone then return { given, pending := some (o, none) }
  else return { given := ← given.put o (attached.getD "") }

def long (allowed : List Opt) (s : Scan) (cs : List Char) : Except UsageError Scan :=
  let name := String.ofList (cs.takeWhile (· != '='))
  let attached := match cs.dropWhile (· != '=') with
    | [] => none
    | _ :: value => some (String.ofList value)
  match allowed.find? (·.long == name) with
  | none => .error (.unknownArgument ("--" ++ name))
  | some o =>
    match attached with
    | some value => if o.takesValue then s.option o attached else .error (.unwantedValue o value)
    | none => s.option o none

def shorts (allowed : List Opt) (s : Scan) : List Char → Except UsageError Scan
  | [] => .ok s
  | c :: cs =>
    match allowed.find? (·.short? == some c) with
    | none => .error (.unknownArgument (String.ofList ['-', c]))
    | some o =>
      if o.takesValue then
        s.option o (match cs with
          | [] => none
          | '=' :: value => some (String.ofList value)
          | value => some (String.ofList value))
      else do (← s.option o none).shorts allowed cs

/--
Reads words up to a command, or up to the end. `stray` says what is wrong with a word that is
neither option nor value; it is told whether the word stands behind a double dash.
-/
def words (allowed : List Opt) (commands : List String) (stray : Bool → String → UsageError)
    (s : Scan) : List String → Except UsageError (Scan × Option (String × List String))
  | [] => .ok (s, none)
  | word :: rest =>
    if s.waiting?.isNone && commands.contains word then .ok (s, some (word, rest))
    else match word.toList with
      | ['-', '-'] =>
        match rest with
        | [] => .ok (s, none)
        | next :: _ => .error (stray true next)
      | '-' :: '-' :: cs => do (← s.long allowed cs).words allowed commands stray rest
      | '-' :: c :: cs => do (← s.shorts allowed (c :: cs)).words allowed commands stray rest
      | _ =>
        match s.waiting? with
        | some o => { s with pending := some (o, some word) }.words allowed commands stray rest
        | none => .error (stray false word)

end Scan

end Codemod.CommandLine
