import Codemod.CommandLine.Given

/-!
Command lines: options that hold for every command, a command, and its options. What is given
behind the command wins over what is given before it.
-/
namespace Codemod

structure RunOptions where
  config : Path
  root : Option Path
  format : Option Format
  jobs : Nat
  deriving DecidableEq, Repr

inductive Command where
  | apply (options : RunOptions)
  | check (options : RunOptions)
  | init (config : Path) (force : Bool)
  | list (config : Path) (format : Format)
  deriving DecidableEq, Repr

structure Invocation where
  command : Command
  colour : Option ColourMode
  verbose : Bool
  deriving DecidableEq, Repr

namespace CommandLine

def defaultConfig : Path := ⟨"rewire.toml"⟩

def strayBeforeCommand (behindDashes : Bool) (word : String) : UsageError :=
  if behindDashes && commandNames.contains word then .unknownArgument word else .unknownCommand word

def strayBehindCommand (_ : Bool) (word : String) : UsageError := .unknownArgument word

def helpOn : List String → UsageError
  | [] => .help
  | name :: rest =>
    if commandNames.contains name then
      match rest with
      | [] => .help
      | next :: _ => .unknownCommand next
    else .unknownCommand name

def runOptions (g : Given) : RunOptions :=
  { config := g.config.getD defaultConfig, root := g.root, format := g.format,
    jobs := g.jobs.getD 0 }

def command (g : Given) : Verb → Command
  | .apply => .apply (runOptions g)
  | .check => .check (runOptions g)
  | .init => .init (g.config.getD defaultConfig) g.force
  | .list => .list (g.config.getD defaultConfig) (g.format.getD .human)

def invocation (before behind : Given) (v : Verb) : Invocation :=
  { command := command behind v, colour := behind.color.or before.color,
    verbose := before.verbose || behind.verbose }

def parse (args : List String) : Except UsageError Invocation := do
  let (before, next) ← Scan.words leadingOptions commandNames strayBeforeCommand {} args
  match next with
  | none =>
    let given ← before.settle
    .error (if given = {} then .nothing else .missingCommand)
  | some (name, rest) =>
    match Verb.ofName? name with
    | none => .error (helpOn rest)
    | some v =>
      let (behind, _) ← Scan.words v.options [] strayBehindCommand {} rest
      let behind ← behind.settle
      return invocation (← before.settle) behind v

end CommandLine

end Codemod
