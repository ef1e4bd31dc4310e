import Codemod.CommandLine
import Codemod.CommandLine.Help
import Codemod.Config
import Codemod.Migration
import Codemod.Output.Listing
import Codemod.Output.Report
import Codemod.Starter

/-!
Carrying out a command on a tree. The exit code is 0 if all went well, 1 if a check found files to
change, 3 if the configuration cannot be understood, and 2 for everything else that is reported.
Failures of single files do not count. Whoever comes to a location without a matcher stops there, with
a code that stands for no outcome.
-/
namespace Codemod

/-- What a command leaves behind besides the tree, as long as nothing is logged. -/
structure Reply where
  exit : Nat
  out : String := ""
  err : String := ""
  deriving DecidableEq, Repr

namespace Exit

def success : Nat := 0

def pending : Nat := 1

def error : Nat := 2

def parseError : Nat := 3

def stopped : Nat := 101

end Exit

def Config.load (t : Tree) (path : Path) : Except ConfigError Config :=
  match t.read path with
  | .error e => .error (.io e)
  | .ok bytes =>
    match Utf8.decode bytes with
    | .error _ => .error (.io .notText)
    | .ok cs => Config.parse (String.ofList cs)

namespace Execution

def loadConfig (t : Tree) (path : Path) : Except ConfigError Config :=
  if t.has path then Config.load t path else .error (.missing path)

def configDir (path : Path) : Path :=
  match path.parent? with
  | some dir => if dir.text.isEmpty then ⟨"."⟩ else dir
  | none => ⟨"."⟩

def prepare [Engine] (t : Tree) (path : Path) : Except Failure (Config × RuleSet) :=
  match loadConfig t path with
  | .error e => .error (.config e)
  | .ok c =>
    match c.ruleSet with
    | .error e => .error (.rule e)
    | .ok rules => .ok (c, rules)

def rootOf (o : RunOptions) (c : Config) : Path := o.root.getD (c.rootFrom (configDir o.config))

/-- Runs the rules of a configuration. Only a single job takes the files as they are discovered. -/
def execute [Engine] (t : Tree) (o : RunOptions) (dryRun : Bool) :
    Except Failure ((Config × Report) × Tree) :=
  match prepare t o.config with
  | .error e => .error e
  | .ok (c, rules) =>
    let m : Migration := { rules, dryRun }
    match m.migrate t (rootOf o c) (c.filter.skipFile o.config) (o.jobs != 1) with
    | .error e => .error (.discovery e)
    | .ok (report, t) => .ok ((c, report), t)

def exitCode : Failure → Nat
  | .config .malformed => Exit.parseError
  | .config (.shape _) => Exit.parseError
  | _ => Exit.error

def stopped (e : RuleError) : Reply := { exit := Exit.stopped, err := e.message ++ "\n" }

def failed : Failure → Reply
  | .rule (.noMatcher location) => stopped (.noMatcher location)
  | e => { exit := exitCode e, err := s!"Error: {e.message}\n" }

def coloured (terminal : Bool) : ColourMode → Bool
  | .always => true
  | .never => false
  | .auto => terminal

def printed (terminal : Bool) (i : Invocation) (o : RunOptions) (c : Config) (r : Report) :
    String :=
  match o.format.getD c.format with
  | .human => Output.human (coloured terminal (i.colour.getD c.colour)) i.verbose r
  | .jsonl => Output.jsonl r

def migration [Engine] (t : Tree) (terminal : Bool) (i : Invocation) (o : RunOptions) (dryRun : Bool) :
    Reply × Tree :=
  match execute t o dryRun with
  | .error e => (failed e, t)
  | .ok ((c, report), t) =>
    let exit := if dryRun && 0 < report.changed then Exit.pending else Exit.success
    ({ exit, out := printed terminal i o c report }, t)

inductive ListFailure where
  | config (e : ConfigError)
  | rule (e : RuleError)
  deriving DecidableEq, Repr

def ListFailure.message : ListFailure → String
  | .config e => "Configuration error: " ++ e.message
  | .rule e => "Rule error: " ++ e.message

def ListFailure.exitCode : ListFailure → Nat
  | .config .malformed => Exit.parseError
  | .config (.shape _) => Exit.parseError
  | _ => Exit.error

def ListFailure.reply : ListFailure → Reply
  | .rule (.noMatcher location) => stopped (.noMatcher location)
  | e => { exit := e.exitCode, err := s!"Error: {e.message}\n" }

def listed [Engine] (t : Tree) (config : Path) : Except ListFailure (List Output.Listing) := do
  let c ← (loadConfig t config).mapError .config
  let rules ← c.ruleSet.mapError .rule
  return Output.Listing.ofRuleSet rules

def listing [Engine] (t : Tree) (config : Path) (format : Format) : Reply :=
  match listed t config with
  | .error e => e.reply
  | .ok ls =>
    { exit := Exit.success
      out := match format with
        | .human => Output.Listing.human ls
        | .jsonl => Output.Listing.jsonl ls }

def placementText (r : Starter.Result) : String :=
  String.join (r.created.map fun path =>
      s!"Created {path}. Edit its rules, then run 'rewire check'.\n") ++
    String.join (r.overwritten.map fun path => s!"Overwrote {path}.\n") ++
    String.join (r.skipped.map fun path =>
      s!"Skipped {path} (already exists, use --force to overwrite).\n")

def initialise (t : Tree) (device : Device) (config : Path) (force : Bool) : Reply × Tree :=
  match Starter.place t device config force with
  | (.error e, t) => ({ exit := Exit.error, err := s!"Error: {e.message}\n" }, t)
  | (.ok r, t) => ({ exit := Exit.success, out := placementText r }, t)

/-- Carries out a command, with all the room that files need. -/
def perform [Engine] (t : Tree) (terminal : Bool) (i : Invocation) : Reply × Tree :=
  match i.command with
  | .apply o => migration t terminal i o false
  | .check o => migration t terminal i o true
  | .init config force => initialise t {} config force
  | .list config format => (listing t config format, t)

def usage : CommandLine.UsageError → Reply
  | .help => { exit := Exit.success, out := CommandLine.helpText }
  | .version => { exit := Exit.success, out := CommandLine.versionText }
  | .nothing => { exit := Exit.error, err := CommandLine.helpText }
  | e => { exit := Exit.error, err := e.message ++ "\n\nFor more information, try '--help'.\n" }

def respond [Engine] (t : Tree) (terminal : Bool) (args : List String) : Reply × Tree :=
  match CommandLine.parse args with
  | .error e => (usage e, t)
  | .ok i => perform t terminal i

end Execution

end Codemod
