import Codemod.Glob.Matcher
import Codemod.RelPath
import Codemod.Rule

/-!
Tables of rules and rule sets. The rules of a table are applied one after another, each to what the
one before it has left. A rule set has a table for all files and tables for the files at certain
locations; of those the first whose location fits a file is applied to it, ahead of the global one.
-/
namespace Codemod

/-- What is wrong with a rule set: a rule, by its table and place, or a location. A location that can
be read and still has no matcher is not reported as an error: whatever goes on stops there. -/
inductive RuleError where
  | rule (table : String) (index : Nat) (pattern : String) (fault : RuleFault)
  | location (glob : String) (reason : String)
  | noMatcher (glob : String)
  deriving DecidableEq, Repr

def RuleError.message : RuleError → String
  | .rule table index pattern fault =>
    s!"Rule {index} in {table} ('{pattern}') is invalid: {fault.message}"
  | .location glob reason => s!"Invalid scope location '{glob}': {reason}"
  | .noMatcher _ => "regex compilation shouldn't fail"

structure Edited where
  content : String
  replacements : Nat
  deriving DecidableEq, Repr

structure RuleTable where
  name : String
  rules : List Rule
  deriving DecidableEq, Repr

namespace RuleTable

def compileFrom [Engine] (name : String) : Nat → List RuleDef → Except RuleError (List Rule)
  | _, [] => .ok []
  | index, d :: rest =>
    match Rule.compile d with
    | .error fault => .error (.rule name index d.pattern fault)
    | .ok r => do .ok (r :: (← compileFrom name (index + 1) rest))

def compile [Engine] (name : String) (rules : List RuleDef) : Except RuleError RuleTable := do
  .ok ⟨name, ← compileFrom name 0 rules⟩

/- Applies one rule more; the text is replaced only if the rule has replaced something in it. -/
def foldRule (w : Edited) (r : Rule) : Edited :=
  let (content, count) := r.apply w.content
  if 0 < count then ⟨content, w.replacements + count⟩ else w

def fold (t : RuleTable) (content : String) : Edited := t.rules.foldl foldRule ⟨content, 0⟩

def apply (t : RuleTable) (w : Edited) : Edited :=
  let edited := t.fold w.content
  ⟨edited.content, w.replacements + edited.replacements⟩

end RuleTable

structure ScopeDef where
  location : String
  rules : List RuleDef := []
  deriving DecidableEq, Repr

structure Scope where
  location : Glob
  table : RuleTable

def Scope.isMatch (s : Scope) (path : RelPath) : Bool := s.location.isMatch path.text

def Scope.compile [Engine] (location : String) (table : RuleTable) : Except RuleError Scope :=
  match Glob.read location with
  | .ok glob => if glob.hasMatcher then .ok ⟨glob, table⟩ else .error (.noMatcher location)
  | .error e => .error (.location location (e.message location))

structure RuleSet where
  global : RuleTable
  scopes : List Scope

namespace RuleSet

def globalName : String := "global rules"

def scopeName (location : String) : String := s!"scope '{location}'"

def compileScope [Engine] (d : ScopeDef) : Except RuleError Scope := do
  Scope.compile d.location (← RuleTable.compile (scopeName d.location) d.rules)

def compileScopes [Engine] : List ScopeDef → Except RuleError (List Scope)
  | [] => .ok []
  | d :: rest => do
    let s ← compileScope d
    .ok (s :: (← compileScopes rest))

def compile [Engine] (rules : List RuleDef) (scopes : List ScopeDef) : Except RuleError RuleSet := do
  let global ← RuleTable.compile globalName rules
  .ok ⟨global, ← compileScopes scopes⟩

def size (s : RuleSet) : Nat :=
  s.scopes.foldl (fun n scope => n + scope.table.rules.length) s.global.rules.length

def scopeOf? (s : RuleSet) (path : RelPath) : Option Scope := s.scopes.find? (·.isMatch path)

def rulesFor (s : RuleSet) (path : RelPath) : List Rule :=
  match s.scopeOf? path with
  | some scope => scope.table.rules ++ s.global.rules
  | none => s.global.rules

def edit (s : RuleSet) (path : RelPath) (content : String) : Edited :=
  let start : Edited := ⟨content, 0⟩
  match s.scopeOf? path with
  | some scope => s.global.apply (scope.table.apply start)
  | none => s.global.apply start

end RuleSet

end Codemod
