import Codemod.Output.Record
import Codemod.RuleSet

/-! Listings of the rules of a rule set: the scopes in order, then the global rules. -/
namespace Codemod.Output

structure Listing where
  table : String
  location : Option String
  index : Nat
  rule : RuleDef
  deriving DecidableEq, Repr

namespace Listing

def ofTable (location : Option String) (t : RuleTable) : List Listing :=
  t.rules.mapIdx fun i r => ⟨t.name, location, i, r.definition⟩

def ofRuleSet (s : RuleSet) : List Listing :=
  s.scopes.flatMap (fun scope => ofTable (some scope.location.text) scope.table) ++
    ofTable none s.global

def kind (l : Listing) : String := if l.rule.literal then "literal" else "regex"

def line (l : Listing) : String :=
  s!"  {l.index}. [{l.kind}] {l.rule.pattern} -> {l.rule.replacement}\n"

def linesFrom (current : Option String) : List Listing → String
  | [] => ""
  | l :: rest =>
    (if current = some l.table then "" else s!"\n{l.table}:\n")
      ++ l.line ++ linesFrom (some l.table) rest

def human (ls : List Listing) : String := s!"Rules ({ls.length} total):\n" ++ linesFrom none ls

def record (l : Listing) : Record :=
  [("type", .text "rule"), ("table", .text l.table)]
    ++ (l.location.map fun s => ("location", Scalar.text s)).toList
    ++ [("index", .number l.index), ("kind", .text l.kind), ("pattern", .text l.rule.pattern),
      ("replacement", .text l.rule.replacement)]

def jsonl (ls : List Listing) : String := writeLines (ls.map record)

end Listing

end Codemod.Output
