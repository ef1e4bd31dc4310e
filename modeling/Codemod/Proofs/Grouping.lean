import Codemod.Proofs.Listing

/-!
What the listing for people shows. It is made from one stream of rules, and a header stands wherever
the name of the table is not that of the rule before. So every table has its rules under a header of
its own if and only if no scope has the location of the one right before it.
-/
namespace Codemod

namespace RuleSet

theorem scopeNameInjective {a b : String} (same : scopeName a = scopeName b) : a = b := by
  have texts : "scope '".toList ++ a.toList ++ "'".toList = "scope '".toList ++ b.toList ++ "'".toList := by
    simpa only [scopeName, toString, String.toList_append] using congrArg String.toList same
  rw [List.append_left_inj, List.append_right_inj] at texts
  exact String.toList_inj.mp texts

theorem scopeNameGlobal (location : String) : scopeName location ≠ globalName := by
  intro same
  have first := congrArg (fun name => name.toList.head?) same
  simp [scopeName, globalName, toString] at first

theorem compileScopeName [Engine] {d : ScopeDef} {scope : Scope} (compiled : compileScope d = .ok scope) :
    scope.table.name = scopeName d.location := by
  obtain ⟨table, own, located⟩ := bindOk.mp compiled
  obtain ⟨glob, -, -, rfl⟩ := Scope.compileOk.mp located
  exact (RuleTable.compileEach.mp own).1

theorem compileGlobalName [Engine] {rules : List RuleDef} {scopes : List ScopeDef} {s : RuleSet}
    (compiled : compile rules scopes = .ok s) : s.global.name = globalName := by
  obtain ⟨global, own, others⟩ := bindOk.mp compiled
  obtain ⟨found, located, ⟨⟩⟩ := bindOk.mp others
  exact (RuleTable.compileEach.mp own).1

end RuleSet

namespace Output.Listing

def ruleLine (index : Nat) (r : RuleDef) : String :=
  "  " ++ toString index ++ ". [" ++ (if r.literal then "literal" else "regex") ++ "] " ++ r.pattern ++
    " -> " ++ r.replacement ++ "\n"

def numberedFrom (index : Nat) : List RuleDef → String
  | [] => ""
  | r :: rest => ruleLine index r ++ numberedFrom (index + 1) rest

def header (name : String) : String := "\n" ++ name ++ ":\n"

def block (table : String × List RuleDef) : String := header table.1 ++ numberedFrom 0 table.2

def tablesOf (rules : List RuleDef) (scopes : List ScopeDef) : List (String × List RuleDef) :=
  scopes.map (fun d => (RuleSet.scopeName d.location, d.rules)) ++
    if rules = [] then [] else [(RuleSet.globalName, rules)]

def tablesIn (s : RuleSet) : List (String × List RuleDef) :=
  s.scopes.map (fun scope => (scope.table.name, scope.table.rules.map Rule.definition)) ++
    if s.global.rules = [] then [] else [(s.global.name, s.global.rules.map Rule.definition)]

def total (tables : List (String × List RuleDef)) : String :=
  "Rules (" ++ toString (tables.flatMap Prod.snd).length ++ " total):\n"

def shown (tables : List (String × List RuleDef)) : String :=
  total tables ++ String.join (tables.map block)

def grouped (current : Option String) : List (String × List RuleDef) → String
  | [] => ""
  | (name, rules) :: rest =>
    (if current = some name then "" else header name) ++ numberedFrom 0 rules ++
      grouped (some name) rest

theorem lineOf (l : Listing) : l.line = ruleLine l.index l.rule := by
  obtain ⟨table, location, index, pattern, replacement, literal⟩ := l
  cases literal <;> rfl

theorem linesNumbered (name : String) (location : Option String) (rules : List Rule) (n : Nat)
    (rest : List Listing) :
    linesFrom (some name) (rules.mapIdx (fun i r => ⟨name, location, i + n, r.definition⟩) ++ rest) =
      numberedFrom n (rules.map Rule.definition) ++ linesFrom (some name) rest := by
  induction rules generalizing n with
  | nil => simp [numberedFrom]
  | cons r more ih =>
    have later := ih (n + 1)
    simp only [← Nat.add_assoc, Nat.add_right_comm _ n 1] at later
    simp only [List.mapIdx_cons, List.cons_append, linesFrom, if_pos, lineOf, later, Nat.zero_add,
      List.map_cons, numberedFrom, String.empty_append, String.append_assoc]

theorem linesTable (current location : Option String) {t : RuleTable} (filled : t.rules ≠ [])
    (rest : List Listing) :
    linesFrom current (ofTable location t ++ rest) =
      (if current = some t.name then "" else header t.name) ++
        numberedFrom 0 (t.rules.map Rule.definition) ++ linesFrom (some t.name) rest := by
  obtain ⟨r, more, rules⟩ := List.exists_cons_of_ne_nil filled
  have behind := linesNumbered t.name location more 1 rest
  rw [ofTable, rules]
  simp only [List.mapIdx_cons, List.cons_append, linesFrom, lineOf, behind, List.map_cons, numberedFrom,
    Nat.zero_add, header, String.append_assoc]
  rfl

theorem linesTables (current : Option String) (scopes : List Scope)
    (filled : ∀ s ∈ scopes, s.table.rules ≠ []) (global : RuleTable) :
    linesFrom current (ofRuleSet ⟨global, scopes⟩) = grouped current (tablesIn ⟨global, scopes⟩) := by
  induction scopes generalizing current with
  | nil =>
    by_cases nothing : global.rules = []
    · simp [ofRuleSet, tablesIn, ofTable, nothing, linesFrom, grouped]
    · have last := linesTable current none nothing []
      simpa [ofRuleSet, tablesIn, nothing, grouped, linesFrom] using last
  | cons s more ih =>
    have later := ih (some s.table.name) fun s mem => filled s (List.mem_cons_of_mem _ mem)
    rw [ofRuleSet] at later ⊢
    rw [List.flatMap_cons, List.append_assoc, linesTable _ _ (filled s (by simp)), later]
    rfl

theorem rulesListed (s : RuleSet) : (ofRuleSet s).map rule = (tablesIn s).flatMap Prod.snd := by
  rw [ofRuleSet, tablesIn, List.map_append, List.flatMap_append, List.map_flatMap, List.flatMap_map]
  simp only [ofTableRules]
  split
  · next nothing => simp [nothing]
  · simp

/- A header that is left out makes the text shorter, so it is missed wherever it is left out. -/
theorem groupedLength (current : Option String) (tables : List (String × List RuleDef)) :
    (grouped current tables).length ≤ (String.join (tables.map block)).length := by
  induction tables generalizing current with
  | nil => simp [grouped]
  | cons t rest ih =>
    have later := ih (some t.1)
    rw [grouped]
    split <;> simp only [List.map_cons, String.join_cons, block, String.length_append, String.length_empty] <;>
      omega

theorem groupedShown (current : Option String) (tables : List (String × List RuleDef)) :
    grouped current tables = String.join (tables.map block) ↔
      (∀ t ∈ tables.head?, current ≠ some t.1) ∧ tables.IsChain fun s t => s.1 ≠ t.1 := by
  induction tables generalizing current with
  | nil => simp [grouped]
  | cons t rest ih =>
    rw [grouped]
    split
    · next known =>
      have shorter := groupedLength (some t.1) rest
      have headed : 0 < (header t.1).length := by
        simp only [header, String.length_append]
        have mark : ":\n".length = 2 := rfl
        omega
      constructor
      · intro same
        have lengths := congrArg String.length same
        simp only [List.map_cons, String.join_cons, block, String.length_append, String.length_empty] at lengths
        omega
      · intro ⟨fresh, _⟩
        exact absurd known (fresh t rfl)
    · next fresh =>
      rw [List.map_cons, String.join_cons, block, String.append_right_inj, ih, List.isChain_cons]
      simp [fresh]

theorem tablesCompiled [Engine] {rules : List RuleDef} {scopes : List ScopeDef} {s : RuleSet}
    (compiled : RuleSet.compile rules scopes = .ok s) : tablesIn s = tablesOf rules scopes := by
  obtain ⟨global, located⟩ := RuleSet.compileParts compiled
  have defined := Rule.compileDefinitions global
  have each (d : ScopeDef) (scope : Scope) (first : RuleSet.compileScope d = .ok scope) :
      (scope.table.name, scope.table.rules.map Rule.definition) =
        (RuleSet.scopeName d.location, d.rules) := by
    rw [RuleSet.compileScopeName first, (RuleSet.compileScopeText first).2]
  have named := RuleSet.compileScopesMap each located
  have empty : s.global.rules = [] ↔ rules = [] := by rw [← defined, List.map_eq_nil_iff]
  rw [tablesIn, tablesOf, named, defined, RuleSet.compileGlobalName compiled]
  simp only [empty]

theorem tablesChain (rules : List RuleDef) (scopes : List ScopeDef) :
    (tablesOf rules scopes).IsChain (fun s t => s.1 ≠ t.1) ↔
      scopes.IsChain fun d e => d.location ≠ e.location := by
  have names (d e : ScopeDef) :
      RuleSet.scopeName d.location ≠ RuleSet.scopeName e.location ↔ d.location ≠ e.location :=
    not_congr ⟨RuleSet.scopeNameInjective, congrArg _⟩
  have last (location : String) (mine : List RuleDef) :
      ∀ t ∈ (if rules = [] then [] else [(RuleSet.globalName, rules)]).head?,
        (RuleSet.scopeName location, mine).1 ≠ t.1 := by
    intro t first
    split at first
    · contradiction
    · cases first
      exact RuleSet.scopeNameGlobal location
  rw [tablesOf, List.isChain_append, List.isChain_map]
  simp only [names]
  constructor
  · exact And.left
  · intro apart
    refine ⟨apart, ?_, ?_⟩
    · split <;> simp
    · intro s final t first
      rw [List.getLast?_map] at final
      obtain ⟨d, -, rfl⟩ := Option.map_eq_some_iff.mp final
      exact last d.location d.rules t first

/-- People see the tables one after the other, the scopes as they were declared and then the global
one. Each non-empty table has a header of its own if and only if no two scopes that follow one another
have the same location; where they do, the rules of the second stand under the header of the first. -/
theorem tablesShown [Engine] {rules : List RuleDef} {scopes : List ScopeDef} {s : RuleSet}
    (compiled : RuleSet.compile rules scopes = .ok s) (filled : ∀ d ∈ scopes, d.rules ≠ []) :
    human (ofRuleSet s) = total (tablesOf rules scopes) ++ grouped none (tablesOf rules scopes) ∧
      (human (ofRuleSet s) = shown (tablesOf rules scopes) ↔
        scopes.IsChain fun d e => d.location ≠ e.location) := by
  have own : ∀ scope ∈ s.scopes, scope.table.rules ≠ [] :=
    RuleSet.compileFilled (RuleSet.compileParts compiled).2 filled
  have text : human (ofRuleSet s) =
      total (tablesOf rules scopes) ++ grouped none (tablesOf rules scopes) := by
    rw [← tablesCompiled compiled, total, ← rulesListed, List.length_map,
      ← linesTables none s.scopes own s.global]
    rfl
  refine ⟨text, ?_⟩
  rw [text, shown, String.append_right_inj, groupedShown, tablesChain]
  simp

def alternating : List ScopeDef :=
  [⟨"a/**", [⟨"a", "b", false⟩, ⟨"c", "d", true⟩]⟩, ⟨"global rules:\n", [⟨"e+", "", false⟩]⟩,
    ⟨"a/**", [⟨"f", "g", false⟩]⟩]

open Engine in
set_option maxRecDepth 100000 in
theorem tablesShownAlternating :
    ∃ s, RuleSet.compile [⟨"h", "i", true⟩] alternating = .ok s ∧ (∀ d ∈ alternating, d.rules ≠ []) ∧
      human (ofRuleSet s) = "Rules (5 total):\n\nscope 'a/**':\n  0. [regex] a -> b\n" ++
        "  1. [literal] c -> d\n\nscope 'global rules:\n':\n  0. [regex] e+ -> \n" ++
        "\nscope 'a/**':\n  0. [regex] f -> g\n\nglobal rules:\n  0. [literal] h -> i\n" := by
  have sizes : (RuleSet.compile [⟨"h", "i", true⟩] alternating).toOption.map RuleSet.size = some 5 := by
    decide +kernel
  have filled : ∀ d ∈ alternating, d.rules ≠ [] := by decide
  have apart : alternating.IsChain fun d e => d.location ≠ e.location := by decide
  have text : shown (tablesOf [⟨"h", "i", true⟩] alternating) =
      "Rules (5 total):\n\nscope 'a/**':\n  0. [regex] a -> b\n" ++
        "  1. [literal] c -> d\n\nscope 'global rules:\n':\n  0. [regex] e+ -> \n" ++
        "\nscope 'a/**':\n  0. [regex] f -> g\n\nglobal rules:\n  0. [literal] h -> i\n" := by
    decide +kernel
  cases compiled : RuleSet.compile [⟨"h", "i", true⟩] alternating with
  | error e => simp [compiled, Except.toOption] at sizes
  | ok s => exact ⟨s, rfl, filled, ((tablesShown compiled filled).2.mpr apart).trans text⟩

def twins : List ScopeDef := [⟨"**", [⟨"a", "b", false⟩]⟩, ⟨"**", [⟨"c", "d", false⟩]⟩]

open Engine in
set_option maxRecDepth 100000 in
theorem tablesMergedTwins :
    ∃ s, RuleSet.compile [] twins = .ok s ∧ (∀ d ∈ twins, d.rules ≠ []) ∧
      human (ofRuleSet s) =
        "Rules (2 total):\n\nscope '**':\n  0. [regex] a -> b\n  0. [regex] c -> d\n" ∧
      human (ofRuleSet s) ≠ shown (tablesOf [] twins) := by
  have text : (RuleSet.compile [] twins).toOption.map (fun s => human (ofRuleSet s)) =
      some "Rules (2 total):\n\nscope '**':\n  0. [regex] a -> b\n  0. [regex] c -> d\n" := by
    decide +kernel
  cases compiled : RuleSet.compile [] twins with
  | error e => simp [compiled, Except.toOption] at text
  | ok s =>
    have merged : human (ofRuleSet s) =
        "Rules (2 total):\n\nscope '**':\n  0. [regex] a -> b\n  0. [regex] c -> d\n" := by
      simpa [compiled, Except.toOption] using text
    refine ⟨s, rfl, by decide, merged, ?_⟩
    rw [merged]
    decide +kernel

end Output.Listing

end Codemod
