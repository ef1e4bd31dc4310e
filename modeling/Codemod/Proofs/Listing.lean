import Codemod.Output.Listing
import Codemod.Proofs.Composition
import Codemod.Proofs.Records
import Mathlib.Data.List.SplitBy

/-!
What is read back from a listing of rules. The tables of a rule set stand one behind the other in one
stream of records. A reader that begins a new table wherever the index is back at nought finds all
tables again, those of the scopes with their locations and behind them the global one.
-/
namespace Codemod

namespace Json

def text? : Json → Option String
  | .text s => some s
  | _ => none

def natural? : Json → Option Nat
  | .number ⟨false, n, 0⟩ => some n
  | _ => none

end Json

theorem Rule.compileDefinition [Engine] {d : RuleDef} {r : Rule} (compiled : Rule.compile d = .ok r) :
    r.definition = d := by
  unfold Rule.compile at compiled
  split at compiled <;> try contradiction
  split at compiled <;> try contradiction
  split at compiled
  · cases compiled
    rfl
  · split at compiled <;> try contradiction
    cases compiled
    rfl

theorem Rule.compileDefinitions [Engine] {defs : List RuleDef} {rules : List Rule}
    (each : List.Forall₂ (fun d r => Rule.compile d = .ok r) defs rules) :
    rules.map Rule.definition = defs := by
  induction each with
  | nil => rfl
  | cons compiled rest ih => rw [List.map_cons, Rule.compileDefinition compiled, ih]

theorem Glob.readText {text : String} {g : Glob} (read : Glob.read text = .ok g) : g.text = text := by
  obtain ⟨tokens, -, ⟨⟩⟩ := bindOk.mp read
  rfl

namespace RuleSet

theorem compileScopeText [Engine] {d : ScopeDef} {scope : Scope} (compiled : compileScope d = .ok scope) :
    scope.location.text = d.location ∧ scope.table.rules.map Rule.definition = d.rules := by
  obtain ⟨table, own, located⟩ := bindOk.mp compiled
  obtain ⟨glob, read, -, rfl⟩ := Scope.compileOk.mp located
  exact ⟨Glob.readText read, Rule.compileDefinitions (RuleTable.compileEach.mp own).2⟩

theorem compileScopesMap [Engine] {α : Type} {view : Scope → α} {part : ScopeDef → α}
    (each : ∀ d scope, compileScope d = .ok scope → view scope = part d) {scopes : List ScopeDef}
    {found : List Scope} (compiled : compileScopes scopes = .ok found) :
    found.map view = scopes.map part := by
  induction scopes generalizing found with
  | nil =>
    cases compiled
    rfl
  | cons d rest ih =>
    obtain ⟨scope, first, others⟩ := bindOk.mp compiled
    obtain ⟨more, later, ⟨⟩⟩ := bindOk.mp others
    rw [List.map_cons, List.map_cons, ih later, each d scope first]

theorem compileScopesText [Engine] {scopes : List ScopeDef} {found : List Scope}
    (compiled : compileScopes scopes = .ok found) :
    found.map (fun s => (s.location.text, s.table.rules.map Rule.definition)) =
      scopes.map fun d => (d.location, d.rules) := by
  apply compileScopesMap (fun d scope first => ?_) compiled
  obtain ⟨location, rules⟩ := compileScopeText first
  rw [location, rules]

theorem compileFilled [Engine] {scopes : List ScopeDef} {found : List Scope}
    (compiled : compileScopes scopes = .ok found) (filled : ∀ d ∈ scopes, d.rules ≠ []) :
    ∀ scope ∈ found, scope.table.rules ≠ [] := by
  intro scope mem nothing
  have mine := List.mem_map_of_mem (f := fun s : Scope =>
    (s.location.text, s.table.rules.map Rule.definition)) mem
  rw [compileScopesText compiled] at mine
  obtain ⟨d, there, same⟩ := List.mem_map.mp mine
  exact filled d there (by simpa [nothing] using congrArg Prod.snd same)

end RuleSet

namespace Output.Listing

open Json

def literalOf? (kind : String) : Option Bool :=
  if kind = "literal" then some true else if kind = "regex" then some false else none

def locationOf? : Option Json → Option (Option String)
  | none => some none
  | some j => j.text?.map some

def ofJson? (j : Json) : Option Listing := do
  guard ((j.get? "type").bind text? = some "rule")
  let table ← (j.get? "table").bind text?
  let location ← locationOf? (j.get? "location")
  let index ← (j.get? "index").bind natural?
  let literal ← ((j.get? "kind").bind text?).bind literalOf?
  let pattern ← (j.get? "pattern").bind text?
  let replacement ← (j.get? "replacement").bind text?
  return ⟨table, location, index, ⟨pattern, replacement, literal⟩⟩

theorem ofJsonRecord (l : Listing) : ofJson? (.object (fieldsOf l.record)) = some l := by
  obtain ⟨table, location, index, pattern, replacement, literal⟩ := l
  cases location <;> cases literal <;> rfl

/-- Entries in tables: a new one begins wherever the index is nought. -/
def tables (ls : List Listing) : List (List Listing) := ls.splitBy fun _ next => next.index != 0

def tableOf (ls : List Listing) : Option String × List RuleDef :=
  (ls.head?.bind location, ls.map rule)

def readTables (lines : List (List Char)) : Option (List (Option String × List RuleDef)) := do
  let ls ← lines.mapM fun line => (Json.read? line).bind ofJson?
  return (tables ls).map tableOf

theorem readTablesWritten (ls : List Listing) :
    readTables (ls.map fun l => Record.write l.record) = some ((tables ls).map tableOf) := by
  have each : (ls.map fun l => Record.write l.record).mapM
      (fun line => (Json.read? line).bind ofJson?) = some ls := by
    induction ls with
    | nil => rfl
    | cons l rest ih => simp [readWritten, ofJsonRecord, ih]
  simp [readTables, each]

theorem ofTableIndex {location : Option String} {t : RuleTable} {i : Nat} {l : Listing}
    (there : (ofTable location t)[i]? = some l) : l.index = i := by
  simp only [ofTable, List.getElem?_mapIdx, Option.map_eq_some_iff] at there
  obtain ⟨r, -, rfl⟩ := there
  rfl

theorem ofTableRules (location : Option String) (t : RuleTable) :
    (ofTable location t).map rule = t.rules.map Rule.definition := by
  apply List.ext_getElem? fun i => ?_
  simp [ofTable, Function.comp_def]

theorem tableOfTable (location : Option String) {t : RuleTable} (filled : t.rules ≠ []) :
    tableOf (ofTable location t) = (location, t.rules.map Rule.definition) := by
  obtain ⟨r, rest, rules⟩ := List.exists_cons_of_ne_nil filled
  rw [tableOf, ofTableRules]
  simp [ofTable, rules]

def Fresh (ls : List Listing) : Prop := ∀ l ∈ ls.head?, l.index = 0

theorem Fresh.table (location : Option String) (t : RuleTable) : Fresh (ofTable location t) := by
  intro l first
  rw [List.head?_eq_getElem?] at first
  exact ofTableIndex first

theorem Fresh.append {ls more : List Listing} (one : Fresh ls) (two : Fresh more) :
    Fresh (ls ++ more) := by
  cases ls with
  | nil => exact two
  | cons l rest => exact one

theorem Fresh.scopes (scopes : List Scope) {rest : List Listing} (fresh : Fresh rest) :
    Fresh (scopes.flatMap (fun s => ofTable (some s.location.text) s.table) ++ rest) := by
  induction scopes with
  | nil => exact fresh
  | cons s more ih =>
    rw [List.flatMap_cons, List.append_assoc]
    exact (Fresh.table _ _).append ih

theorem tablesTable (location : Option String) {t : RuleTable} (filled : t.rules ≠ [])
    {rest : List Listing} (fresh : Fresh rest) :
    tables (ofTable location t ++ rest) = ofTable location t :: tables rest := by
  have nonempty : ofTable location t ≠ [] := by simpa [ofTable] using filled
  have within : (ofTable location t).IsChain fun _ next => (next.index != 0) = true := by
    rw [List.isChain_iff_getElem]
    intro i inside
    have index := ofTableIndex (List.getElem?_eq_getElem inside)
    simp [index]
  have cut : ∀ l ∈ (ofTable location t).getLast?, ∀ next ∈ rest.head?, (next.index != 0) = false := by
    intro l _ next first
    simp [fresh next first]
  unfold tables
  rw [List.splitBy_append cut, List.splitBy_of_isChain nonempty within]
  rfl

theorem tablesScopes {scopes : List Scope} (filled : ∀ s ∈ scopes, s.table.rules ≠ [])
    {rest : List Listing} (fresh : Fresh rest) :
    (tables (scopes.flatMap (fun s => ofTable (some s.location.text) s.table) ++ rest)).map tableOf =
      scopes.map (fun s => (some s.location.text, s.table.rules.map Rule.definition)) ++
        (tables rest).map tableOf := by
  induction scopes with
  | nil => rfl
  | cons s more ih =>
    have own := filled s (by simp)
    rw [List.flatMap_cons, List.append_assoc, tablesTable _ own (Fresh.scopes more fresh),
      List.map_cons, ih fun s mem => filled s (List.mem_cons_of_mem _ mem), tableOfTable _ own]
    rfl

theorem tablesGlobal (t : RuleTable) :
    (tables (ofTable none t)).map tableOf =
      if t.rules = [] then [] else [(none, t.rules.map Rule.definition)] := by
  split
  · next nothing => simp [ofTable, nothing, tables]
  · next filled =>
    have one : tables (ofTable none t ++ []) = ofTable none t :: tables [] :=
      tablesTable none filled (by simp [Fresh])
    rw [List.append_nil] at one
    rw [one, List.map_cons, tableOfTable none filled]
    simp [tables]

theorem sizeFrom (scopes : List Scope) (start : Nat) :
    scopes.foldl (fun n scope => n + scope.table.rules.length) start =
      (scopes.flatMap fun s => ofTable (some s.location.text) s.table).length + start := by
  induction scopes generalizing start with
  | nil => simp
  | cons s more ih =>
    rw [List.foldl_cons, ih, List.flatMap_cons, List.length_append]
    simp only [ofTable, List.length_mapIdx]
    omega

theorem sizeListed (s : RuleSet) : (ofRuleSet s).length = s.size := by
  rw [RuleSet.size, sizeFrom, ofRuleSet, List.length_append]
  simp [ofTable]

/-- From the lines of a listing the scopes are read back in their order, with their locations and
rules, and behind them the global rules, if there are any; a line stands for each rule. -/
theorem listingReadsBack [Engine] {rules : List RuleDef} {scopes : List ScopeDef} {s : RuleSet}
    (compiled : RuleSet.compile rules scopes = .ok s) (filled : ∀ d ∈ scopes, d.rules ≠ []) :
    ∃ lines, linesOf (jsonl (ofRuleSet s)).toList = (lines, []) ∧ lines.length = s.size ∧
      readTables lines = some (scopes.map (fun d => (some d.location, d.rules)) ++
        if rules = [] then [] else [(none, rules)]) := by
  obtain ⟨global, located⟩ := RuleSet.compileParts compiled
  have defined := Rule.compileDefinitions global
  have texts := RuleSet.compileScopesText located
  have own := RuleSet.compileFilled located filled
  refine ⟨(ofRuleSet s).map fun l => Record.write l.record, ?_, ?_, ?_⟩
  · rw [jsonl, linesWritten, List.map_map]
    rfl
  · rw [List.length_map, sizeListed]
  · have empty : s.global.rules = [] ↔ rules = [] := by rw [← defined, List.map_eq_nil_iff]
    have tabled := congrArg (List.map fun p : String × List RuleDef => (some p.1, p.2)) texts
    rw [List.map_map, List.map_map] at tabled
    rw [readTablesWritten, ofRuleSet, tablesScopes own (Fresh.table none s.global), tablesGlobal,
      defined]
    simp only [empty]
    exact congrArg (fun front => some (front ++ _)) tabled

def repeated : List ScopeDef :=
  [⟨"**", [⟨"\"a\\\n", "$1", true⟩, ⟨"b+", "\t\x01é", false⟩]⟩, ⟨"**", [⟨"c", "", true⟩]⟩]

open Engine in
set_option maxRecDepth 100000 in
theorem listingReadsBackRepeated :
    ∃ s lines, RuleSet.compile [] repeated = .ok s ∧ (∀ d ∈ repeated, d.rules ≠ []) ∧
      linesOf (jsonl (ofRuleSet s)).toList = (lines, []) ∧ lines.length = 3 ∧
      readTables lines = some [(some "**", [⟨"\"a\\\n", "$1", true⟩, ⟨"b+", "\t\x01é", false⟩]),
        (some "**", [⟨"c", "", true⟩])] := by
  have sizes : (RuleSet.compile [] repeated).toOption.map RuleSet.size = some 3 := by decide +kernel
  have filled : ∀ d ∈ repeated, d.rules ≠ [] := by decide
  cases compiled : RuleSet.compile [] repeated with
  | error e => simp [compiled, Except.toOption] at sizes
  | ok s =>
    have size : s.size = 3 := by simpa [compiled, Except.toOption] using sizes
    obtain ⟨lines, written, count, reads⟩ := listingReadsBack compiled filled
    exact ⟨s, lines, rfl, filled, written, count.trans size, reads⟩

end Output.Listing

end Codemod
