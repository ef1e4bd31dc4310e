import Codemod.Engine.Counting
import Codemod.RuleSet
import Mathlib.Data.List.Forall2

/-!
Rules one after another. A table keeps a count of its own and takes up a text only if a rule has
replaced something in it; what comes of it is still the plain composition of its rules. So a rule
set does to a file what the rules of its first fitting scope and then the global ones do, each to
the whole of what the one before it has left.
-/
namespace Codemod

theorem bindOk {ε α β : Type} {x : Except ε α} {f : α → Except ε β} {b : β} :
    (x >>= f) = .ok b ↔ ∃ a, x = .ok a ∧ f a = .ok b := by
  cases x <;> simp [bind, Except.bind]

namespace RuleTable

def applyRule (w : Edited) (r : Rule) : Edited :=
  let (content, count) := r.apply w.content
  ⟨content, w.replacements + count⟩

theorem applyNothing {r : Rule} {text : String} (idle : (r.apply text).2 = 0) :
    (r.apply text).1 = text := by
  simp only [Rule.apply] at idle ⊢
  split
  · rfl
  · next found =>
    rw [if_neg found] at idle
    simp [List.length_eq_zero_iff.mp idle] at found

theorem foldRulePlain (w : Edited) (r : Rule) : foldRule w r = applyRule w r := by
  simp only [foldRule, applyRule]
  split
  · rfl
  · next few =>
    have idle : (r.apply w.content).2 = 0 := by simpa using few
    rw [idle, applyNothing idle, Nat.add_zero]

theorem foldPlain (t : RuleTable) (text : String) :
    t.fold text = t.rules.foldl applyRule ⟨text, 0⟩ := by
  unfold fold
  congr 1
  funext w r
  exact foldRulePlain w r

theorem applyRulesFrom (rules : List Rule) (w : Edited) :
    rules.foldl applyRule w =
      ⟨(rules.foldl applyRule ⟨w.content, 0⟩).content,
        w.replacements + (rules.foldl applyRule ⟨w.content, 0⟩).replacements⟩ := by
  induction rules generalizing w with
  | nil => rfl
  | cons r rest ih =>
    rw [List.foldl_cons, List.foldl_cons, ih, ih (applyRule ⟨w.content, 0⟩ r)]
    simp [applyRule, Nat.add_assoc]

theorem applyPlain (t : RuleTable) (w : Edited) : t.apply w = t.rules.foldl applyRule w := by
  unfold apply
  rw [foldPlain, applyRulesFrom t.rules w]

theorem compileFromEach [Engine] {name : String} {index : Nat} {defs : List RuleDef} {rules : List Rule} :
    compileFrom name index defs = .ok rules ↔
      List.Forall₂ (fun d r => Rule.compile d = .ok r) defs rules := by
  induction defs generalizing index rules with
  | nil => simp [compileFrom, eq_comm]
  | cons d rest ih =>
    rw [List.forall₂_cons_left_iff]
    unfold compileFrom
    cases compiled : Rule.compile d with
    | error fault => simp
    | ok r =>
      rw [bindOk]
      constructor
      · rintro ⟨rs, others, ⟨⟩⟩
        exact ⟨r, rs, rfl, ih.mp others, rfl⟩
      · rintro ⟨r', rs, ⟨⟩, others, rfl⟩
        exact ⟨rs, ih.mpr others, rfl⟩

theorem compileEach [Engine] {name : String} {defs : List RuleDef} {t : RuleTable} :
    compile name defs = .ok t ↔
      t.name = name ∧ List.Forall₂ (fun d r => Rule.compile d = .ok r) defs t.rules := by
  unfold compile
  rw [bindOk]
  constructor
  · rintro ⟨rules, compiled, ⟨⟩⟩
    exact ⟨rfl, compileFromEach.mp compiled⟩
  · rintro ⟨rfl, each⟩
    exact ⟨t.rules, compileFromEach.mpr each, rfl⟩

end RuleTable

inductive Fed [Engine] : List RuleDef → String → String → Nat → Prop where
  | nil (text : String) : Fed [] text text 0
  | cons {d : RuleDef} {rest : List RuleDef} {r : Rule} {text next last : String} {n k : Nat}
      (compiled : Rule.compile d = .ok r) (applied : r.apply text = (next, n))
      (onward : Fed rest next last k) : Fed (d :: rest) text last (n + k)

theorem fedRules [Engine] {defs : List RuleDef} {rules : List Rule}
    (each : List.Forall₂ (fun d r => Rule.compile d = .ok r) defs rules) (text : String) :
    Fed defs text (rules.foldl RuleTable.applyRule ⟨text, 0⟩).content
      (rules.foldl RuleTable.applyRule ⟨text, 0⟩).replacements := by
  induction each generalizing text with
  | nil => exact .nil text
  | @cons d r defs rules compiled rest ih =>
    rw [List.foldl_cons, RuleTable.applyRulesFrom]
    simp only [RuleTable.applyRule, Nat.zero_add]
    exact .cons compiled rfl (ih _)

theorem Scope.compileOk [Engine] {location : String} {table : RuleTable} {scope : Scope} :
    Scope.compile location table = .ok scope ↔
      ∃ glob, Glob.read location = .ok glob ∧ glob.hasMatcher = true ∧ scope = ⟨glob, table⟩ := by
  unfold Scope.compile
  cases Glob.read location with
  | error e => simp
  | ok glob =>
    cases built : glob.hasMatcher with
    | false => simp [built]
    | true => simpa [built] using eq_comm

def ScopeDef.fits (d : ScopeDef) (path : RelPath) : Bool :=
  match Glob.read d.location with
  | .ok glob => glob.isMatch path.text
  | .error _ => false

def definitionsFor (rules : List RuleDef) (scopes : List ScopeDef) (path : RelPath) : List RuleDef :=
  (scopes.find? (·.fits path)).elim [] ScopeDef.rules ++ rules

namespace RuleSet

variable {rules : List RuleDef} {scopes : List ScopeDef} {s : RuleSet}

theorem compileScopeOf [Engine] {d : ScopeDef} {scope : Scope} (compiled : compileScope d = .ok scope)
    (path : RelPath) :
    scope.isMatch path = d.fits path ∧
      List.Forall₂ (fun d r => Rule.compile d = .ok r) d.rules scope.table.rules := by
  obtain ⟨table, own, located⟩ := bindOk.mp compiled
  obtain ⟨glob, read, -, rfl⟩ := Scope.compileOk.mp located
  unfold Scope.isMatch ScopeDef.fits
  rw [read]
  exact ⟨rfl, (RuleTable.compileEach.mp own).2⟩

theorem compileScopesFirst [Engine] {found : List Scope} (compiled : compileScopes scopes = .ok found)
    (path : RelPath) :
    List.Forall₂ (fun d r => Rule.compile d = .ok r)
      ((scopes.find? (·.fits path)).elim [] ScopeDef.rules)
      ((found.find? (·.isMatch path)).elim [] (·.table.rules)) := by
  induction scopes generalizing found with
  | nil =>
    cases compiled
    exact .nil
  | cons d rest ih =>
    obtain ⟨scope, first, others⟩ := bindOk.mp compiled
    obtain ⟨more, later, ⟨⟩⟩ := bindOk.mp others
    obtain ⟨same, table⟩ := compileScopeOf first path
    rw [List.find?_cons, List.find?_cons, same]
    cases d.fits path with
    | true => exact table
    | false => exact ih later

theorem compileParts [Engine] (compiled : compile rules scopes = .ok s) :
    List.Forall₂ (fun d r => Rule.compile d = .ok r) rules s.global.rules ∧
      compileScopes scopes = .ok s.scopes := by
  obtain ⟨global, own, others⟩ := bindOk.mp compiled
  obtain ⟨found, located, ⟨⟩⟩ := bindOk.mp others
  exact ⟨(RuleTable.compileEach.mp own).2, located⟩

theorem rulesForFirst (s : RuleSet) (path : RelPath) :
    s.rulesFor path = (s.scopeOf? path).elim [] (·.table.rules) ++ s.global.rules := by
  unfold rulesFor
  cases s.scopeOf? path <;> rfl

theorem editPlain (s : RuleSet) (path : RelPath) (text : String) :
    s.edit path text = (s.rulesFor path).foldl RuleTable.applyRule ⟨text, 0⟩ := by
  unfold edit
  rw [rulesForFirst]
  cases s.scopeOf? path with
  | none => exact RuleTable.applyPlain _ _
  | some scope => simp only [RuleTable.applyPlain, Option.elim_some, List.foldl_append]

theorem compileFor [Engine] (compiled : compile rules scopes = .ok s) (path : RelPath) :
    List.Forall₂ (fun d r => Rule.compile d = .ok r) (definitionsFor rules scopes path)
      (s.rulesFor path) := by
  obtain ⟨global, found⟩ := compileParts compiled
  rw [rulesForFirst]
  exact List.rel_append (compileScopesFirst found path) global

/-- A rule set feeds a text through the rules for a file in their order. One table of all these rules
does the same, and so do the two parts of any table one after the other. -/
theorem editComposes [Engine] (compiled : compile rules scopes = .ok s) (path : RelPath) (text : String) :
    Fed (definitionsFor rules scopes path) text (s.edit path text).content
        (s.edit path text).replacements ∧
      (∀ name, ∃ t, RuleTable.compile name (definitionsFor rules scopes path) = .ok t ∧
        t.fold text = s.edit path text) ∧
      ∀ name front back t, RuleTable.compile name (front ++ back) = .ok t →
        ∃ first second, RuleTable.compile name front = .ok first ∧
          RuleTable.compile name back = .ok second ∧
          (t.fold text).content = (second.fold (first.fold text).content).content ∧
          (t.fold text).replacements = (first.fold text).replacements +
            (second.fold (first.fold text).content).replacements := by
  have each := compileFor compiled path
  refine ⟨?_, ?_, ?_⟩
  · rw [editPlain]
    exact fedRules each text
  · intro name
    refine ⟨⟨name, s.rulesFor path⟩, RuleTable.compileEach.mpr ⟨rfl, each⟩, ?_⟩
    rw [RuleTable.foldPlain, editPlain]
  · intro name front back t whole
    obtain ⟨rfl, all⟩ := RuleTable.compileEach.mp whole
    refine ⟨⟨t.name, t.rules.take front.length⟩, ⟨t.name, t.rules.drop front.length⟩, ?_, ?_, ?_⟩
    · exact RuleTable.compileEach.mpr ⟨rfl, by simpa using List.forall₂_take front.length all⟩
    · exact RuleTable.compileEach.mpr ⟨rfl, by simpa using List.forall₂_drop front.length all⟩
    · simp only [RuleTable.foldPlain]
      rw [← List.take_append_drop front.length t.rules, List.foldl_append,
        RuleTable.applyRulesFrom (t.rules.drop front.length)]
      simp

def layered : List RuleDef × List ScopeDef :=
  ([⟨"b+", "c", false⟩],
    [⟨"*.rs", [⟨"a", "b", true⟩, ⟨"b", "$0", false⟩]⟩, ⟨"**", [⟨"a", "z", true⟩]⟩])

open Engine in
set_option maxRecDepth 100000 in
theorem editComposesLayered :
    ∃ s t, compile layered.1 layered.2 = .ok s ∧ s.edit ⟨"m.rs"⟩ "aa" = ⟨"c", 5⟩ ∧
      Fed [⟨"a", "b", true⟩, ⟨"b", "$0", false⟩, ⟨"b+", "c", false⟩] "aa" "c" 5 ∧
      RuleTable.compile "all" [⟨"a", "b", true⟩, ⟨"b", "$0", false⟩, ⟨"b+", "c", false⟩] = .ok t ∧
      t.fold "aa" = ⟨"c", 5⟩ := by
  have edits : (compile layered.1 layered.2).toOption.map (·.edit ⟨"m.rs"⟩ "aa") = some ⟨"c", 5⟩ := by
    decide +kernel
  have written : definitionsFor layered.1 layered.2 ⟨"m.rs"⟩ =
      [⟨"a", "b", true⟩, ⟨"b", "$0", false⟩, ⟨"b+", "c", false⟩] := by decide +kernel
  cases compiled : compile layered.1 layered.2 with
  | error e => simp [compiled, Except.toOption] at edits
  | ok s =>
    have edited : s.edit ⟨"m.rs"⟩ "aa" = ⟨"c", 5⟩ := by simpa [compiled, Except.toOption] using edits
    obtain ⟨fed, table, -⟩ := editComposes compiled ⟨"m.rs"⟩ "aa"
    obtain ⟨t, whole, folds⟩ := table "all"
    rw [written, edited] at fed
    rw [written] at whole
    exact ⟨s, t, rfl, edited, fed, whole, folds.trans edited⟩

end RuleSet

end Codemod
