import Codemod.Config
import Codemod.Proofs.Composition
import Codemod.Proofs.Glob
import Codemod.Proofs.Template

/-!
What keeps a rule set from being made. Rules and locations are gone through in one order: the global
rules, then scope by scope its rules and its location. The first of them that is refused decides the
error, and the others have no part in it. A configuration has its locations looked at beforehand, so
that no rule set is refused on their account; but a location that can be read may still have no
matcher.
-/
namespace Codemod

def failure? {ε α : Type} : Except ε α → Option ε
  | .error e => some e
  | .ok _ => none

theorem failureBind {ε α β : Type} {x : Except ε α} {f : α → Except ε β} {later : Option ε}
    (same : ∀ a, failure? (f a) = later) : failure? (x >>= f) = (failure? x).or later := by
  cases x with
  | error e => rfl
  | ok a => exact same a

theorem failureThen {ε α β : Type} (x : Except ε α) (g : α → β) :
    failure? (x >>= fun a => .ok (g a)) = failure? x := by
  cases x <;> rfl

theorem failureSome {ε α : Type} {x : Except ε α} {e : ε} : failure? x = some e ↔ x = .error e := by
  cases x <;> simp [failure?]

theorem failureNone {ε α : Type} {x : Except ε α} : failure? x = none ↔ ∃ a, x = .ok a := by
  cases x <;> simp [failure?]

/-- The location of a scope has a matcher, if it can be read at all. -/
def ScopeDef.Matched [Engine] (d : ScopeDef) : Prop :=
  ∀ g, Glob.read d.location = .ok g → g.hasMatcher = true

namespace RuleSet

inductive Item where
  | rule (table : String) (index : Nat) (d : RuleDef)
  | location (glob : String)
  deriving DecidableEq, Repr

def Item.fault? [Engine] : Item → Option RuleError
  | .rule table index d => (failure? (Rule.compile d)).map (.rule table index d.pattern ·)
  | .location glob =>
    match Glob.read glob with
    | .error e => some (.location glob (e.message glob))
    | .ok g => if g.hasMatcher then none else some (.noMatcher glob)

def tableItems (table : String) (start : Nat) (rules : List RuleDef) : List Item :=
  (rules.zipIdx start).map fun (d, index) => .rule table index d

def scopeItems (d : ScopeDef) : List Item :=
  tableItems (scopeName d.location) 0 d.rules ++ [.location d.location]

def items (rules : List RuleDef) (scopes : List ScopeDef) : List Item :=
  tableItems globalName 0 rules ++ scopes.flatMap scopeItems

theorem compileFromFailure [Engine] (table : String) (start : Nat) (rules : List RuleDef) :
    failure? (RuleTable.compileFrom table start rules) =
      (tableItems table start rules).findSome? Item.fault? := by
  induction rules generalizing start with
  | nil => rfl
  | cons d rest ih =>
    have shape : tableItems table start (d :: rest) =
        .rule table start d :: tableItems table (start + 1) rest := rfl
    rw [shape, List.findSome?_cons, ← ih, RuleTable.compileFrom]
    cases compiled : Rule.compile d with
    | error fault => simp [Item.fault?, compiled, failure?]
    | ok r =>
      simp only [Item.fault?, compiled, failure?, Option.map_none]
      cases RuleTable.compileFrom table (start + 1) rest <;> rfl

theorem compileTableFailure [Engine] (table : String) (rules : List RuleDef) :
    failure? (RuleTable.compile table rules) = (tableItems table 0 rules).findSome? Item.fault? := by
  rw [← compileFromFailure]
  exact failureThen _ (RuleTable.mk table)

theorem locationFailure [Engine] (location : String) (table : RuleTable) :
    failure? (Scope.compile location table) = (Item.location location).fault? := by
  simp only [Scope.compile, Item.fault?]
  cases Glob.read location with
  | error e => rfl
  | ok g => cases built : g.hasMatcher <;> simp [built, failure?]

theorem compileScopeFailure [Engine] (d : ScopeDef) :
    failure? (compileScope d) = (scopeItems d).findSome? Item.fault? := by
  rw [compileScope, failureBind fun table => locationFailure d.location table, compileTableFailure,
    scopeItems, List.findSome?_append, List.findSome?_singleton]

theorem compileScopesFailure [Engine] (scopes : List ScopeDef) :
    failure? (compileScopes scopes) = (scopes.flatMap scopeItems).findSome? Item.fault? := by
  induction scopes with
  | nil => rfl
  | cons d rest ih =>
    rw [compileScopes, failureBind fun s => failureThen (compileScopes rest) (s :: ·),
      compileScopeFailure, ih, List.flatMap_cons, List.findSome?_append]

theorem compileFailure [Engine] (rules : List RuleDef) (scopes : List ScopeDef) :
    failure? (compile rules scopes) = (items rules scopes).findSome? Item.fault? := by
  rw [compile, failureBind fun global => failureThen (compileScopes scopes) (RuleSet.mk global),
    compileTableFailure, compileScopesFailure, items, List.findSome?_append]

variable {rules : List RuleDef} {scopes : List ScopeDef}

theorem compileError [Engine] {e : RuleError} :
    compile rules scopes = .error e ↔
      ∃ front item back, items rules scopes = front ++ item :: back ∧
        (∀ i ∈ front, i.fault? = none) ∧ item.fault? = some e := by
  rw [← failureSome, compileFailure, List.findSome?_eq_some_iff]
  simp only [and_comm]

theorem tableItemsMem {table : String} {item : Item} :
    item ∈ tableItems table 0 rules ↔
      ∃ index d, rules[index]? = some d ∧ item = .rule table index d := by
  unfold tableItems
  rw [List.mem_map]
  constructor
  · rintro ⟨⟨d, index⟩, member, rfl⟩
    exact ⟨index, d, List.mem_zipIdx_iff_getElem?.mp member, rfl⟩
  · rintro ⟨index, d, found, rfl⟩
    exact ⟨(d, index), List.mem_zipIdx_iff_getElem?.mpr found, rfl⟩

theorem itemsMem {item : Item} :
    item ∈ items rules scopes ↔
      (∃ index d, rules[index]? = some d ∧ item = .rule globalName index d) ∨
        ∃ s ∈ scopes,
          (∃ index d, s.rules[index]? = some d ∧ item = .rule (scopeName s.location) index d) ∨
            item = .location s.location := by
  simp only [items, scopeItems, List.mem_append, List.mem_flatMap, tableItemsMem, List.mem_singleton]

theorem ruleSound [Engine] {table : String} {index : Nat} {d : RuleDef} :
    (Item.rule table index d).fault? = none ↔ ∃ r, Rule.compile d = .ok r := by
  rw [Item.fault?, Option.map_eq_none_iff, failureNone]

theorem locationSound [Engine] {glob : String} :
    (Item.location glob).fault? = none ↔ ∃ g, Glob.read glob = .ok g ∧ g.hasMatcher = true := by
  rw [Item.fault?]
  cases Glob.read glob with
  | error e => simp
  | ok g => cases built : g.hasMatcher <;> simp [built]

theorem tableSound [Engine] {table : String} :
    (∀ i ∈ tableItems table 0 rules, i.fault? = none) ↔ ∀ d ∈ rules, ∃ r, Rule.compile d = .ok r := by
  constructor
  · intro sound d member
    obtain ⟨index, found⟩ := List.mem_iff_getElem?.mp member
    exact ruleSound.mp (sound _ (tableItemsMem.mpr ⟨index, d, found, rfl⟩))
  · intro compiles item member
    obtain ⟨index, d, found, rfl⟩ := tableItemsMem.mp member
    exact ruleSound.mpr (compiles d (List.mem_of_getElem? found))

theorem compileOk [Engine] :
    (∃ s, compile rules scopes = .ok s) ↔
      (∀ d ∈ rules, ∃ r, Rule.compile d = .ok r) ∧
        ∀ s ∈ scopes, (∀ d ∈ s.rules, ∃ r, Rule.compile d = .ok r) ∧
          ∃ g, Glob.read s.location = .ok g ∧ g.hasMatcher = true := by
  rw [← failureNone, compileFailure, List.findSome?_eq_none_iff, items, List.forall_mem_append,
    tableSound, List.forall_mem_flatMap]
  simp only [scopeItems, List.forall_mem_append, tableSound, List.forall_mem_singleton, locationSound]

theorem compileMatched [Engine] (matched : ∀ s ∈ scopes, s.Matched) :
    (∃ s, compile rules scopes = .ok s) ↔
      (∀ d ∈ rules, ∃ r, Rule.compile d = .ok r) ∧
        ∀ s ∈ scopes, (∀ d ∈ s.rules, ∃ r, Rule.compile d = .ok r) ∧
          ∃ g, Glob.read s.location = .ok g := by
  rw [compileOk]
  refine and_congr_right fun _ => forall₂_congr fun s member => and_congr_right fun _ => ?_
  exact ⟨fun ⟨g, read, _⟩ => ⟨g, read⟩, fun ⟨g, read⟩ => ⟨g, read, matched s member g read⟩⟩

theorem compileStopped [Engine] {glob : String} (stops : compile rules scopes = .error (.noMatcher glob)) :
    ∃ s ∈ scopes, ¬s.Matched := by
  obtain ⟨front, item, back, whole, -, own⟩ := compileError.mp stops
  have member : item ∈ items rules scopes := by simp [whole]
  cases item with
  | rule table index d => simp [Item.fault?] at own
  | location other =>
    rcases itemsMem.mp member with ⟨_, _, -, ⟨⟩⟩ | ⟨s, one, ⟨_, _, -, ⟨⟩⟩ | ⟨⟨⟩⟩⟩
    refine ⟨s, one, fun matched => ?_⟩
    simp only [Item.fault?] at own
    split at own
    · cases own
    · next g read => simp [matched g read] at own

theorem compileErrorRule [Engine] {table pattern : String} {index : Nat} {fault : RuleFault}
    (refused : compile rules scopes = .error (.rule table index pattern fault)) :
    ∃ d, d.pattern = pattern ∧ Rule.compile d = .error fault ∧
      (table = "global rules" ∧ rules[index]? = some d ∨
        ∃ s ∈ scopes, table = "scope '" ++ s.location ++ "'" ∧ s.rules[index]? = some d) := by
  obtain ⟨front, item, back, whole, -, own⟩ := compileError.mp refused
  have member : item ∈ items rules scopes := by simp [whole]
  cases item with
  | location glob =>
    simp only [Item.fault?] at own
    split at own
    · cases own
    · split at own <;> cases own
  | rule table' index' d =>
    obtain ⟨fault', failed, same⟩ := Option.map_eq_some_iff.mp own
    cases same
    refine ⟨d, rfl, failureSome.mp failed, ?_⟩
    rcases itemsMem.mp member with ⟨_, _, found, ⟨⟩⟩ | ⟨s, one, ⟨_, _, found, ⟨⟩⟩ | ⟨⟨⟩⟩⟩
    · exact .inl ⟨rfl, found⟩
    · exact .inr ⟨s, one, rfl, found⟩

end RuleSet

namespace Config

structure Valid (c : Config) : Prop where
  version : c.version = "1"
  rules : c.rules ≠ [] ∨ ∃ d ∈ c.scopes, d.rules ≠ []
  scopes : ∀ d ∈ c.scopes, (∃ g, Glob.read d.location = .ok g) ∧ d.rules ≠ []
  extensions : ∀ x ∈ c.extensions, '/' ∉ x.toList ∧ '\\' ∉ x.toList

structure Compiles [Engine] (c : Config) : Prop where
  rules : ∀ d ∈ c.rules, ∃ r, Rule.compile d = .ok r
  scopes : ∀ s ∈ c.scopes, ∀ d ∈ s.rules, ∃ r, Rule.compile d = .ok r

def Matched [Engine] (c : Config) : Prop := ∀ s ∈ c.scopes, s.Matched

def Describes (text : String) (c : Config) : Prop :=
  ∃ document, Toml.read text = some document ∧ ofDocument document = .ok c

theorem scopeFaultNone (d : ScopeDef) :
    scopeFault? d = none ↔ (∃ g, Glob.read d.location = .ok g) ∧ d.rules ≠ [] := by
  unfold scopeFault?
  rw [Glob.readBuild]
  cases Glob.build {} d.location <;> simp [Except.map]

theorem extensionFaultNone (x : String) :
    extensionFault? x = none ↔ '/' ∉ x.toList ∧ '\\' ∉ x.toList := by
  have apart : (∀ c ∈ x.toList, ¬c = '/' ∧ ¬c = '\\') ↔ '/' ∉ x.toList ∧ '\\' ∉ x.toList :=
    ⟨fun each => ⟨fun slash => (each _ slash).1 rfl, fun slash => (each _ slash).2 rfl⟩,
      fun ⟨one, other⟩ c member => ⟨fun h => one (h ▸ member), fun h => other (h ▸ member)⟩⟩
  unfold extensionFault?
  simpa [Filter.isSlash] using apart

theorem faultNone (c : Config) : c.fault? = none ↔ c.Valid := by
  unfold fault?
  by_cases version : c.version = "1"
  · by_cases empty : (c.rules.isEmpty && c.scopes.all (·.rules.isEmpty)) = true
    · rw [if_neg (not_not.mpr version), if_pos empty]
      refine ⟨nofun, fun valid => ?_⟩
      obtain ⟨global, scopes⟩ := Bool.and_eq_true_iff.mp empty
      rcases valid.rules with some | ⟨d, member, some⟩
      · exact absurd (List.isEmpty_iff.mp global) some
      · exact absurd (List.isEmpty_iff.mp (List.all_eq_true.mp scopes d member)) some
    · rw [if_neg (not_not.mpr version), if_neg empty, Option.or_eq_none_iff,
        List.findSome?_eq_none_iff, List.findSome?_eq_none_iff]
      simp only [scopeFaultNone, extensionFaultNone]
      refine ⟨fun ⟨scopes, extensions⟩ => ⟨version, ?_, scopes, extensions⟩,
        fun valid => ⟨valid.scopes, valid.extensions⟩⟩
      simpa [or_iff_not_imp_left] using empty
  · rw [if_pos version]
    exact ⟨nofun, fun valid => absurd valid.version version⟩

theorem describesUnique {text : String} {c d : Config} (one : Describes text c)
    (other : Describes text d) : c = d := by
  obtain ⟨document, read, shaped⟩ := one
  obtain ⟨document', read', shaped'⟩ := other
  cases read.symm.trans read'
  exact Except.ok.inj (shaped.symm.trans shaped')

theorem parseCases (text : String) :
    ((¬∃ c, Describes text c) ∧
        (parse text = .error .malformed ∨ ∃ e, parse text = .error (.shape e))) ∨
      ∃ c, Describes text c ∧
        (c.Valid ∧ parse text = .ok c ∨
          ¬c.Valid ∧ ∃ fault, parse text = .error (.invalid fault)) := by
  unfold parse
  cases read : Toml.read text with
  | none =>
    refine .inl ⟨?_, .inl rfl⟩
    rintro ⟨c, _, read', -⟩
    cases read.symm.trans read'
  | some document =>
    cases shaped : ofDocument document with
    | error e =>
      refine .inl ⟨?_, .inr ⟨e, by simp only [shaped]⟩⟩
      rintro ⟨c, _, read', shaped'⟩
      cases read.symm.trans read'
      cases shaped.symm.trans shaped'
    | ok c =>
      refine .inr ⟨c, ⟨document, read, shaped⟩, ?_⟩
      simp only [shaped, ← faultNone]
      cases c.fault? with
      | none => exact .inl ⟨rfl, rfl⟩
      | some fault => exact .inr ⟨nofun, fault, rfl⟩

theorem scopeFaultLocation [Engine] (d : ScopeDef) (table : RuleTable) (matched : d.Matched) :
    (∃ s, Scope.compile d.location table = .ok s) ↔
      ∀ reason, scopeFault? d ≠ some (.scopeGlob d.location reason) := by
  have located : (∃ s, Scope.compile d.location table = .ok s) ↔ ∃ g, Glob.read d.location = .ok g := by
    simp only [Scope.compileOk]
    exact ⟨fun ⟨_, g, read, _⟩ => ⟨g, read⟩, fun ⟨g, read⟩ => ⟨_, g, read, matched g read, rfl⟩⟩
  rw [located, Glob.readBuild]
  unfold scopeFault?
  cases Glob.build {} d.location with
  | error e => simp [Except.map]
  | ok g =>
    simp only [Except.map, Except.ok.injEq, exists_eq', true_iff]
    intro reason
    split <;> simp

theorem Valid.compiles [Engine] {c : Config} (valid : c.Valid) :
    (∃ rules, c.ruleSet = .ok rules) ↔ c.Compiles ∧ c.Matched := by
  rw [ruleSet, RuleSet.compileOk]
  constructor
  · rintro ⟨own, others⟩
    refine ⟨⟨own, fun s member => (others s member).1⟩, fun s member g read => ?_⟩
    obtain ⟨-, g', read', built⟩ := others s member
    cases read.symm.trans read'
    exact built
  · rintro ⟨compiles, matched⟩
    refine ⟨compiles.rules, fun s member => ⟨compiles.scopes s member, ?_⟩⟩
    obtain ⟨g, read⟩ := (valid.scopes s member).1
    exact ⟨g, read, matched s member g read⟩

theorem parseValid {text : String} {c : Config} (parsed : parse text = .ok c) : c.Valid := by
  rcases parseCases text with ⟨-, malformed | ⟨e, shape⟩⟩ | ⟨other, -, ⟨valid, same⟩ | ⟨-, e, invalid⟩⟩
  · cases malformed.symm.trans parsed
  · cases shape.symm.trans parsed
  · cases same.symm.trans parsed
    exact valid
  · cases invalid.symm.trans parsed

theorem ruleSetLocated [Engine] {c : Config} (valid : c.Valid) (glob reason : String) :
    c.ruleSet ≠ .error (.location glob reason) := by
  intro refused
  obtain ⟨front, item, back, whole, -, own⟩ := RuleSet.compileError.mp refused
  have member : item ∈ RuleSet.items c.rules c.scopes := by simp [whole]
  cases item with
  | rule table index d => simp [RuleSet.Item.fault?] at own
  | location glob' =>
    rcases RuleSet.itemsMem.mp member with ⟨_, _, -, ⟨⟩⟩ | ⟨s, one, ⟨_, _, -, ⟨⟩⟩ | ⟨⟨⟩⟩⟩
    obtain ⟨g, read⟩ := (valid.scopes s one).1
    simp only [RuleSet.Item.fault?, read] at own
    split at own <;> cases own

end Config

namespace RuleSet

/-- A rule set whose locations have matchers can be made if and only if each of its rules compiles and
each location can be read; otherwise the error is that of the first item which is refused, and if that
is a rule, the error names its table, its place there and its pattern. What a configuration is looked at
for suffices that a location is never refused later. -/
theorem firstFaultTold [Engine] (rules : List RuleDef) (scopes : List ScopeDef) :
    ((∀ s ∈ scopes, s.Matched) →
      ((∃ s, compile rules scopes = .ok s) ↔
        (∀ d ∈ rules, ∃ r, Rule.compile d = .ok r) ∧
          ∀ s ∈ scopes, (∀ d ∈ s.rules, ∃ r, Rule.compile d = .ok r) ∧
            ∃ g, Glob.read s.location = .ok g)) ∧
      (∀ e, compile rules scopes = .error e ↔
        ∃ front item back, items rules scopes = front ++ item :: back ∧
          (∀ i ∈ front, i.fault? = none) ∧ item.fault? = some e) ∧
      (∀ table index pattern fault,
        compile rules scopes = .error (.rule table index pattern fault) →
          ∃ d, d.pattern = pattern ∧ Rule.compile d = .error fault ∧
            (table = "global rules" ∧ rules[index]? = some d ∨
              ∃ s ∈ scopes, table = "scope '" ++ s.location ++ "'" ∧ s.rules[index]? = some d)) ∧
      (∀ text c, Config.parse text = .ok c → ∀ glob reason,
        c.ruleSet ≠ .error (.location glob reason)) ∧
      ∀ (d : ScopeDef) (table : RuleTable), d.Matched →
        ((∃ s, Scope.compile d.location table = .ok s) ↔
          ∀ reason, Config.scopeFault? d ≠ some (.scopeGlob d.location reason)) :=
  ⟨compileMatched, fun _ => compileError, fun _ _ _ _ => compileErrorRule,
    fun _ _ parsed => Config.ruleSetLocated (Config.parseValid parsed), Config.scopeFaultLocation⟩

def faulty : List RuleDef × List ScopeDef :=
  ([⟨"a", "b", false⟩],
    [⟨"d/**", [⟨"x", "y", true⟩]⟩,
      ⟨"\x7ba", [⟨"x", "y", true⟩, ⟨"(", "y", false⟩, ⟨"[", "", false⟩]⟩, ⟨"[", []⟩])

def unclosed : String :=
  "[rewire]\nversion=\"1\"\n[[scopes]]\nlocation=\"d/**\"\n" ++
    "[[scopes.rules]]\npattern=\"(\"\nreplacement=\"x\"\n"

open Engine in
set_option maxRecDepth 100000 in
theorem firstFaultToldFaulty :
    compile faulty.1 faulty.2 = .error (.rule "scope '\x7ba'" 1 "(" (.pattern .groupUnclosed)) ∧
      (¬∃ s, compile faulty.1 faulty.2 = .ok s) ∧
      ∃ c, Config.parse unclosed = .ok c ∧
        failure? c.ruleSet = some (.rule "scope 'd/**'" 0 "(" (.pattern .groupUnclosed)) ∧
        ∀ glob reason, c.ruleSet ≠ .error (.location glob reason) := by
  obtain ⟨-, told, -, located, -⟩ := firstFaultTold faulty.1 faulty.2
  have front : items faulty.1 faulty.2 =
      [.rule "global rules" 0 ⟨"a", "b", false⟩, .rule "scope 'd/**'" 0 ⟨"x", "y", true⟩,
        .location "d/**", .rule "scope '\x7ba'" 0 ⟨"x", "y", true⟩] ++
      .rule "scope '\x7ba'" 1 ⟨"(", "y", false⟩ ::
        [.rule "scope '\x7ba'" 2 ⟨"[", "", false⟩, .location "\x7ba", .location "["] := by
    decide +kernel
  have refused := (told (.rule "scope '\x7ba'" 1 "(" (.pattern .groupUnclosed))).mpr
    ⟨_, _, _, front, by decide +kernel, by decide +kernel⟩
  have parses : (Config.parse unclosed).toOption.map (failure? ·.ruleSet) =
      some (some (.rule "scope 'd/**'" 0 "(" (.pattern .groupUnclosed))) := by decide +kernel
  obtain ⟨c, parsed, first⟩ := Rule.okOfMap parses
  refine ⟨refused, ?_, c, parsed, first, located unclosed c parsed⟩
  rintro ⟨s, made⟩
  cases refused.symm.trans made

def nestedChars : List Char :=
  (List.replicate 126 ['\x7b', 'a']).flatten ++ List.replicate 126 '\x7d'

def nested : String := String.ofList nestedChars

def nestedScope : ScopeDef := ⟨nested, [⟨"x", "y", true⟩]⟩

set_option maxRecDepth 100000 in
theorem nestedRead [Engine] : ∃ g, Glob.read nested = .ok g ∧ g.hasMatcher = false := by
  have deep : (Glob.readTokens { separated := true } nestedChars).toOption.map (fun ts =>
      decide ((Glob.mk "" { separated := true } ts).translation.depth ≤ Pattern.nestLimit)) =
        some false := by decide +kernel
  obtain ⟨ts, read, deep⟩ := Rule.okOfMap deep
  refine ⟨⟨nested, { separated := true }, ts⟩, ?_, ?_⟩
  · rw [Glob.read, Glob.build, nested, String.toList_ofList, read]
    rfl
  · rw [Glob.hasMatcher, Bool.and_eq_false_iff]
    exact .inl deep

theorem compileUnmatched [Engine] {s : ScopeDef} {g : Glob} (read : Glob.read s.location = .ok g)
    (unmatched : g.hasMatcher = false) (compiles : ∀ d ∈ s.rules, ∃ r, Rule.compile d = .ok r) :
    compile [] [s] = .error (.noMatcher s.location) := by
  have whole : items [] [s] =
      tableItems (scopeName s.location) 0 s.rules ++ [.location s.location] := by
    simp [items, scopeItems, tableItems]
  refine compileError.mpr ⟨_, _, [], whole, tableSound.mpr compiles, ?_⟩
  simp [Item.fault?, read, unmatched]

theorem nestedStops [Engine] (compiles : ∀ d ∈ nestedScope.rules, ∃ r, Rule.compile d = .ok r) :
    compile [] [nestedScope] = .error (.noMatcher nested) := by
  obtain ⟨g, read, unmatched⟩ := nestedRead
  exact compileUnmatched (s := nestedScope) read unmatched compiles

open Engine in
set_option maxRecDepth 100000 in
theorem nestedRules : ∀ d ∈ nestedScope.rules, ∃ r, Rule.compile d = .ok r := by
  have rule : ∃ r, Rule.compile ⟨"x", "y", true⟩ = .ok r := failureNone.mp (by decide +kernel)
  simpa [nestedScope] using rule

open Engine in
theorem firstFaultStoppedNested :
    (∀ d ∈ nestedScope.rules, ∃ r, Rule.compile d = .ok r) ∧
      (∃ g, Glob.read nestedScope.location = .ok g) ∧ Config.scopeFault? nestedScope = none ∧
      compile [] [nestedScope] = .error (.noMatcher nested) := by
  obtain ⟨g, read, -⟩ := nestedRead
  have passed : Config.scopeFault? nestedScope = none :=
    (Config.scopeFaultNone nestedScope).mpr ⟨⟨g, read⟩, List.cons_ne_nil _ _⟩
  exact ⟨nestedRules, ⟨g, read⟩, passed, nestedStops nestedRules⟩

end RuleSet

end Codemod
