import Codemod.Pattern

/-!
Rules: a pattern and what its matches are replaced by. A literal rule takes both as plain text; in
any other the pattern is a regular expression and the replacement a template.
-/
namespace Codemod

structure RuleDef where
  pattern : String
  replacement : String
  literal : Bool := false
  deriving DecidableEq, Repr

structure Rule where
  definition : RuleDef
  pattern : Pattern
  deriving DecidableEq, Repr

inductive RuleFault where
  | pattern (e : Pattern.Error)
  | matchesEmpty
  | unknownGroup (replacement : String) (group : GroupRef)
  | other (message : String)
  deriving DecidableEq, Repr

/-- The fault in words. A fault in the pattern's text takes two lines. -/
def RuleFault.message : RuleFault → String
  | .pattern .size => Pattern.Error.text .size
  | .pattern e => "regex parse error:\nerror: " ++ e.text
  | .matchesEmpty => "pattern matches the empty string and would rewrite every position"
  | .unknownGroup replacement group =>
    "replacement '" ++ replacement ++ "' references unknown capture group " ++ group.text
  | .other message => message

def RuleFault.summary : RuleFault → String
  | .pattern e => e.message
  | fault => fault.message

namespace Rule

def source (d : RuleDef) : List Char :=
  if d.literal then Pattern.escape d.pattern.toList else d.pattern.toList

/-- Compiles a rule. Refuses a pattern that may match nothing, for it would match everywhere, and a
template that refers to a group that the pattern lacks. -/
def compile [Engine] (d : RuleDef) : Except RuleFault Rule :=
  match Pattern.compile (source d) with
  | .error e => .error (.pattern e)
  | .ok p =>
    if p.expr.minLength = some 0 then .error .matchesEmpty
    else if d.literal then .ok ⟨d, p⟩
    else match (Template.references d.replacement.toList).find? (!p.knows ·) with
      | some r => .error (.unknownGroup d.replacement r)
      | none => .ok ⟨d, p⟩

def replacementFor (r : Rule) (text : Pattern.Haystack) (m : Pattern.Match) : List Char :=
  if r.definition.literal then r.definition.replacement.toList
  else Template.expand (r.pattern.groupText text m) r.definition.replacement.toList

def replaceFrom (r : Rule) (text : Pattern.Haystack) (last : Nat) :
    List Pattern.Match → List Char
  | [] => (text.extract last text.size).toList
  | m :: rest =>
    (text.extract last m.start).toList ++ r.replacementFor text m ++ r.replaceFrom text m.stop rest

def apply (r : Rule) (content : String) : String × Nat :=
  let text := content.toList.toArray
  let found := r.pattern.program.findAll text
  if found.isEmpty then (content, 0)
  else (String.ofList (r.replaceFrom text 0 found), found.length)

end Rule

end Codemod
