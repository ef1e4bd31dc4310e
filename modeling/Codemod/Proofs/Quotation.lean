import Codemod.Proofs.Literal

/-!
A literal rule is a spelling of another rule, whose pattern is the escaped text and whose template is
the quoted replacement. A quoted template refers to nothing, and what is put in for it is the text
that was quoted.
-/
namespace Codemod

namespace Template

theorem readsQuoted (cs : List Char) : Reads (quote cs) (cs.map .char) := by
  induction cs with
  | nil => exact .nil
  | cons c rest ih =>
    rw [quote, List.map_cons]
    by_cases dollar : c = '$'
    · rw [if_pos dollar, dollar]
      exact .doubled ih
    · rw [if_neg dollar]
      exact .plain dollar ih

theorem expandQuoted (group : GroupRef → List Char) (cs : List Char) :
    expand group (quote cs) = cs := by
  rw [expand, interpolateReads _ _ (readsQuoted cs), List.flatMap_map]
  exact List.flatMap_singleton' cs

theorem referencesQuoted (cs : List Char) : references (quote cs) = [] := by
  rw [referencesReads (readsQuoted cs), List.flatMap_map]
  exact List.flatMap_eq_nil_iff.mpr fun _ _ => rfl

end Template

namespace Rule

open Pattern

variable {d : RuleDef}

def quoted (d : RuleDef) : RuleDef :=
  ⟨String.ofList (escape d.pattern.toList), String.ofList (Template.quote d.replacement.toList), false⟩

theorem compileQuoted [Engine] (filled : d.pattern.toList ≠ []) :
    compile (quoted d) =
      if Engine.fits (escape d.pattern.toList) = false then .error (.pattern .size)
      else .ok ⟨quoted d, .text d.pattern.toList, (Expr.text d.pattern.toList).program⟩ := by
  have escaped : source (quoted d) = escape d.pattern.toList := String.toList_ofList
  have nothing : Template.references (quoted d).replacement.toList = [] := by
    rw [quoted, String.toList_ofList, Template.referencesQuoted]
  exact compileEscaped escaped filled (.inr nothing)

theorem replacementQuoted (literal : d.literal = true) (p : Pattern) :
    replacementFor ⟨quoted d, p⟩ = replacementFor ⟨d, p⟩ := by
  funext text m
  rw [replacementFor, replacementFor, if_pos literal, if_neg (by simp [quoted]), quoted,
    String.toList_ofList, Template.expandQuoted]

/-- A literal rule and its quotation are accepted alike. If the engine takes their pattern both are,
and they make the same of every text, with the same count. -/
theorem quotedAgrees [Engine] (literal : d.literal = true) (filled : d.pattern ≠ "") :
    (Engine.fits (escape d.pattern.toList) = true →
      ∃ plain other, compile d = .ok plain ∧ compile (quoted d) = .ok other ∧
        ∀ content, plain.apply content = other.apply content) ∧
      (Engine.fits (escape d.pattern.toList) = false →
        compile d = .error (.pattern .size) ∧ compile (quoted d) = .error (.pattern .size)) := by
  have some : d.pattern.toList ≠ [] := fun empty => filled (String.toList_eq_nil_iff.mp empty)
  rw [compileLiteral literal some, compileQuoted some]
  constructor
  · intro small
    rw [if_neg (by simp [small]), if_neg (by simp [small])]
    refine ⟨_, _, rfl, rfl, fun content => ?_⟩
    rw [applyWoven, applyWoven, replacementQuoted literal]
  · intro large
    rw [if_pos large, if_pos large]
    exact ⟨rfl, rfl⟩

def dollared : RuleDef := ⟨"$1.*", "$$$x$1$\x7b0", true⟩

open Engine in
set_option maxRecDepth 100000 in
theorem quotedAgreesDollared :
    dollared.literal = true ∧ dollared.pattern ≠ "" ∧
      Engine.fits (escape dollared.pattern.toList) = true ∧
      (quoted dollared).replacement = "$$$$$$x$$1$$\x7b0" ∧
      ∃ plain other, compile dollared = .ok plain ∧ compile (quoted dollared) = .ok other ∧
        plain.apply "a$1.*$1.*" = ("a$$$x$1$\x7b0$$$x$1$\x7b0", 2) ∧
        other.apply "a$1.*$1.*" = ("a$$$x$1$\x7b0$$$x$1$\x7b0", 2) := by
  have small : Engine.fits (escape dollared.pattern.toList) = true := by decide +kernel
  have doubled : (quoted dollared).replacement = "$$$$$$x$$1$$\x7b0" := by decide +kernel
  have applied : (compile dollared).toOption.map (·.apply "a$1.*$1.*") =
      some ("a$$$x$1$\x7b0$$$x$1$\x7b0", 2) := by decide +kernel
  obtain ⟨plain, other, accepted, quotes, same⟩ :=
    (quotedAgrees (d := dollared) rfl (by decide)).1 small
  obtain ⟨r, compiled, result⟩ := okOfMap applied
  cases accepted.symm.trans compiled
  refine ⟨rfl, by decide, small, doubled, plain, other, accepted, quotes, result, ?_⟩
  rw [← same]
  exact result

open Engine in
theorem fitsEscaped {cs : List Char} (filled : cs ≠ []) :
    Engine.fits (escape cs) = decide (32 * (bytesOf cs).length + frameWeight ≤ sizeLimit) := by
  simp only [Engine.fits, exprEscaped filled, Expr.weight]
  rfl

def endless : RuleDef := ⟨String.ofList (List.replicate 440000 'a'), "b", true⟩

open Engine in
theorem quotedRefusedEndless :
    endless.pattern ≠ "" ∧ compile endless = .error (.pattern .size) ∧
      compile (quoted endless) = .error (.pattern .size) := by
  have text : endless.pattern.toList = List.replicate 440000 'a' := String.toList_ofList
  have filled : endless.pattern.toList ≠ [] := by
    rw [text, ne_eq, List.replicate_eq_nil_iff]
    decide
  have bytes : (bytesOf endless.pattern.toList).length = 440000 := by
    have byte : (String.utf8EncodeChar 'a').length = 1 := rfl
    rw [text, bytesOf, List.length_flatMap, List.map_replicate, byte, List.sum_replicate_nat]
  have large : Engine.fits (escape endless.pattern.toList) = false := by
    rw [fitsEscaped filled, bytes]
    decide
  refine ⟨fun empty => filled (String.toList_eq_nil_iff.mpr empty), ?_, ?_⟩
  · rw [compileLiteral rfl filled, if_pos large]
  · rw [compileQuoted filled, if_pos large]

end Rule

end Codemod
